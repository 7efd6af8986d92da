/-! UTF-8: reading bytes as text, strictly or with replacement characters. -/

namespace GoStub.Text

/-- Why bytes are no text: a sequence of `length` bytes that starts no character, or a character
that the end of the input cuts short. -/
inductive Utf8Fault
  | invalid (index length : Nat)
  | cut (index : Nat)
  deriving DecidableEq

def Utf8Fault.message : Utf8Fault → String
  | .invalid index length =>
    "invalid utf-8 sequence of " ++ toString length ++ " bytes from index " ++ toString index
  | .cut index => "incomplete utf-8 byte sequence from index " ++ toString index

/-- What the first bytes are: a character with its length, the longest start of a character that
cannot go on, or a start that only lacks further bytes. -/
inductive Utf8Step
  | char (c : Char) (length : Nat)
  | invalid (length : Nat)
  | cut

def isContinuation (b : UInt8) : Bool :=
  0x80 ≤ b && b ≤ 0xBF

/-- The range of the second byte after a leading byte; it excludes overlong forms, surrogates and
code points that are too large. -/
def secondRange (lead : UInt8) : UInt8 × UInt8 :=
  if lead = 0xE0 then (0xA0, 0xBF)
  else if lead = 0xED then (0x80, 0x9F)
  else if lead = 0xF0 then (0x90, 0xBF)
  else if lead = 0xF4 then (0x80, 0x8F)
  else (0x80, 0xBF)

def tailBits (b : UInt8) : Nat :=
  b.toNat % 64

def utf8Step (lead : UInt8) (rest : List UInt8) : Utf8Step :=
  let (lo, hi) := secondRange lead
  if lead < 0x80 then .char (Char.ofNat lead.toNat) 1
  else if lead < 0xC2 then .invalid 1
  else if lead < 0xE0 then
    match rest with
    | [] => .cut
    | b :: _ =>
      if isContinuation b then .char (Char.ofNat (lead.toNat % 32 * 64 + tailBits b)) 2
      else .invalid 1
  else if lead < 0xF0 then
    match rest with
    | [] => .cut
    | b :: rest =>
      if b < lo || hi < b then .invalid 1
      else
        match rest with
        | [] => .cut
        | c :: _ =>
          if isContinuation c then
            .char (Char.ofNat (lead.toNat % 16 * 4096 + tailBits b * 64 + tailBits c)) 3
          else .invalid 2
  else if lead < 0xF5 then
    match rest with
    | [] => .cut
    | b :: rest =>
      if b < lo || hi < b then .invalid 1
      else
        match rest with
        | [] => .cut
        | c :: rest =>
          if !isContinuation c then .invalid 2
          else
            match rest with
            | [] => .cut
            | d :: _ =>
              if isContinuation d then
                .char (Char.ofNat
                  (lead.toNat % 8 * 262144 + tailBits b * 4096 + tailBits c * 64 + tailBits d)) 4
              else .invalid 3
  else .invalid 1

/-- Reads bytes as text; `skip` counts bytes of a character that was read already. -/
def decodeFrom (index : Nat) : (skip : Nat) → List UInt8 → Except Utf8Fault (List Char)
  | _, [] => .ok []
  | skip + 1, _ :: rest => decodeFrom (index + 1) skip rest
  | 0, lead :: rest =>
    match utf8Step lead rest with
    | .char c length => do
      let cs ← decodeFrom (index + 1) (length - 1) rest
      return c :: cs
    | .invalid length => .error (.invalid index length)
    | .cut => .error (.cut index)

/-- Reads bytes as text, with one replacement character for each sequence that is none. -/
def decodeLossyFrom : (skip : Nat) → List UInt8 → List Char
  | _, [] => []
  | skip + 1, _ :: rest => decodeLossyFrom skip rest
  | 0, lead :: rest =>
    match utf8Step lead rest with
    | .char c length => c :: decodeLossyFrom (length - 1) rest
    | .invalid length => Char.ofNat 0xFFFD :: decodeLossyFrom (length - 1) rest
    | .cut => [Char.ofNat 0xFFFD]

def decode (bytes : ByteArray) : Except Utf8Fault String :=
  (decodeFrom 0 0 bytes.toList).map String.ofList

def decodeLossy (bytes : ByteArray) : String :=
  String.ofList (decodeLossyFrom 0 bytes.toList)

end GoStub.Text
