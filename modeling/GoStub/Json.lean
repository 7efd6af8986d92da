import GoStub.Text.Basic
import GoStub.Text.Utf8

/-! JSON values: reading them from bytes, and writing texts. -/

namespace GoStub

/-- A JSON value. Numbers are not kept, and a text that is not valid Unicode is kept as none. -/
inductive Json
  | null
  | bool (value : Bool)
  | number
  | string (text : Option String)
  | array (items : List Json)
  | object (members : List (Option String × Json))

namespace Json

def isGap (b : UInt8) : Bool :=
  b == 32 || b == 9 || b == 10 || b == 13

def isDigit (b : UInt8) : Bool :=
  48 ≤ b && b ≤ 57

def skip (bs : List UInt8) : List UInt8 :=
  bs.dropWhile isGap

def hexDigit? (b : UInt8) : Option Nat :=
  if isDigit b then some (b.toNat - 48)
  else if 97 ≤ b && b ≤ 102 then some (b.toNat - 87)
  else if 65 ≤ b && b ≤ 70 then some (b.toNat - 55)
  else none

/-- Four hexadecimal digits. -/
def unit? : List UInt8 → Option (Nat × List UInt8)
  | a :: b :: c :: d :: rest => do
    let a ← hexDigit? a
    let b ← hexDigit? b
    let c ← hexDigit? c
    let d ← hexDigit? d
    return (((a * 16 + b) * 16 + c) * 16 + d, rest)
  | _ => none

def encode (n : Nat) : List UInt8 :=
  (String.singleton (Char.ofNat n)).toUTF8.toList

def isLeading (n : Nat) : Bool :=
  0xD800 ≤ n && n < 0xDC00

def isTrailing (n : Nat) : Bool :=
  0xDC00 ≤ n && n < 0xE000

def simpleEscape? (b : UInt8) : Option UInt8 :=
  match Char.ofNat b.toNat with
  | '"' => some 34
  | '\\' => some 92
  | '/' => some 47
  | 'b' => some 8
  | 'f' => some 12
  | 'n' => some 10
  | 'r' => some 13
  | 't' => some 9
  | _ => none

/-- A trailing surrogate written as an escape. -/
def trailing? : List UInt8 → Option (Nat × List UInt8)
  | 92 :: 117 :: rest =>
    match unit? rest with
    | some (n, rest) => if isTrailing n then some (n, rest) else none
    | none => none
  | _ => none

/-- The rest of a string after its opening quote: its bytes in reverse, whether its escapes make
sense, and what follows. -/
def stringBytes : Nat → List UInt8 → Bool → List UInt8 → Option (List UInt8 × Bool × List UInt8)
  | 0, _, _, _ => none
  | _ + 1, _, _, [] => none
  | fuel + 1, found, valid, b :: rest =>
    if b = 34 then some (found, valid, rest)
    else if b < 32 then none
    else if b ≠ 92 then stringBytes fuel (b :: found) valid rest
    else
      match rest with
      | [] => none
      | 117 :: rest =>
        match unit? rest with
        | none => none
        | some (n, rest) =>
          if isLeading n then
            match trailing? rest with
            | some (m, rest) =>
              let code := 0x10000 + (n - 0xD800) * 0x400 + (m - 0xDC00)
              stringBytes fuel ((encode code).reverse ++ found) valid rest
            | none => stringBytes fuel found false rest
          else if isTrailing n then stringBytes fuel found false rest
          else stringBytes fuel ((encode n).reverse ++ found) valid rest
      | e :: rest =>
        match simpleEscape? e with
        | some c => stringBytes fuel (c :: found) valid rest
        | none => none

def string? (bs : List UInt8) : Option (Option String × List UInt8) :=
  (stringBytes (bs.length + 1) [] true bs).map fun (found, valid, rest) =>
    let text := (Text.decode ⟨found.reverse.toArray⟩).toOption
    (if valid then text else none, rest)

def digits1? (bs : List UInt8) : Option (List UInt8) :=
  match bs with
  | b :: rest => if isDigit b then some (rest.dropWhile isDigit) else none
  | [] => none

def integer? : List UInt8 → Option (List UInt8)
  | 48 :: rest => some rest
  | bs => digits1? bs

def fraction? : List UInt8 → Option (List UInt8)
  | 46 :: rest => digits1? rest
  | bs => some bs

def exponent? (bs : List UInt8) : Option (List UInt8) :=
  match bs with
  | e :: rest =>
    if e = 101 || e = 69 then
      match rest with
      | 43 :: rest => digits1? rest
      | 45 :: rest => digits1? rest
      | rest => digits1? rest
    else some bs
  | [] => some bs

/-- Passes a number. -/
def number? (bs : List UInt8) : Option (List UInt8) := do
  let unsigned :=
    match bs with
    | 45 :: rest => rest
    | bs => bs
  exponent? (← fraction? (← integer? unsigned))

def word? (word : String) (bs : List UInt8) : Option (List UInt8) :=
  let w := word.toUTF8.toList
  if w.isPrefixOf bs then some (bs.drop w.length) else none

mutual

def value? : Nat → List UInt8 → Option (Json × List UInt8)
  | 0, _ => none
  | fuel + 1, bs =>
    match skip bs with
    | 34 :: rest => (string? rest).map fun (text, rest) => (.string text, rest)
    | 91 :: rest =>
      match skip rest with
      | 93 :: rest => some (.array [], rest)
      | rest => (items? fuel rest).map fun (items, rest) => (.array items, rest)
    | 123 :: rest =>
      match skip rest with
      | 125 :: rest => some (.object [], rest)
      | rest => (members? fuel rest).map fun (members, rest) => (.object members, rest)
    | bs =>
      ((word? "null" bs).map (Json.null, ·)) <|>
      ((word? "true" bs).map (Json.bool true, ·)) <|>
      ((word? "false" bs).map (Json.bool false, ·)) <|>
      ((number? bs).map (Json.number, ·))

def items? : Nat → List UInt8 → Option (List Json × List UInt8)
  | 0, _ => none
  | fuel + 1, bs =>
    match value? fuel bs with
    | none => none
    | some (item, rest) =>
      match skip rest with
      | 93 :: rest => some ([item], rest)
      | 44 :: rest => (items? fuel rest).map fun (items, rest) => (item :: items, rest)
      | _ => none

def members? : Nat → List UInt8 → Option (List (Option String × Json) × List UInt8)
  | 0, _ => none
  | fuel + 1, bs =>
    match skip bs with
    | 34 :: rest =>
      match string? rest with
      | none => none
      | some (key, rest) =>
        match skip rest with
        | 58 :: rest =>
          match value? fuel rest with
          | none => none
          | some (value, rest) =>
            match skip rest with
            | 125 :: rest => some ([(key, value)], rest)
            | 44 :: rest =>
              (members? fuel rest).map fun (members, rest) => ((key, value) :: members, rest)
            | _ => none
        | _ => none
    | _ => none

end

/-- The value some bytes hold; nothing but white space may stand around it. -/
def read? (bytes : ByteArray) : Option Json :=
  let bs := bytes.toList
  match value? (bs.length + 1) bs with
  | some (value, rest) => if skip rest = [] then some value else none
  | none => none

/-- The fields of a record: by name from an object, in which none of them may come twice, or in
order from an array. -/
def fields? (names : List String) : Json → Option (List (Option Json))
  | .object members => do
    let members ← members.mapM fun (key, value) => key.map (·, value)
    if names.any (fun name => 1 < members.countP (·.1 == name)) then none
    else return names.map fun name => members.lookup name
  | .array items => if items.length = names.length then some (items.map some) else none
  | _ => none

/-- A text, which is empty when it is missing. -/
def text? : Option Json → Option String
  | none => some ""
  | some (.string text) => text
  | some _ => none

def texts? : Option Json → Option (List String)
  | none => some []
  | some (.array items) => items.mapM fun item => text? (some item)
  | some _ => none

/-- A character inside quotes. -/
def escape (c : Char) : List Char :=
  if c = '"' then ['\\', '"']
  else if c = '\\' then ['\\', '\\']
  else if c = '\n' then ['\\', 'n']
  else if c = '\r' then ['\\', 'r']
  else if c = '\t' then ['\\', 't']
  else if c.toNat = 8 then ['\\', 'b']
  else if c.toNat = 12 then ['\\', 'f']
  else if c.toNat < 32 then
    ['\\', 'u', '0', '0', Nat.digitChar (c.toNat / 16), Nat.digitChar (c.toNat % 16)]
  else [c]

/-- A text in quotes. -/
def quote (s : String) : String :=
  String.ofList ('"' :: s.toList.flatMap escape ++ ['"'])

end Json

end GoStub
