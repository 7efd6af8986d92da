/-! File name patterns, as steps over the bytes of a path. -/

namespace GoStub.Ignore

/-- A step of a pattern. `anyDirs` stands for any directories before what follows, `dirsBetween` for
any between two names, `everythingBelow` for all that a directory holds, `everything` for all. -/
inductive Step
  | byte (b : UInt8)
  | anyByte
  | anyBytes
  | oneOf (negated : Bool) (ranges : List (UInt8 × UInt8))
  | anyDirs
  | dirsBetween
  | everythingBelow
  | everything
  deriving DecidableEq

def slash : UInt8 :=
  47

/-- Whether `rest` accepts what follows some slash. -/
def afterSlash (rest : List UInt8 → Bool) : List UInt8 → Bool
  | [] => false
  | b :: bs => (b == slash && rest bs) || afterSlash rest bs

/-- Whether `rest` accepts what is left after some bytes of a name. -/
def afterName (rest : List UInt8 → Bool) : List UInt8 → Bool
  | [] => rest []
  | b :: bs => rest (b :: bs) || (b != slash && afterName rest bs)

/-- Whether `rest` accepts what is left after some bytes. -/
def afterAny (rest : List UInt8 → Bool) : List UInt8 → Bool
  | [] => rest []
  | b :: bs => rest (b :: bs) || afterAny rest bs

def inRanges (ranges : List (UInt8 × UInt8)) (b : UInt8) : Bool :=
  ranges.any fun r => r.1 ≤ b && b ≤ r.2

/-- Whether `rest` accepts what follows a first byte that satisfies a test. -/
def afterByte (p : UInt8 → Bool) (rest : List UInt8 → Bool) : List UInt8 → Bool
  | [] => false
  | b :: bs => p b && rest bs

/-- Whether a step, followed by what `rest` accepts, accepts a path. -/
def Step.accepts (rest : List UInt8 → Bool) : Step → List UInt8 → Bool
  | .byte b => afterByte (· == b) rest
  | .anyByte => afterByte (· != slash) rest
  | .oneOf negated ranges => afterByte (fun b => inRanges ranges b != negated) rest
  | .anyBytes => afterName rest
  | .anyDirs => fun path => rest path || afterSlash rest path
  | .dirsBetween => afterByte (· == slash) fun path => rest path || afterSlash rest path
  | .everythingBelow => afterByte (· == slash) (afterAny rest)
  | .everything => afterAny rest

/-- Whether a pattern accepts a path. -/
def accepts : List Step → List UInt8 → Bool
  | [], path => path.isEmpty
  | step :: steps, path => step.accepts (accepts steps) path

/-- A part of a pattern: a step, or a choice between patterns. -/
inductive Part
  | step (s : Step)
  | choice (branches : List (List Part))

mutual

/-- Whether a part stands for nothing at all: a choice all of whose branches do. -/
def Part.isVoid : Part → Bool
  | .step _ => false
  | .choice branches => areVoid branches

def isVoid : List Part → Bool
  | [] => true
  | part :: rest => part.isVoid && isVoid rest

def areVoid : List (List Part) → Bool
  | [] => true
  | branch :: rest => isVoid branch && areVoid rest

end

mutual

/-- The patterns without choices that a part stands for. Branches that stand for nothing are left
out, unless there are no others. -/
def Part.expand : Part → List (List Step)
  | .step s => [[s]]
  | .choice branches =>
    let heads := expandBranches branches
    if heads.isEmpty then [[]] else heads

def expand : List Part → List (List Step)
  | [] => [[]]
  | part :: rest => part.expand.flatMap fun head => (expand rest).map (head ++ ·)

def expandBranches : List (List Part) → List (List Step)
  | [] => []
  | branch :: rest => (if isVoid branch then [] else expand branch) ++ expandBranches rest

end

def bytesOf (c : Char) : List UInt8 :=
  (String.singleton c).toUTF8.toList

/-- The byte ranges of a range of characters. -/
def byteRanges (first last : Char) : List (UInt8 × UInt8) :=
  if first = last then (bytesOf first).map fun b => (b, b)
  else
    let start := bytesOf first
    let stop := bytesOf last
    start.dropLast.map (fun b => (b, b)) ++
      [(start.getLast?.getD 0, stop.head?.getD 0)] ++
      stop.tail.map fun b => (b, b)

/-- Extends the last range to a character; it may not end before it starts. -/
def extendLast (c : Char) : List (Char × Char) → Option (List (Char × Char))
  | (first, _) :: rest => if first ≤ c then some ((first, c) :: rest) else none
  | [] => none

/-- What follows an opening bracket: a class and what stands after it, no class because the bracket
is never closed, or a class with a range that ends before it starts. -/
inductive ClassReading
  | closed (ranges : List (Char × Char)) (rest : List Char)
  | unclosed
  | malformed

/-- Reads a class; `found` holds its ranges in reverse. -/
def classRanges (first inRange : Bool) (found : List (Char × Char)) : List Char → ClassReading
  | [] => .unclosed
  | c :: rest =>
    if c = ']' && !first then
      .closed (if inRange then ('-', '-') :: found else found).reverse rest
    else if c = '-' && !first && !inRange then classRanges false true found rest
    else if inRange then
      match extendLast c found with
      | some found => classRanges false false found rest
      | none => .malformed
    else classRanges false false ((c, c) :: found) rest

/-- A class, after its opening bracket. -/
def readClass (cs : List Char) : Bool × ClassReading :=
  match cs with
  | '!' :: rest => (true, classRanges true false [] rest)
  | '^' :: rest => (true, classRanges true false [] rest)
  | cs => (false, classRanges true false [] cs)

/-- A choice being read: its complete branches and the parts of the current one, all in reverse. -/
structure Frame where
  done : List (List Part)
  current : List Part

def pushAll (parts : List Part) : List Frame → List Frame
  | [] => []
  | f :: frames => { f with current := parts.reverse ++ f.current } :: frames

def push (s : Step) (frames : List Frame) : List Frame :=
  pushAll [.step s] frames

/-- Two stars after a slash: the last part, which is the slash, is replaced. -/
def pushDirs (below : Bool) : List Frame → List Frame
  | [] => []
  | f :: frames =>
    let part : Part :=
      match f.current with
      | .step .anyDirs :: _ => .step .anyDirs
      | .step .everythingBelow :: _ => .step .everythingBelow
      | _ => .step (if below then .everythingBelow else .dirsBetween)
    { f with current := part :: f.current.tail } :: frames

def startsBranch : List Frame → Bool
  | f :: _ => f.current.isEmpty
  | [] => true

/-- Whether two stars after a character can stand for directories: after a slash, and in a choice
also after what its branches are parted by. -/
def mayFollow (nested : Bool) (previous : Option Char) : Bool :=
  previous == some '/' || (nested && (previous == some ',' || previous == some '\x7b'))

/-- Reads a pattern after the character `previous`; the frames are the choices that are open, and
the pattern itself. -/
def readParts : Nat → Option Char → List Frame → List Char → Option (List Part)
  | 0, _, _, _ => none
  | _ + 1, _, frames, [] =>
    match frames with
    | [f] => some f.current.reverse
    | _ => none
  | fuel + 1, previous, frames, c :: rest =>
    let nested := decide (1 < frames.length)
    match c with
    | '?' => readParts fuel (some c) (push .anyByte frames) rest
    | '*' =>
      match rest with
      | '*' :: rest =>
        let stars := pushAll [.step .anyBytes, .step .anyBytes] frames
        if startsBranch frames then
          match rest with
          | [] => readParts fuel (some c) (push .anyDirs frames) []
          | '/' :: rest => readParts fuel (some '/') (push .anyDirs frames) rest
          | rest => readParts fuel (some c) stars rest
        else if !mayFollow nested previous then readParts fuel (some c) stars rest
        else
          match rest with
          | [] => readParts fuel (some c) (pushDirs true frames) []
          | '/' :: rest => readParts fuel (some '/') (pushDirs false frames) rest
          | d :: rest =>
            if nested && (d == ',' || d == '\x7d') then
              readParts fuel (some c) (pushDirs true frames) (d :: rest)
            else readParts fuel (some c) stars (d :: rest)
      | rest => readParts fuel (some c) (push .anyBytes frames) rest
    | '[' =>
      match readClass rest with
      | (negated, .closed ranges rest) =>
        let step := .oneOf negated (ranges.flatMap fun r => byteRanges r.1 r.2)
        readParts fuel (some ']') (push step frames) rest
      | (_, .unclosed) => readParts fuel (some c) (push (.byte 91) frames) rest
      | (_, .malformed) => none
    | '\x7b' => readParts fuel (some c) (⟨[], []⟩ :: frames) rest
    | '\x7d' =>
      match frames with
      | f :: g :: frames =>
        let choice := Part.choice (f.current.reverse :: f.done).reverse
        readParts fuel (some c) (pushAll [choice] (g :: frames)) rest
      | _ => none
    | ',' =>
      match frames, nested with
      | f :: frames, true =>
        readParts fuel (some c) (⟨f.current.reverse :: f.done, []⟩ :: frames) rest
      | frames, _ => readParts fuel (some c) (push (.byte 44) frames) rest
    | '\\' =>
      match rest with
      | d :: rest =>
        readParts fuel (some d) (pushAll ((bytesOf d).map fun b => .step (.byte b)) frames) rest
      | [] => none
    | c => readParts fuel (some c) (pushAll ((bytesOf c).map fun b => .step (.byte b)) frames) rest

/-- The patterns that parts stand for. Nothing but `**` stands for all paths. -/
def patternsOf : List Part → List (List Step)
  | [.step .anyDirs] => [[.everything]]
  | parts => expand parts

/-- The patterns a text stands for; none if it is malformed. -/
def readGlob (cs : List Char) : Option (List (List Step)) :=
  (readParts (cs.length + 1) none [⟨[], []⟩] cs).map patternsOf

end GoStub.Ignore
