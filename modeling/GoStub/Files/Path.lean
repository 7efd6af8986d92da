import GoStub.Text.Basic

/-! File paths. A path is kept as it is written; it is compared by its components. -/

namespace GoStub

structure Path where
  text : String
  deriving DecidableEq

/-- A component of a path, in the order in which components compare. -/
inductive Component
  | root
  | here
  | up
  | name (text : String)
  deriving DecidableEq

namespace Component

def rank : Component → Nat
  | .root => 0
  | .here => 1
  | .up => 2
  | .name _ => 3

def cmp (a b : Component) : Ordering :=
  match a, b with
  | .name s, .name t => compare s t
  | a, b => compare a.rank b.rank

def cmpAll : List Component → List Component → Ordering
  | [], [] => .eq
  | [], _ :: _ => .lt
  | _ :: _, [] => .gt
  | a :: as, b :: bs => (a.cmp b).then (cmpAll as bs)

end Component

namespace Path

def empty : Path :=
  ⟨""⟩

/-- Whether the path holds a NUL. No file operation takes such a path. -/
def hasNul (p : Path) : Bool :=
  p.text.toList.contains '\x00'

def isAbsolute (p : Path) : Bool :=
  Text.startsWith ['/'] p.text.toList

/-- The texts between the slashes. -/
def pieces (p : Path) : List String :=
  Text.splitText '/' p.text

/-- A piece that leads nowhere: nothing between two slashes, or a dot. -/
def isIdle (piece : String) : Bool :=
  piece == "" || piece == "."

def component (piece : String) : Component :=
  if piece = ".." then .up else .name piece

/-- The components: the root of an absolute path, a dot a relative path begins with, and every piece
that is not idle. -/
def components (p : Path) : List Component :=
  let steps (pieces : List String) := (pieces.filter (fun s => !isIdle s)).map component
  match p.pieces with
  | [] => []
  | first :: rest =>
    if p.isAbsolute then .root :: steps rest
    else if first = "." then .here :: steps rest
    else steps (first :: rest)

def cmp (p q : Path) : Ordering :=
  Component.cmpAll p.components q.components

def le (p q : Path) : Bool :=
  p.cmp q != .gt

/-- The path of `q` seen from `p`; an absolute `q` stands for itself. -/
def join (p q : Path) : Path :=
  if q.isAbsolute then q
  else if p.text = "" || Text.endsWith ['/'] p.text.toList then ⟨p.text ++ q.text⟩
  else ⟨p.text ++ "/" ++ q.text⟩

instance : HDiv Path String Path := ⟨fun p s => p.join ⟨s⟩⟩

/-- A path from its pieces, of which the first is kept even if it is a dot. -/
def ofPieces : List String → Path
  | [""] => ⟨"/"⟩
  | pieces => ⟨Text.joinWith "/" pieces⟩

/-- The pieces without idle ones at the end, the first piece apart. -/
def dropIdleEnd (pieces : List String) : List String :=
  match pieces with
  | [] => []
  | first :: rest => first :: (rest.reverse.dropWhile isIdle).reverse

/-- The path without its last component. -/
def parent? (p : Path) : Option Path :=
  match dropIdleEnd p.pieces with
  | [] => none
  | [""] => none
  | [_] => some empty
  | first :: second :: rest => some (ofPieces (dropIdleEnd (first :: second :: rest).dropLast))

def ancestorsFrom : Nat → Path → List Path
  | 0, p => [p]
  | n + 1, p =>
    match p.parent? with
    | some q => p :: ancestorsFrom n q
    | none => [p]

/-- The path itself, its parent, the parent of that, and so on. -/
def ancestors (p : Path) : List Path :=
  ancestorsFrom p.pieces.length p

/-- The last component, if it is a name. -/
def fileName? (p : Path) : Option String :=
  match p.components.getLast? with
  | some (.name text) => some text
  | _ => none

/-- The text before the last dot and the text after it. -/
def splitAtLastDot : List Char → Option (List Char × List Char)
  | [] => none
  | c :: cs =>
    match splitAtLastDot cs with
    | some (stem, extension) => some (c :: stem, extension)
    | none => if c = '.' then some ([], cs) else none

/-- What follows the last dot of a file name. A dot at the start of the name counts for none. -/
def extension? (p : Path) : Option String :=
  match p.fileName? with
  | none => none
  | some name =>
    match splitAtLastDot name.toList with
    | none => none
    | some ([], _) => none
    | some (_, extension) => some (String.ofList extension)

/-- Whether the text ends in a slash or a dot after one, so that only a directory can be meant. -/
def namesDirectory (p : Path) : Bool :=
  match p.pieces.getLast? with
  | some piece => isIdle piece
  | none => false

/-- Whether the last piece, slashes apart, is a dot. -/
def endsInDot (p : Path) : Bool :=
  (p.pieces.filter (· ≠ "")).getLast? == some "."

/-- The pieces to follow from the root or the current directory. -/
def steps (p : Path) : List String :=
  p.pieces.filter (fun s => !isIdle s)

end Path

end GoStub
