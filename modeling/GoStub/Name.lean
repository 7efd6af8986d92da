import GoStub.Text.Alphanumeric
import GoStub.Text.Basic
import GoStub.Text.Lowercase
import GoStub.Text.Uppercase

/-! Naming rules of Go: exported names, predeclared types, package names of import paths. -/

namespace GoStub.Name

def predeclared : List String :=
  ["any", "bool", "byte", "comparable", "complex64", "complex128", "error", "float32", "float64",
    "int", "int8", "int16", "int32", "int64", "rune", "string", "uint", "uint8", "uint16", "uint32",
    "uint64", "uintptr"]

def isPredeclared (name : String) : Bool :=
  predeclared.contains name

def isCapital (c : Char) : Bool :=
  if c.toNat < 128 then c.isUpper else Text.uppercase.contains c

/-- A name is exported when it starts with a capital letter. -/
def isExported (name : String) : Bool :=
  match name.toList with
  | c :: _ => isCapital c
  | [] => false

/-- Standard library paths have no dot in their first element. -/
def isStandard (path : String) : Bool :=
  match Text.split '/' path.toList with
  | first :: _ => !first.contains '.'
  | [] => true

/-- A path element `v2`, `v3`, …: a `v` and at least one digit. -/
def isVersionElement : List Char → Bool
  | 'v' :: d :: digits => (d :: digits).all Char.isDigit
  | _ => false

/-- The element of a path that names its package: the last one, or the one before a major version.
-/
def nameElement (path : List Char) : List Char :=
  let elements := (Text.split '/' path).filter (· ≠ [])
  let named :=
    match elements.reverse with
    | last :: previous :: rest =>
      if isVersionElement last then previous :: rest else last :: previous :: rest
    | short => short
  named.headD path

/-- The text before the last `.v`, if only digits follow that. -/
def dropVersionSuffix : List Char → Option (List Char)
  | [] => none
  | c :: rest =>
    match dropVersionSuffix rest with
    | some kept => some (c :: kept)
    | none =>
      match c, rest with
      | '.', 'v' :: digits => if digits.all Char.isDigit then some [] else none
      | _, _ => none

def isNameChar (c : Char) : Bool :=
  if c.toNat < 128 then c.isAlphanum || c == '_' else Text.alphanumeric.contains c

/-- The name a package is imported under when no alias is given. A major version at the end of the
path is passed over, the `.vN` of `gopkg.in` paths is dropped, and so are a leading `go-` and a
trailing `-go`; what no identifier may hold becomes an underscore. -/
def ofImportPath (path : String) : String :=
  let name := nameElement path.toList
  let name :=
    if Text.startsWith "gopkg.in/".toList path.toList then (dropVersionSuffix name).getD name
    else name
  let name := (Text.dropPrefix? "go-".toList name).getD name
  let name := (Text.dropSuffix? "-go".toList name).getD name
  String.ofList (name.map fun c => if isNameChar c then c else '_')

/-- A name for comparison: small letters, without hyphens, underscores and dots. -/
def fold (name : List Char) : List Char :=
  Text.lower (name.filter fun c => c ≠ '-' && c ≠ '_' && c ≠ '.')

/-- The names a path element may stand for: itself, and without a leading or trailing `go` or
`golang`. -/
def variants (element : List Char) : List (List Char) :=
  let base := fold element
  let affixes := ["golang".toList, "go".toList]
  let shorter := affixes.flatMap fun affix =>
    (Text.dropPrefix? affix base).toList ++ (Text.dropSuffix? affix base).toList
  (base :: shorter).filter (· ≠ [])

/-- Whether one of the last two elements of the path, major versions apart, may be called `wanted`.
-/
def mayBeCalled (wanted : List Char) (path : String) : Bool :=
  let elements := (Text.split '/' path.toList).reverse.filter (fun e => !isVersionElement e)
  (elements.take 2).any fun e => (variants e).contains wanted

/-- The path a qualifier refers to, when exactly one of the paths may be called so. -/
def matchingImport? (qualifier : String) (paths : List String) : Option String :=
  let wanted := fold qualifier.toList
  if wanted = [] then none
  else
    match paths.filter (mayBeCalled wanted) with
    | [path] => some path
    | _ => none

end GoStub.Name
