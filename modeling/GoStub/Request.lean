import GoStub.Dict
import GoStub.Text.Basic

/-! Requests for symbols of a package. -/

namespace GoStub

/-- The symbols to stub from one package: no name twice, and none both as a type and as a value. -/
structure Request where
  package : String
  types : List String
  values : List String
  deriving DecidableEq

namespace Request

/-- Names stay in the order they come first; one listed both ways counts as a type. -/
def ofNames (package : String) (types values : List String) : Request :=
  let types := types.eraseDups
  ⟨package, types, values.eraseDups.filter (fun v => !types.contains v)⟩

/-- The entries of a comma-separated list, without the blanks around them and without empty ones. -/
def listEntries (list : String) : List String :=
  ((Text.splitText ',' list).map Text.strip).filter (· ≠ "")

def ofLists (package types values : String) : Request :=
  ofNames package (listEntries types) (listEntries values)

/-- All requested names, types first. -/
def names (r : Request) : List String :=
  r.types ++ r.values

def isEmpty (r : Request) : Bool :=
  r.types.isEmpty && r.values.isEmpty

def typesText (r : Request) : String :=
  Text.joinWith "," r.types

def valuesText (r : Request) : String :=
  Text.joinWith "," r.values

/-- One request per package, in the order of the packages, with the names of all its requests. -/
def merge (requests : List Request) : List Request :=
  let packages := NameSet.ofNames (requests.map (·.package))
  packages.map fun package =>
    let ofPackage := requests.filter (fun r => r.package = package)
    ofNames package (ofPackage.flatMap (·.types)) (ofPackage.flatMap (·.values))

end Request

end GoStub
