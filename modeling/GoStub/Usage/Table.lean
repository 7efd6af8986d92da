import GoStub.Json
import GoStub.Request
import GoStub.Usage.Reference

/-! Which names of which packages a source tree uses. -/

namespace GoStub

/-- The names used of a package, and the directories they are used in. -/
structure UsedNames where
  types : NameSet
  values : NameSet
  dirs : List Path

namespace UsedNames

def empty : UsedNames :=
  ⟨[], [], []⟩

/-- Adds a reference from a file of a directory. -/
def add (u : UsedNames) (dir : Path) (r : Reference) : UsedNames :=
  let u := { u with dirs := insertBy Path.cmp dir u.dirs }
  if r.asType then { u with types := NameSet.add r.name u.types }
  else { u with values := NameSet.add r.name u.values }

/-- A name used both ways counts as a type. -/
def normal (u : UsedNames) : UsedNames :=
  { u with values := u.values.filter fun v => !u.types.contains v }

def isEmpty (u : UsedNames) : Bool :=
  u.types.isEmpty && u.values.isEmpty

end UsedNames

/-- Usages by package: none is empty, and no name is both a type and a value. -/
structure UsageTable where
  packages : Dict UsedNames

namespace UsageTable

def ofPackages (packages : Dict UsedNames) : UsageTable :=
  ⟨⟨(packages.map UsedNames.normal).entries.filter fun e => !e.2.isEmpty⟩⟩

def size (i : UsageTable) : Nat :=
  i.packages.size

/-- One request for each package. -/
def requests (i : UsageTable) : List Request :=
  i.packages.entries.map fun e => .ofNames e.1 e.2.types e.2.values

/-- The line that generates the stub of a request. -/
def directive (r : Request) : String :=
  "//go:generate depstub --vendor gen " ++ r.package ++ " \"" ++ r.typesText ++ "\" \"" ++
    r.valuesText ++ "\""

def directives (i : UsageTable) : List String :=
  i.requests.map directive

/-- A JSON array of texts, indented. -/
def arrayText (indent : String) (texts : List String) : String :=
  if texts.isEmpty then "[]"
  else
    "[\n" ++ Text.joinWith ",\n" (texts.map fun t => indent ++ "  " ++ Json.quote t) ++ "\n" ++
      indent ++ "]"

def usageText (u : UsedNames) : String :=
  let field (name : String) (texts : List String) :=
    "    \"" ++ name ++ "\": " ++ arrayText "    " texts
  "\x7b\n" ++
    Text.joinWith ",\n"
      [field "types" u.types, field "values" u.values, field "dirs" (u.dirs.map (·.text))] ++
    "\n  \x7d"

/-- The index as JSON. -/
def jsonText (i : UsageTable) : String :=
  let entries := i.packages.entries
  if entries.isEmpty then "\x7b\x7d"
  else
    "\x7b\n" ++
      Text.joinWith ",\n" (entries.map fun e => "  " ++ Json.quote e.1 ++ ": " ++ usageText e.2) ++
      "\n\x7d"

end UsageTable

end GoStub
