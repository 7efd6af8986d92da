import GoStub.Files.Tree

/-! The vendor tree: one directory for each package, and a list of the packages. -/

namespace GoStub

/-- The name of a stub in the directory of its package. -/
def stubFileName : String :=
  "stub.go"

def modulesFileName : String :=
  "modules.txt"

/-- The version all stubbed packages have. -/
def placeholderVersion : String :=
  "v0.0.0-00010101000000-000000000000"

/-- The list of packages as the Go tool reads it. -/
def modulesText (packages : List String) : String :=
  Text.concat (packages.map fun package =>
    "# " ++ package ++ " " ++ placeholderVersion ++ "\n## explicit\n" ++ package ++ "\n")

/-- The package a stub at a location below the root belongs to. -/
def packageAt? (root : Location) (entry : Location × Node) : Option String :=
  match entry.2 with
  | .directory => none
  | .file _ =>
    let inside := (entry.1.drop root.length).dropLast
    if root.isPrefixOf entry.1 && entry.1.getLast? == some stubFileName && !inside.isEmpty then
      some (Text.joinWith "/" inside)
    else none

/-- The packages with a stub below a directory, in order. -/
def packagesBelow (files : FileTree) (root : Path) : List String :=
  match files.find root with
  | .ok (l, .directory) =>
    (files.entries.filterMap (packageAt? l)).mergeSort fun a b => decide (a ≤ b)
  | _ => []

end GoStub
