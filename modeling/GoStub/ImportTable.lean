import GoStub.Dict
import GoStub.Name

/-! The packages a stub refers to, each under a local name of its own. -/

namespace GoStub

/-- Import paths with the local names they are referred to by. -/
structure ImportTable where
  names : Dict String

namespace ImportTable

def empty : ImportTable :=
  ⟨.empty⟩

def localName? (s : ImportTable) (path : String) : Option String :=
  s.names.get? path

def contains (s : ImportTable) (path : String) : Bool :=
  s.names.contains path

def paths (s : ImportTable) : List String :=
  s.names.keys

def size (s : ImportTable) : Nat :=
  s.names.size

/-- `base`, `base2`, `base3`, … -/
def candidate (base : String) : Nat → String
  | 0 => base
  | n + 1 => base ++ toString (n + 2)

/-- The first candidate that is not taken. Of one candidate more than there are taken names, one is
free. -/
def freeName (taken : List String) (base : String) : String :=
  let names := (List.range (taken.length + 1)).map (candidate base)
  (names.find? fun n => !taken.contains n).getD base

/-- Adds a path under the hint, or under the path's own package name. A path that is there keeps its
name; a name that is taken gets a number. -/
def insert (s : ImportTable) (path : String) (hint : Option String) : ImportTable :=
  if s.contains path then s
  else ⟨s.names.insert path (freeName s.names.values (hint.getD (Name.ofImportPath path)))⟩

/-- Renames one path if its name is among the declared ones. -/
def renameAt (declared : List String) (s : ImportTable) (path : String) : ImportTable :=
  match s.localName? path with
  | none => s
  | some current =>
    if declared.contains current then
      let others := s.names.erase path
      ⟨others.insert path (freeName (others.values ++ declared) current)⟩
    else s

/-- Renames, in path order, every path whose name is also declared by the stub. -/
def renameApart (s : ImportTable) (declared : List String) : ImportTable :=
  s.paths.foldl (renameAt declared) s

end ImportTable

end GoStub
