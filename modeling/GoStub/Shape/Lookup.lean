import GoStub.Package.Declaration
import GoStub.Shape.Settle

/-! Looking into other packages. Each package is loaded once and kept. -/

namespace GoStub

/-- The packages loaded so far, by the path they were asked for and by their own path. -/
abbrev Cache := Dict PackageScope

/-- A computation that may load packages. What it has loaded stays, also when it fails. -/
abbrev Lookup := ExceptT StubFault (StateM Cache)

/-- How a package is found that was not loaded before. -/
abbrev Source := String → Except StubFault PackageScope

namespace Lookup

variable {α : Type}

def ofExcept (x : Except StubFault α) : Lookup α :=
  ExceptT.mk (pure x)

def fail (e : StubFault) : Lookup α :=
  ofExcept (.error e)

/-- Gives a package from the cache, or loads it. -/
def package (source : Source) (path : String) : Lookup PackageScope :=
  ExceptT.mk fun cache =>
    match cache.get? path with
    | some p => (.ok p, cache)
    | none =>
      match source path with
      | .error e => (.error e, cache)
      | .ok p => (.ok p, (cache.insert path p).insert p.importPath p)

/-- A package seen from the one being stubbed, which is at hand. -/
def packageAt (source : Source) (site : Site) (path : String) : Lookup PackageScope :=
  if path = site.target.importPath then pure site.target else package source path

end Lookup

/-- The number of steps definitions are followed. -/
def stepLimit : Nat :=
  33

end GoStub
