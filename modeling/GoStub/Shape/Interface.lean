import GoStub.Shape.Lookup

/-! The method set of an interface, with embedded interfaces written out. -/

namespace GoStub

/-- Pairs parameters with arguments. -/
def Substitution.ofParams (params : List TypeParam) (args : List GoType) : Substitution :=
  .ofList ((params.map (·.name)).zip args)

/-- The method of the predeclared error interface. -/
def errorMethod : Signature :=
  ⟨[], false, [.builtin "string"]⟩

/-- The methods and type sets gathered from an interface and what it embeds. -/
structure MethodSet where
  methods : Dict Signature
  typeSets : List GoType

namespace MethodSet

/-- What an interface declares itself. -/
def ofBody (body : InterfaceBody) : MethodSet :=
  ⟨.ofList ((body.methods.filter fun m => Name.isExported m.name).map fun m =>
      (m.name, m.signature)),
    body.typeSets⟩

/-- Adds the methods of an embedded interface that are not there yet, and its type sets. -/
def addBody (s : MethodSet) (body : InterfaceBody) : MethodSet :=
  ⟨body.methods.foldl (fun d m => d.insertNew m.name m.signature) s.methods,
    s.typeSets ++ body.typeSets⟩

def addError (s : MethodSet) : MethodSet :=
  { s with methods := s.methods.insert "Error" errorMethod }

def addTypeSet (s : MethodSet) (type : GoType) : MethodSet :=
  { s with typeSets := s.typeSets ++ [type] }

def toBody (s : MethodSet) : InterfaceBody :=
  ⟨s.methods.entries.map fun e => ⟨e.1, e.2⟩, [], s.typeSets⟩

end MethodSet

/-- The interface a named type stands for, with the package it comes from; aliases are followed and
type parameters replaced. A type that is no interface gives none. -/
def interfaceBehind (source : Source) (site : Site) :
    Nat → PackageScope → String → List GoType → Lookup (Option (String × InterfaceBody))
  | 0, _, name, _ => .fail (site.fault (.deepAlias name))
  | depth + 1, package, name, args =>
    match package.types.get? name with
    | none => .fail (.missing package.importPath name)
    | some decl =>
      match decl.type.substitute (.ofParams decl.params args) with
      | .interface body => return some (package.importPath, body)
      | .named next nextName nextArgs =>
        if decl.isAlias then do
          let nextPackage ← Lookup.packageAt source site next
          interfaceBehind source site depth nextPackage nextName nextArgs
        else return none
      | _ => return none

/-- Adds the elements an interface embeds; `inner` gives the method set of an interface they stand
for. -/
def addEmbedded (source : Source) (site : Site)
    (inner : PackageScope → InterfaceBody → Lookup InterfaceBody) (owner : PackageScope) :
    List GoType → MethodSet → Lookup MethodSet
  | [], s => return s
  | .builtin name :: rest, s =>
    addEmbedded source site inner owner rest
      (if name = "error" then s.addError
      else if name = "any" then s
      else s.addTypeSet (.builtin name))
  | .named package name args :: rest, s => do
    let declaring ←
      if package = owner.importPath then pure owner else Lookup.packageAt source site package
    match ← interfaceBehind source site stepLimit declaring name args with
    | none =>
      addEmbedded source site inner owner rest (s.addTypeSet (.named package name args))
    | some (path, body) =>
      let bodyOwner ← Lookup.packageAt source site path
      let nested ← inner bodyOwner body
      addEmbedded source site inner owner rest (s.addBody nested)
  | other :: rest, s => addEmbedded source site inner owner rest (s.addTypeSet other)

/-- All exported methods of an interface that `owner` declares. -/
def methodSet (source : Source) (site : Site) :
    Nat → PackageScope → InterfaceBody → Lookup InterfaceBody
  | 0, _, _ => .fail (site.fault .deepEmbedding)
  | depth + 1, owner, body => do
    let s ← addEmbedded source site (methodSet source site depth) owner body.embedded (.ofBody body)
    return s.toBody

end GoStub
