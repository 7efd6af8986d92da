import GoStub.Package.Scope
import GoStub.Request
import GoStub.Shape.Interface
import GoStub.Shape.Need
import GoStub.Shape.Record
import GoStub.Shape.Value

/-! The records of a request: the requested symbols, and every type of the package they need. -/

namespace GoStub

/-- A shape and what was met while it was made. -/
structure Draft where
  shape : Shape
  needs : List Need

namespace Site

def own (site : Site) : String :=
  site.target.importPath

def methodRecords (site : Site) : List MethodDecl → Except StubFault (List DeclaredMethod)
  | [] => .ok []
  | m :: rest => do
    let signature ← m.signature.settle site
    return ⟨m.name, m.pointer, m.receiverParams, signature⟩ :: (← site.methodRecords rest)

def needsOfMethods (site : Site) (methods : List DeclaredMethod) : List Need :=
  methods.flatMap fun m => m.signature.needs site.own

/-- The shape of a type that is no alias. Methods of an interface type are looked at but not kept.
-/
def shapeOfDefined (source : Source) (site : Site) (params : List TypeParam)
    (methods : List DeclaredMethod) : GoType → Lookup Draft
  | .interface body => do
    let flat ← methodSet source site stepLimit site.target body
    let flat ← Lookup.ofExcept (flat.settle site)
    return ⟨.interface params flat, flat.needs site.own⟩
  | .struct fields => do
    let fields ← Lookup.ofExcept
      (settleFields site (fields.filter fun f => Name.isExported f.name))
    return ⟨.struct params fields methods, needsOfFields site.own fields⟩
  | other => do
    let underlying ← Lookup.ofExcept (other.settle site)
    return ⟨.named params underlying false methods, underlying.needs site.own⟩

def shapeOfType (source : Source) (site : Site) (decl : TypeDecl) (withMethods : Bool) :
    Lookup Draft := do
  let params ← Lookup.ofExcept (settleParams site decl.params)
  let paramNeeds := needsOfParams site.own params
  if decl.isAlias then
    let underlying ← Lookup.ofExcept (decl.type.settle site)
    return ⟨.named params underlying true [], paramNeeds ++ underlying.needs site.own⟩
  else
    let declared := if withMethods then site.target.exportedMethods site.symbol else []
    let methods ← Lookup.ofExcept (site.methodRecords declared)
    let draft ← shapeOfDefined source site params methods decl.type
    return { draft with needs := paramNeeds ++ site.needsOfMethods methods ++ draft.needs }

def shapeOfFunction (site : Site) (decl : FunctionDecl) : Except StubFault Draft := do
  let params ← settleParams site decl.params
  let signature ← decl.signature.settle site
  return ⟨.function params signature, needsOfParams site.own params ++ signature.needs site.own⟩

def shapeOfValue (source : Source) (site : Site) (decl : ValueBinding) : Lookup Draft :=
  if decl.constant then do
    let (type, kind) ← constantType source site stepLimit site.target decl
    match type with
    | none => return ⟨.value none true (some kind), []⟩
    | some type =>
      let type ← Lookup.ofExcept (type.settle site)
      return ⟨.value (some type) true (some kind), type.needs site.own⟩
  else do
    let type ← variableType source site stepLimit site.target decl
    let type ← Lookup.ofExcept (type.settle site)
    return ⟨.value (some type) false none, type.needs site.own⟩

/-- The shape of a symbol: a type, a function or a value, whichever the package declares first in
this order. -/
def draft (source : Source) (site : Site) (withMethods : Bool) : Lookup Draft :=
  match site.target.types.get? site.symbol with
  | some decl => site.shapeOfType source decl withMethods
  | none =>
    match site.target.funcs.get? site.symbol with
    | some decl => .ofExcept (site.shapeOfFunction decl)
    | none =>
      match site.target.values.get? site.symbol with
      | some decl => site.shapeOfValue source decl
      | none => .fail (.missing site.own site.symbol)

end Site

/-- What is known while a plan is made: the packages met, the types that have a record or are about
to get one, the types still to do, and the types met as embedded. -/
structure Progress where
  imports : ImportTable
  listed : NameSet
  pending : NameSet
  embedded : NameSet

namespace Progress

/-- Takes note of a need. An embedded type gets its record made again, with methods, unless it was
requested. -/
def meet (target : PackageScope) (requested : NameSet) (w : Progress) : Need → Progress
  | .declared name =>
    if w.listed.contains name then w else { w with pending := NameSet.add name w.pending }
  | .imported path => { w with imports := w.imports.insert path (target.importNames.get? path) }
  | .promoted name =>
    if w.embedded.contains name then w
    else
      { w with
        embedded := NameSet.add name w.embedded
        pending := if requested.contains name then w.pending else NameSet.add name w.pending }

def meetAll (target : PackageScope) (requested : NameSet) (w : Progress) (needs : List Need) :
    Progress :=
  needs.foldl (meet target requested) w

end Progress

/-- What stays the same while a plan is made. -/
structure Subject where
  source : Source
  target : PackageScope
  requested : NameSet

namespace Subject

/-- The record of one symbol, and the state after it. -/
def record (t : Subject) (isRequested : Bool) (w : Progress) (name : String) :
    Lookup (Record × Progress) := do
  let site : Site := ⟨t.target, name⟩
  let draft ← site.draft t.source (isRequested || w.embedded.contains name)
  return (⟨name, t.target.importPath, isRequested, draft.shape⟩,
    w.meetAll t.target t.requested draft.needs)

def requestedRecords (t : Subject) : Progress → List String → Lookup (List Record × Progress)
  | w, [] => return ([], w)
  | w, name :: rest => do
    let (record, w) ← t.record true w name
    let (records, w) ← t.requestedRecords w rest
    return (record :: records, w)

/-- Makes records of the pending types, first name first, until none is left. -/
def auxiliaryRecords (t : Subject) : Nat → Dict Record → Progress → Lookup (Dict Record × Progress)
  | 0, done, w => return (done, w)
  | fuel + 1, done, w =>
    match w.pending with
    | [] => return (done, w)
    | name :: rest => do
      let w := { w with pending := rest, listed := NameSet.add name w.listed }
      let (record, w) ← t.record false w name
      t.auxiliaryRecords fuel (done.insert name record) w

end Subject

/-- Plans the requested symbols of a package. A type is made at most twice: once as it is met,
and once with its methods. -/
def planFrom (source : Source) (request : Request) (target : PackageScope) :
    Lookup StubPlan := do
  match request.names.find? (fun n => !target.contains n) with
  | some name => .fail (.missing target.importPath name)
  | none =>
    let requested := NameSet.ofNames (request.names.filter target.types.contains)
    let subject : Subject := ⟨source, target, requested⟩
    let (first, w) ← subject.requestedRecords ⟨.empty, requested, [], []⟩ request.names
    let (auxiliary, w) ← subject.auxiliaryRecords (2 * target.types.size + 1) .empty w
    let records := first ++ auxiliary.values
    return ⟨target.importPath, target.name, records, w.imports.renameApart (records.map (·.name))⟩

/-- Loads a package and extracts the requested symbols. -/
def plan (source : Source) (request : Request) : Lookup StubPlan := do
  let target ← Lookup.package source request.package
  planFrom source request target

end GoStub
