import GoStub.Name
import GoStub.Package.Declaration
import GoStub.StubFault

/-! Types as a stub can hold them: array lengths of the package are written out, and every name that
is left can be declared or imported. -/

namespace GoStub

/-- What is being made: a symbol of a package. -/
structure Site where
  target : PackageScope
  symbol : String

namespace Site

def fault (site : Site) (obstacle : Obstacle) : StubFault :=
  .render site.target.importPath site.symbol obstacle

/-- The integer behind a constant of the package, at most `hops` constants away. -/
def lengthLiteral (site : Site) : Nat → String → Except StubFault String
  | hops, name =>
    match (site.target.values.get? name).filter (·.constant) with
    | none => .error (site.fault (.lengthNotConstant name))
    | some decl =>
      match decl.intLiteral, decl.init, hops with
      | some literal, _, _ => .ok literal
      | none, some (.own next), hops + 1 => site.lengthLiteral hops next
      | none, _, _ => .error (site.fault (.lengthNotLiteral name))

/-- The number of constants a length may lead through. -/
def maxHops : Nat :=
  32

def settleLength (site : Site) : ArrayLength → Except StubFault ArrayLength
  | .literal value => .ok (.literal value)
  | .expr text => .error (site.fault (.unsupportedLength text))
  | .constant package name =>
    if package = site.target.importPath then
      (site.lengthLiteral maxHops name).map .literal
    else if Name.isExported name then .ok (.constant package name)
    else .error (site.fault (.unexportedLength package name))

/-- A name can be used if the package declares it, or if another package exports it. -/
def checkName (site : Site) (package name : String) : Except StubFault Unit :=
  if package = site.target.importPath then
    if site.target.types.contains name then .ok () else .error (.missing package name)
  else if Name.isExported name then .ok ()
  else .error (site.fault (.unexportedType package name))

end Site

mutual

def GoType.settle (site : Site) : GoType → Except StubFault GoType
  | .builtin name => .ok (.builtin name)
  | .param name => .ok (.param name)
  | .named package name args => do
    let args ← settleAll site args
    site.checkName package name
    return .named package name args
  | .pointer elem => return .pointer (← elem.settle site)
  | .slice elem => return .slice (← elem.settle site)
  | .array length elem => do
    let length ← site.settleLength length
    return .array length (← elem.settle site)
  | .map key value => do
    let key ← key.settle site
    return .map key (← value.settle site)
  | .chan direction elem => return .chan direction (← elem.settle site)
  | .func signature => return .func (← signature.settle site)
  | .struct fields => return .struct (← settleFields site fields)
  | .interface body => return .interface (← body.settle site)
  | .tilde elem => return .tilde (← elem.settle site)
  | .union terms => return .union (← settleAll site terms)
  | .unsupported reason => .error (site.fault (.unsupported reason))

def settleAll (site : Site) : List GoType → Except StubFault (List GoType)
  | [] => .ok []
  | t :: ts => do
    let t ← t.settle site
    return t :: (← settleAll site ts)

def Signature.settle (site : Site) : Signature → Except StubFault Signature
  | ⟨params, variadic, results⟩ => do
    let params ← settleAll site params
    return ⟨params, variadic, ← settleAll site results⟩

def settleFields (site : Site) : List Field → Except StubFault (List Field)
  | [] => .ok []
  | ⟨name, type, embedded, tag⟩ :: rest => do
    let type ← type.settle site
    return ⟨name, type, embedded, tag⟩ :: (← settleFields site rest)

def settleMethods (site : Site) : List Method → Except StubFault (List Method)
  | [] => .ok []
  | ⟨name, signature⟩ :: rest => do
    let signature ← signature.settle site
    return ⟨name, signature⟩ :: (← settleMethods site rest)

def InterfaceBody.settle (site : Site) : InterfaceBody → Except StubFault InterfaceBody
  | ⟨methods, embedded, typeSets⟩ => do
    let methods ← settleMethods site methods
    let embedded ← settleAll site embedded
    return ⟨methods, embedded, ← settleAll site typeSets⟩

end

def settleParams (site : Site) : List TypeParam → Except StubFault (List TypeParam)
  | [] => .ok []
  | ⟨name, constraint⟩ :: rest => do
    let constraint ← constraint.settle site
    return ⟨name, constraint⟩ :: (← settleParams site rest)

end GoStub
