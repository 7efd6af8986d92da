import GoStub.Shape.Lookup

/-! The types of constants and variables. -/

namespace GoStub

/-- The basic kind of a type, through the types it is defined by. -/
def constantKind (source : Source) (site : Site) : Nat → GoType → Lookup ConstantKind
  | 0, _ => .fail (site.fault .deepNamedType)
  | depth + 1, type =>
    match type with
    | .builtin name =>
      match ConstantKind.ofType? name with
      | some kind => return kind
      | none => .fail (site.fault (.notConstantType name))
    | .named package name _ => do
      let owner ← Lookup.packageAt source site package
      match owner.types.get? name with
      | none => .fail (.missing package name)
      | some decl => constantKind source site depth decl.type
    | _ => .fail (site.fault .nonBasicConstant)

/-- The type a call converts to, unless it calls a function. -/
def conversionTarget (source : Source) (site : Site) (package : PackageScope) :
    CallTarget → Lookup (Option GoType)
  | .conversion type => return some type
  | .own name =>
    return if package.types.contains name then some (.plain package.importPath name) else none
  | .foreign path name => do
    let owner ← Lookup.packageAt source site path
    return if owner.types.contains name then some (.plain path name) else none

/-- The declared type of a constant, if it has one, and its basic kind. -/
def constantType (source : Source) (site : Site) :
    Nat → PackageScope → ValueBinding → Lookup (Option GoType × ConstantKind)
  | 0, _, _ => .fail (site.fault .deepConstant)
  | depth + 1, package, decl =>
    match decl.type, decl.init with
    | some type, _ => do
      let kind ← constantKind source site stepLimit type
      return (some type, kind)
    | none, some (.basic kind) => return (none, kind)
    | none, some (.own name) =>
      match (package.values.get? name).filter (·.constant) with
      | none => .fail (site.fault (.unknownConstant name))
      | some next => constantType source site depth package next
    | none, some (.foreign path name) => do
      let owner ← Lookup.packageAt source site path
      match (owner.values.get? name).filter (·.constant) with
      | none => .fail (.missing path name)
      | some next => constantType source site depth owner next
    | none, some (.call callee _) => do
      match ← conversionTarget source site package callee with
      | none => .fail (site.fault (.notConversion decl.name))
      | some type =>
        let kind ← constantKind source site stepLimit type
        return (some type, kind)
    | none, _ => .fail (site.fault (.unclearConstant decl.name))

/-- Functions known to return an error without looking at their package. -/
def returnsError : CallTarget → Bool
  | .foreign package name =>
    (package == "errors" && name == "New") || (package == "fmt" && name == "Errorf")
  | _ => false

/-- The function a call refers to. -/
def calledFunction (source : Source) (site : Site) (package : PackageScope) :
    CallTarget → Lookup (Option FunctionDecl)
  | .own name => return package.funcs.get? name
  | .foreign path name => return (← Lookup.packageAt source site path).funcs.get? name
  | .conversion _ => return none

/-- The type of one result of a call. -/
def resultType (source : Source) (site : Site) (package : PackageScope) (name : String)
    (callee : CallTarget) (index : Nat) : Lookup GoType :=
  if returnsError callee then return .builtin "error"
  else do
    match ← conversionTarget source site package callee with
    | some type => return type
    | none =>
      match ← calledFunction source site package callee with
      | none => .fail (site.fault (.unknownInitializer name))
      | some function =>
        if !function.params.isEmpty then
          .fail (site.fault (.genericInitializer name function.name))
        else
          match function.signature.results[index]? with
          | some type => return type
          | none => .fail (site.fault (.noSuchResult function.name name))

/-- The type a variable takes from a constant. -/
def variableTypeOf : Option GoType × ConstantKind → GoType
  | (some type, _) => type
  | (none, kind) => .builtin kind.impliedType

/-- The declared or inferred type of a variable. -/
def variableType (source : Source) (site : Site) :
    Nat → PackageScope → ValueBinding → Lookup GoType
  | 0, _, _ => .fail (site.fault .deepVariable)
  | depth + 1, package, decl =>
    let follow (owner : PackageScope) (next : ValueBinding) : Lookup GoType :=
      if next.constant then return variableTypeOf (← constantType source site depth owner next)
      else variableType source site depth owner next
    match decl.type, decl.init with
    | some type, _ => return type
    | none, some (.basic kind) => return .builtin kind.impliedType
    | none, some (.composite type) => return type
    | none, some (.addressOf type) => return .pointer type
    | none, some (.own name) =>
      match package.values.get? name with
      | none => .fail (site.fault (.uninferable decl.name name))
      | some next => follow package next
    | none, some (.foreign path name) => do
      let owner ← Lookup.packageAt source site path
      match owner.values.get? name with
      | none => .fail (.missing path name)
      | some next => follow owner next
    | none, some (.call callee index) => resultType source site package decl.name callee index
    | none, some (.unknown text) => .fail (site.fault (.uninferable decl.name text))
    | none, none => .fail (site.fault (.uninferable decl.name "no initializer"))

end GoStub
