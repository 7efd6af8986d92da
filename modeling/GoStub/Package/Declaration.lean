import GoStub.Files.Path
import GoStub.GoType

/-! The declarations of a package. -/

namespace GoStub

structure TypeDecl where
  name : String
  params : List TypeParam
  isAlias : Bool
  type : GoType

structure FunctionDecl where
  name : String
  params : List TypeParam
  signature : Signature

/-- A method; `receiver` is the name of the type it is declared on. -/
structure MethodDecl where
  receiver : String
  pointer : Bool
  receiverParams : List String
  name : String
  signature : Signature

/-- What an initializer calls: a function or type of the same package, one of another package, or a
predeclared type. -/
inductive CallTarget
  | own (name : String)
  | foreign (package name : String)
  | conversion (type : GoType)

/-- As much of an initializer as its type depends on. -/
inductive Initializer
  | basic (kind : ConstantKind)
  | composite (type : GoType)
  | addressOf (type : GoType)
  | call (callee : CallTarget) (index : Nat)
  | own (name : String)
  | foreign (package name : String)
  | unknown (text : String)

/-- A variable or constant. `intLiteral` is the initializer if that is a plain integer. -/
structure ValueBinding where
  name : String
  constant : Bool
  type : Option GoType
  init : Option Initializer
  intLiteral : Option String

inductive Declaration
  | type (decl : TypeDecl)
  | func (decl : FunctionDecl)
  | method (decl : MethodDecl)
  | value (decl : ValueBinding)

/-- The declarations of a package by name, and the names its sources use for other packages. -/
structure PackageScope where
  importPath : String
  name : String
  dir : Path
  moduleDir : Option Path
  types : Dict TypeDecl
  funcs : Dict FunctionDecl
  values : Dict ValueBinding
  methods : Dict (List MethodDecl)
  importNames : Dict String

namespace PackageScope

def contains (p : PackageScope) (name : String) : Bool :=
  p.types.contains name || p.funcs.contains name || p.values.contains name

/-- The methods declared on a type. -/
def methodsOf (p : PackageScope) (type : String) : List MethodDecl :=
  (p.methods.get? type).getD []

/-- Adds a declaration. Of two with one name the later counts, except that methods are all kept. -/
def declare (p : PackageScope) : Declaration → PackageScope
  | .type decl => { p with types := p.types.insert decl.name decl }
  | .func decl => { p with funcs := p.funcs.insert decl.name decl }
  | .value decl => { p with values := p.values.insert decl.name decl }
  | .method decl =>
    { p with methods := p.methods.insert decl.receiver (p.methodsOf decl.receiver ++ [decl]) }

end PackageScope

end GoStub
