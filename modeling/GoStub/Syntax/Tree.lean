import GoStub.GoType
import GoStub.Name
import GoStub.Syntax.Stretch

/-! Syntax trees of Go sources. Types and expressions are kept in full; of a statement, the names it
binds and what it mentions. -/

namespace GoStub.Syntax

inductive LiteralKind
  | int
  | float
  | imaginary
  | rune
  | string
  | rawString
  deriving DecidableEq

mutual

inductive TypeForm
  | name (text : String)
  | qualified (package name : String)
  | generic (base : TypeNode) (args : List TypeNode)
  | pointer (elem : TypeNode)
  | slice (elem : TypeNode)
  | array (length : ExprNode) (elem : TypeNode)
  | countedArray (elem : TypeNode)
  | map (key value : TypeNode)
  | chan (direction : Direction) (elem : TypeNode)
  | func (signature : Signature)
  | struct (fields : List Field)
  | interface (elems : List Elem)
  | paren (inner : TypeNode)
  | tilde (elem : TypeNode)
  | union (terms : List TypeNode)

structure TypeNode where
  stretch : Stretch
  form : TypeForm

inductive ExprForm
  | name (text : String)
  | literal (kind : LiteralKind)
  | null
  | truth
  | iota
  | paren (inner : ExprNode)
  | selector (operand : ExprNode) (field : String)
  | unary (operator : String) (operand : ExprNode)
  | binary (operator : String) (left right : ExprNode)
  | call (function : ExprNode) (typeArgs : List TypeNode) (args : List ExprNode)
  | allocate (function : String) (type : TypeNode) (args : List ExprNode)
  | convert (type : TypeNode) (operand : ExprNode)
  | instantiate (type : TypeNode) (args : List TypeNode)
  | index (operand index : ExprNode)
  | slice (operand : ExprNode) (bounds : List ExprNode)
  | assert (operand : ExprNode) (type : TypeNode)
  | composite (type : TypeNode) (elements : List ExprNode)
  | elements (elements : List ExprNode)
  | func (signature : Signature) (body : List Stmt)
  | spread (operand : ExprNode)

structure ExprNode where
  stretch : Stretch
  form : ExprForm

/-- Parameters of one type. Without names there is one, unnamed. -/
structure Param where
  names : List String
  type : TypeNode
  variadic : Bool

structure Signature where
  params : List Param
  results : List Param

/-- Struct fields of one type; without names, an embedded one. -/
structure Field where
  stretch : Stretch
  names : List String
  starred : Bool
  type : TypeNode
  tag : Option String

/-- An element of an interface. -/
inductive Elem
  | method (name : String) (signature : Signature)
  | type (type : TypeNode)

structure TypeParam where
  names : List String
  constraint : TypeNode

structure ValueSpec where
  names : List String
  type : Option TypeNode
  values : List ExprNode

structure TypeSpec where
  name : String
  params : List TypeParam
  isAlias : Bool
  type : TypeNode

inductive Decl
  | consts (specs : List ValueSpec)
  | vars (specs : List ValueSpec)
  | types (specs : List TypeSpec)

/-- A statement: it evaluates expressions, binds the names among its targets, declares, tells types
apart, or is made of other statements. -/
inductive Stmt
  | eval (values : List ExprNode)
  | bind (targets values : List ExprNode)
  | declare (decl : Decl)
  | types (types : List TypeNode)
  | block (body : List Stmt)

end

instance : Inhabited TypeNode := ⟨⟨default, .name ""⟩⟩

instance : Inhabited ExprNode := ⟨⟨default, .null⟩⟩

instance : Inhabited Stmt := ⟨.block []⟩

inductive ImportForm
  | default
  | given (name : String)
  | dot
  | blank
  deriving DecidableEq

structure ImportSpec where
  path : String
  name : ImportForm
  line : Nat
  deriving DecidableEq

/-- The name an import is referred to by, if it has one. -/
def ImportSpec.localName? (spec : ImportSpec) : Option String :=
  match spec.name with
  | .default => some (Name.ofImportPath spec.path)
  | .given name => some name
  | .dot => none
  | .blank => none

inductive TopLevel
  | package (name : String)
  | imports (specs : List ImportSpec)
  | func (name : String) (params : List TypeParam) (signature : Signature) (body : List Stmt)
  | method (receiver : List Param) (name : String) (signature : Signature) (body : List Stmt)
  | stmt (stmt : Stmt)

structure SourceFile where
  items : List TopLevel

namespace SourceFile

/-- The name in the first package clause. -/
def packageName? (f : SourceFile) : Option String :=
  f.items.findSome? fun
    | .package name => some name
    | _ => none

/-- All imports, in source order. -/
def imports (f : SourceFile) : List ImportSpec :=
  f.items.flatMap fun
    | .imports specs => specs
    | _ => []

end SourceFile

end GoStub.Syntax
