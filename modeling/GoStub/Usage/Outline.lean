import GoStub.Syntax.Tree

/-! The outline of a source: what it mentions of packages and what it binds, function by function.
-/

namespace GoStub

open Syntax (TypeNode TypeForm ExprNode ExprForm)

/-- A qualified name as it stands in a source, in the place of a type or of a value. -/
structure Mention where
  line : Nat
  qualifier : String
  name : String
  asType : Bool
  deriving DecidableEq

/-- A mention, names that are bound, or a function with the names of its parameters. -/
inductive Outline
  | mention (m : Mention)
  | binder (names : List String)
  | function (params : List String) (parts : List Outline)

namespace Outline

def paramNames (params : List Syntax.Param) : List String :=
  params.flatMap (·.names)

def signatureNames (s : Syntax.Signature) : List String :=
  paramNames s.params ++ paramNames s.results

/-- The plain names among some expressions. -/
def plainNames (targets : List ExprNode) : List String :=
  targets.filterMap fun e =>
    match e.form with
    | .name text => some text
    | _ => none

mutual

def ofType : TypeNode → List Outline
  | ⟨s, .qualified qualifier name⟩ => [.mention ⟨s.line, qualifier, name, true⟩]
  | ⟨_, form⟩ => ofTypeForm form

def ofTypeForm : TypeForm → List Outline
  | .name _ => []
  | .qualified _ _ => []
  | .generic base args => ofType base ++ ofTypes args
  | .pointer elem => ofType elem
  | .slice elem => ofType elem
  | .array length elem => ofExpr length ++ ofType elem
  | .countedArray elem => ofType elem
  | .map key value => ofType key ++ ofType value
  | .chan _ elem => ofType elem
  | .func signature => ofSignature signature
  | .struct fields => ofFields fields
  | .interface elems => ofElems elems
  | .paren inner => ofType inner
  | .tilde elem => ofType elem
  | .union terms => ofTypes terms

def ofTypes : List TypeNode → List Outline
  | [] => []
  | t :: ts => ofType t ++ ofTypes ts

def ofParams : List Syntax.Param → List Outline
  | [] => []
  | ⟨_, type, _⟩ :: rest => ofType type ++ ofParams rest

def ofSignature : Syntax.Signature → List Outline
  | ⟨params, results⟩ => ofParams params ++ ofParams results

def ofFields : List Syntax.Field → List Outline
  | [] => []
  | ⟨_, _, _, type, _⟩ :: rest => ofType type ++ ofFields rest

def ofElems : List Syntax.Elem → List Outline
  | [] => []
  | .method _ signature :: rest => ofSignature signature ++ ofElems rest
  | .type type :: rest => ofType type ++ ofElems rest

def ofExpr : ExprNode → List Outline
  | ⟨s, .selector ⟨_, .name qualifier⟩ field⟩ => [.mention ⟨s.line, qualifier, field, false⟩]
  | ⟨_, form⟩ => ofExprForm form

def ofExprForm : ExprForm → List Outline
  | .name _ => []
  | .literal _ => []
  | .null => []
  | .truth => []
  | .iota => []
  | .paren inner => ofExpr inner
  | .selector operand _ => ofExpr operand
  | .unary _ operand => ofExpr operand
  | .binary _ left right => ofExpr left ++ ofExpr right
  | .call callee typeArgs args => ofExpr callee ++ ofTypes typeArgs ++ ofExprs args
  | .allocate _ type args => ofType type ++ ofExprs args
  | .convert type operand => ofType type ++ ofExpr operand
  | .instantiate type args => ofType type ++ ofTypes args
  | .index operand index => ofExpr operand ++ ofExpr index
  | .slice operand bounds => ofExpr operand ++ ofExprs bounds
  | .assert operand type => ofExpr operand ++ ofType type
  | .composite type elements => ofType type ++ ofExprs elements
  | .elements elements => ofExprs elements
  | .func signature body =>
    [.function (signatureNames signature) (ofSignature signature ++ ofStmts body)]
  | .spread operand => ofExpr operand

def ofExprs : List ExprNode → List Outline
  | [] => []
  | e :: es => ofExpr e ++ ofExprs es

def ofTypeParams : List Syntax.TypeParam → List Outline
  | [] => []
  | ⟨_, constraint⟩ :: rest => ofType constraint ++ ofTypeParams rest

def ofValueSpecs : List Syntax.ValueSpec → List Outline
  | [] => []
  | ⟨names, some type, values⟩ :: rest =>
    .binder names :: ofType type ++ ofExprs values ++ ofValueSpecs rest
  | ⟨names, none, values⟩ :: rest => .binder names :: ofExprs values ++ ofValueSpecs rest

def ofTypeSpecs : List Syntax.TypeSpec → List Outline
  | [] => []
  | ⟨name, params, _, type⟩ :: rest =>
    .binder [name] :: ofTypeParams params ++ ofType type ++ ofTypeSpecs rest

def ofDecl : Syntax.Decl → List Outline
  | .consts specs => ofValueSpecs specs
  | .vars specs => ofValueSpecs specs
  | .types specs => ofTypeSpecs specs

def ofStmt : Syntax.Stmt → List Outline
  | .eval values => ofExprs values
  | .bind targets values => .binder (plainNames targets) :: ofExprs targets ++ ofExprs values
  | .declare decl => ofDecl decl
  | .types types => ofTypes types
  | .block body => ofStmts body

def ofStmts : List Syntax.Stmt → List Outline
  | [] => []
  | s :: rest => ofStmt s ++ ofStmts rest

end

def ofTopLevel : Syntax.TopLevel → List Outline
  | .package _ => []
  | .imports _ => []
  | .func _ params signature body =>
    [.function (params.flatMap (·.names) ++ signatureNames signature)
      (ofTypeParams params ++ ofSignature signature ++ ofStmts body)]
  | .method receiver _ signature body =>
    [.function (paramNames receiver ++ signatureNames signature)
      (ofParams receiver ++ ofSignature signature ++ ofStmts body)]
  | .stmt stmt => ofStmt stmt

def ofFile (file : Syntax.SourceFile) : List Outline :=
  file.items.flatMap ofTopLevel

end Outline

/-- The names a declaration gives at the level of the file. -/
def declaredNames : Syntax.TopLevel → List String
  | .func name _ _ _ => [name]
  | .stmt (.declare (.consts specs)) => specs.flatMap (·.names)
  | .stmt (.declare (.vars specs)) => specs.flatMap (·.names)
  | .stmt (.declare (.types specs)) => specs.map (·.name)
  | _ => []

end GoStub
