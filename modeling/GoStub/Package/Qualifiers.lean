import GoStub.Package.Initializer

/-! The package qualifiers a file uses in its declarations, in the order they are met. -/

namespace GoStub

open Syntax (TypeNode TypeForm ExprNode ExprForm)

def lengthQualifiers : ExprNode → List String
  | ⟨_, .selector ⟨_, .name qualifier⟩ _⟩ => [qualifier]
  | ⟨_, .paren inner⟩ => lengthQualifiers inner
  | _ => []

mutual

def typeQualifiers : TypeNode → List String
  | ⟨_, form⟩ => formQualifiers form

def formQualifiers : TypeForm → List String
  | .name _ => []
  | .qualified qualifier _ => [qualifier]
  | .generic base args => typeQualifiers base ++ listQualifiers args
  | .pointer elem => typeQualifiers elem
  | .slice elem => typeQualifiers elem
  | .array length elem => lengthQualifiers length ++ typeQualifiers elem
  | .countedArray _ => []
  | .map key value => typeQualifiers key ++ typeQualifiers value
  | .chan _ elem => typeQualifiers elem
  | .func signature => signatureQualifiers signature
  | .struct fields => fieldQualifiers fields
  | .interface elems => elemQualifiers elems
  | .paren inner => typeQualifiers inner
  | .tilde elem => typeQualifiers elem
  | .union terms => listQualifiers terms

def listQualifiers : List TypeNode → List String
  | [] => []
  | t :: ts => typeQualifiers t ++ listQualifiers ts

def paramQualifiers : List Syntax.Param → List String
  | [] => []
  | ⟨_, type, _⟩ :: rest => typeQualifiers type ++ paramQualifiers rest

def signatureQualifiers : Syntax.Signature → List String
  | ⟨inputs, outputs⟩ => paramQualifiers inputs ++ paramQualifiers outputs

def fieldQualifiers : List Syntax.Field → List String
  | [] => []
  | ⟨_, _, _, type, _⟩ :: rest => typeQualifiers type ++ fieldQualifiers rest

def elemQualifiers : List Syntax.Elem → List String
  | [] => []
  | .method _ signature :: rest => signatureQualifiers signature ++ elemQualifiers rest
  | .type type :: rest => typeQualifiers type ++ elemQualifiers rest

end

def selectorQualifiers (operand : ExprNode) : List String :=
  match operand.form with
  | .name qualifier => [qualifier]
  | _ => []

def callQualifiers (function : ExprNode) : List String :=
  match function.form with
  | .selector operand _ => selectorQualifiers operand
  | _ => []

def constantQualifiers : ExprNode → List String
  | ⟨_, .paren inner⟩ => constantQualifiers inner
  | ⟨_, .unary operator operand⟩ => if operator = "!" then [] else constantQualifiers operand
  | ⟨_, .binary operator left right⟩ =>
    if isComparison operator then []
    else if isShift operator then constantQualifiers left
    else constantQualifiers left ++ constantQualifiers right
  | ⟨_, .selector operand _⟩ => selectorQualifiers operand
  | ⟨_, .call function _ _⟩ => callQualifiers function
  | ⟨_, .allocate _ type _⟩ => typeQualifiers type
  | _ => []

def variableQualifiers : ExprNode → List String
  | ⟨_, .composite type _⟩ => typeQualifiers type
  | ⟨_, .func signature _⟩ => signatureQualifiers signature
  | ⟨_, .unary operator operand⟩ => if operator = "<-" then [] else variableQualifiers operand
  | ⟨_, .call function _ _⟩ => callQualifiers function
  | ⟨_, .allocate _ type _⟩ => typeQualifiers type
  | ⟨_, .paren inner⟩ => variableQualifiers inner
  | ⟨_, .binary operator left _⟩ => if isComparison operator then [] else variableQualifiers left
  | ⟨_, .selector operand _⟩ => selectorQualifiers operand
  | node => constantQualifiers node

/-- The qualifiers of the values of a variable specification that initialize something. -/
def variableValueQualifiers (spec : Syntax.ValueSpec) : List String :=
  if spec.values.length = spec.names.length || spec.values.length = 1 then
    spec.values.flatMap variableQualifiers
  else []

def optionQualifiers (type : Option TypeNode) : List String :=
  type.toList.flatMap typeQualifiers

def declQualifiers : Syntax.Decl → List String
  | .consts specs =>
    specs.flatMap fun s => optionQualifiers s.type ++ s.values.flatMap constantQualifiers
  | .vars specs => specs.flatMap fun s => optionQualifiers s.type ++ variableValueQualifiers s
  | .types specs =>
    specs.flatMap fun s =>
      s.params.flatMap (fun p => typeQualifiers p.constraint) ++ typeQualifiers s.type

def topLevelQualifiers : Syntax.TopLevel → List String
  | .func _ params signature _ =>
    params.flatMap (fun p => typeQualifiers p.constraint) ++ signatureQualifiers signature
  | .method receiver _ signature _ => if receiver.isEmpty then [] else signatureQualifiers signature
  | .stmt (.declare decl) => declQualifiers decl
  | _ => []

/-- The first qualifier used for each package. -/
def FileScope.importNames (c : FileScope) (qualifiers : List String) : Dict String :=
  qualifiers.foldl
    (fun names qualifier =>
      match c.packageOf? qualifier with
      | some path => names.insertNew path qualifier
      | none => names)
    .empty

end GoStub
