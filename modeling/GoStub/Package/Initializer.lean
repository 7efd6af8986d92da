import GoStub.Package.Reading

/-! What initializers tell about the types of constants and variables. -/

namespace GoStub

open Syntax (ExprNode ExprForm)

def isComparison (operator : String) : Bool :=
  ["==", "!=", "<", "<=", ">", ">=", "&&", "||"].contains operator

def isShift (operator : String) : Bool :=
  operator == "<<" || operator == ">>"

namespace Initializer

/-- The initializer of an operation on two operands. A typed operand decides; of two untyped ones,
the kind of higher rank. -/
def combine : Initializer → Initializer → Initializer
  | .basic a, .basic b => .basic (if b.rank ≤ a.rank then a else b)
  | .basic _, other => other
  | left, _ => left

def ofLiteral : Syntax.LiteralKind → Initializer
  | .int => .basic .int
  | .float => .basic .float
  | .imaginary => .basic .complex
  | .rune => .basic .rune
  | .string => .basic .string
  | .rawString => .basic .string

/-- What a plain name stands for; three constants are predeclared. -/
def ofName (name : String) : Initializer :=
  if name = "iota" then .basic .int
  else if name = "true" || name = "false" then .basic .bool
  else .own name

/-- A value of another package. -/
def ofSelector (c : FileScope) (text : String) (operand : ExprNode) (field : String) :
    Initializer :=
  match operand.form with
  | .name qualifier =>
    match c.packageOf? qualifier with
    | some path => .foreign path field
    | none => .unknown text
  | _ => .unknown text

/-- A call of `new` or `make` with a type. -/
def ofAllocation (function : String) (type : GoType) : Initializer :=
  if function = "new" then .addressOf type else .composite type

/-- A call of a plain name: of an allocator with what should be a type, of a predeclared type, or of
a name of the package. -/
def ofNameCall (c : FileScope) (name : String) (args : List ExprNode) : Initializer :=
  match args with
  | first :: _ =>
    if name = "new" || name = "make" then ofAllocation name (c.typeOfExpr first) else plain
  | [] => plain
where
  plain : Initializer :=
    if Name.isPredeclared name then .call (.conversion (.builtin name)) 0 else .call (.own name) 0

/-- A call: of a plain name, or of a name of another package. -/
def ofCall (c : FileScope) (text : String) (function : ExprNode) (args : List ExprNode) :
    Initializer :=
  match function.form with
  | .name name => ofNameCall c name args
  | .selector operand field =>
    match ofSelector c function.stretch.text operand field with
    | .foreign package name => .call (.foreign package name) 0
    | other => other
  | _ => .unknown text

/-- The length of a constant is an integer constant. -/
def ofConstantCall : Initializer → Initializer
  | .call (.own name) index =>
    if name == "len" || name == "cap" then .basic .int else .call (.own name) index
  | other => other

def ofConstant (c : FileScope) : ExprNode → Initializer
  | ⟨_, .literal kind⟩ => ofLiteral kind
  | ⟨_, .truth⟩ => .basic .bool
  | ⟨_, .iota⟩ => .basic .int
  | ⟨_, .name text⟩ => ofName text
  | ⟨_, .paren inner⟩ => ofConstant c inner
  | ⟨_, .unary operator operand⟩ => if operator = "!" then .basic .bool else ofConstant c operand
  | ⟨_, .binary operator left right⟩ =>
    if isComparison operator then .basic .bool
    else if isShift operator then ofConstant c left
    else (ofConstant c left).combine (ofConstant c right)
  | ⟨s, .selector operand field⟩ => ofSelector c s.text operand field
  | ⟨s, .call function _ args⟩ => ofConstantCall (ofCall c s.text function args)
  | ⟨_, .allocate function type _⟩ => ofAllocation function (readType c [] type)
  | ⟨s, _⟩ => .unknown s.text

def ofVariable (c : FileScope) : ExprNode → Initializer
  | ⟨_, .composite type _⟩ => .composite (readType c [] type)
  | ⟨_, .func signature _⟩ => .composite (.func (readSignature c [] signature))
  | ⟨s, .unary operator operand⟩ =>
    if operator = "&" then
      match ofVariable c operand with
      | .composite type => .addressOf type
      | _ => .unknown s.text
    else if operator = "<-" then .unknown s.text
    else ofVariable c operand
  | ⟨s, .call function _ args⟩ => ofCall c s.text function args
  | ⟨_, .allocate function type _⟩ => ofAllocation function (readType c [] type)
  | ⟨_, .paren inner⟩ => ofVariable c inner
  | ⟨_, .binary operator left _⟩ =>
    if isComparison operator then .basic .bool else ofVariable c left
  | ⟨s, .selector operand field⟩ => ofSelector c s.text operand field
  | ⟨s, .null⟩ => .unknown s.text
  | node => ofConstant c node

/-- The initializer of the variable at this position among those that one call initializes. -/
def atIndex (i : Initializer) (index : Nat) : Initializer :=
  match i with
  | .call callee _ => .call callee index
  | other => other

end Initializer

def intLiteral? (e : ExprNode) : Option String :=
  match e.form with
  | .literal .int => some e.stretch.text
  | _ => none

/-- The constants of a specification. Its names are listed with their commas, each of which counts
as an entry of its own. -/
def constants (names : List String) (type : Option GoType) (inits : List Initializer)
    (literals : List (Option String)) : List ValueBinding :=
  (names.intersperse ",").mapIdx fun i name =>
    ⟨name, true, type, inits[i]?, (literals[i]?).getD none⟩

/-- Constants in order. A specification with neither type nor values repeats the last one that had
either. -/
def readConsts (c : FileScope) (type : Option GoType) (inits : List Initializer) :
    List Syntax.ValueSpec → List ValueBinding
  | [] => []
  | spec :: rest =>
    match spec.type, spec.values with
    | none, [] => constants spec.names type inits [] ++ readConsts c type inits rest
    | node, values =>
      let type := node.map (readType c [])
      let inits := values.map (Initializer.ofConstant c)
      constants spec.names type inits (values.map intLiteral?) ++ readConsts c type inits rest

/-- The initializer of the variable at a position: its own value, or a result of the one value given
for all. -/
def variableInit (c : FileScope) (count : Nat) (values : List ExprNode) (i : Nat) :
    Option Initializer :=
  if values.length = count then (values[i]?).map (Initializer.ofVariable c)
  else
    match values with
    | [value] => some ((Initializer.ofVariable c value).atIndex i)
    | _ => none

def readVars (c : FileScope) (spec : Syntax.ValueSpec) : List ValueBinding :=
  spec.names.mapIdx fun i name =>
    ⟨name, false, spec.type.map (readType c []),
      variableInit c spec.names.length spec.values i, none⟩

def readDecl (c : FileScope) : Syntax.Decl → List Declaration
  | .consts specs => (readConsts c none [] specs).map .value
  | .vars specs => (specs.flatMap (readVars c)).map .value
  | .types specs => specs.map fun s => .type (readTypeSpec c s)

def readTopLevel (c : FileScope) : Syntax.TopLevel → List Declaration
  | .func name params signature _ =>
    [.func ⟨name, readTypeParams c params, readSignature c (paramNames params) signature⟩]
  | .method receiver name signature _ => ((readMethod c receiver name signature).map .method).toList
  | .stmt (.declare decl) => readDecl c decl
  | _ => []

end GoStub
