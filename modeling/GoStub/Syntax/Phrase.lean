import GoStub.Syntax.Category
import GoStub.Syntax.Tree

/-! What the phrases of a source stand for. Each is made from what its parts stand for, so that a
source is read from its tokens upwards. -/

namespace GoStub.Syntax

/-- A token of a phrase. -/
structure Leaf where
  kind : TokenKind
  stretch : Stretch

def Leaf.text (leaf : Leaf) : String :=
  leaf.stretch.text

inductive Phrase
  | leaf (leaf : Leaf)
  | run (parts : List Phrase)
  | type (type : TypeNode)
  | types (types : List TypeNode)
  | expr (expr : ExprNode)
  | exprs (exprs : List ExprNode)
  | typeFirst (type : TypeNode) (rest : List ExprNode)
  | param (param : Param)
  | params (params : List Param)
  | typeParam (param : TypeParam)
  | field (field : Field)
  | method (elem : Elem)
  | valueSpec (spec : ValueSpec)
  | typeSpec (spec : TypeSpec)
  | importSpec (spec : ImportSpec)
  | stmt (stmt : Stmt)
  | item (item : TopLevel)
  | file (file : SourceFile)

/-- What a string literal holds between its quotes; escapes stay as they are. -/
def literalContent (literal : String) : String :=
  let cs := Text.trim literal.toList
  let inner (quote : Char) := (Text.dropPrefix? [quote] cs).bind (Text.dropSuffix? [quote])
  String.ofList ((inner '"').getD ((inner '\x60').getD cs))

namespace Phrase

mutual

/-- Puts a phrase in front of others, a run by its parts. -/
def prepend : Phrase → List Phrase → List Phrase
  | run parts, rest => prependAll parts rest
  | part, rest => part :: rest

def prependAll : List Phrase → List Phrase → List Phrase
  | [], rest => rest
  | part :: parts, rest => prepend part (prependAll parts rest)

end

/-- The parts, with those of runs in their place. -/
def flatten (parts : List Phrase) : List Phrase :=
  prependAll parts []

/-- The names among some parts. -/
def names (parts : List Phrase) : List String :=
  parts.filterMap fun
    | leaf l => if l.kind = .name then some l.text else none
    | _ => none

/-- Whether a mark is among some parts. -/
def hasMark (text : String) (parts : List Phrase) : Bool :=
  parts.any fun
    | leaf l => l.kind == .mark text
    | _ => false

def typesIn (parts : List Phrase) : List TypeNode :=
  parts.filterMap fun
    | type t => some t
    | _ => none

/-- The expressions among some parts, with those of lists in their place. -/
def values (parts : List Phrase) : List ExprNode :=
  parts.flatMap fun
    | expr e => [e]
    | exprs es => es
    | _ => []

/-- The lists of expressions among some parts. -/
def valueLists (parts : List Phrase) : List (List ExprNode) :=
  parts.filterMap fun
    | exprs es => some es
    | _ => none

def paramLists (parts : List Phrase) : List (List Param) :=
  parts.filterMap fun
    | params ps => some ps
    | _ => none

def typeParams (parts : List Phrase) : List TypeParam :=
  parts.filterMap fun
    | typeParam p => some p
    | _ => none

def valueSpecs (parts : List Phrase) : List ValueSpec :=
  parts.filterMap fun
    | valueSpec s => some s
    | _ => none

/-- A plain name or a type, as a type. -/
def type? : Phrase → Option TypeNode
  | type t => some t
  | leaf l => some ⟨l.stretch, .name l.text⟩
  | _ => none

/-- What a token is as an expression. -/
def leafForm? (l : Leaf) : Option ExprForm :=
  match l.kind with
  | .name => some (.name l.text)
  | .word text =>
    some (if text = "nil" then .null
      else if text = "true" || text = "false" then .truth
      else if text = "iota" then .iota
      else .name text)
  | .int => some (.literal .int)
  | .float => some (.literal .float)
  | .imaginary => some (.literal .imaginary)
  | .rune => some (.literal .rune)
  | _ => none

def expr? : Phrase → Option ExprNode
  | expr e => some e
  | leaf l => (leafForm? l).map (⟨l.stretch, ·⟩)
  | _ => none

/-- Parameters and results, after so many other lists of parameters. A single result type stands for
one unnamed result. -/
def signature (skipped : Nat) (parts : List Phrase) : Signature :=
  match (paramLists parts).drop skipped, typesIn parts with
  | inputs :: outputs :: _, _ => ⟨inputs, outputs⟩
  | [inputs], output :: _ => ⟨inputs, [⟨[], output, false⟩]⟩
  | [inputs], [] => ⟨inputs, []⟩
  | [], _ => ⟨[], []⟩

/-- The statements of the block among some parts. -/
def body (parts : List Phrase) : List Stmt :=
  (parts.findSome? fun
    | stmt (.block stmts) => some stmts
    | _ => none).getD []

/-- The statements among some parts; an expression is evaluated. -/
def stmts (parts : List Phrase) : List Stmt :=
  parts.filterMap fun
    | stmt s => some s
    | expr e => some (.eval [e])
    | exprs es => some (.eval es)
    | _ => none

/-- Binds the names in a list of expressions, if there is one, to what comes after it. -/
def binding (parts : List Phrase) : Stmt :=
  match valueLists parts with
  | targets :: _ => .bind targets ((values parts).drop targets.length)
  | [] => .bind [] (values parts)

def ofImport (s : Stretch) (parts : List Phrase) : Option Phrase :=
  (values parts).head?.map fun path =>
    let name : ImportForm :=
      match parts with
      | leaf l :: _ =>
        if l.kind = .mark "." then .dot else if l.kind = .word "_" then .blank else .given l.text
      | _ => .default
    importSpec ⟨literalContent path.stretch.text, name, s.line⟩

/-- A field with names and a type, or an embedded one. -/
def ofField (s : Stretch) (parts : List Phrase) : Option Phrase :=
  let tag := (values parts).head?.map (·.stretch.text)
  match names parts, typesIn parts with
  | names, t :: _ => some (field ⟨s, names, hasMark "*" parts, t, tag⟩)
  | _, [] =>
    (parts.findSome? fun
      | leaf l => if l.kind = .name then some ⟨l.stretch, .name l.text⟩ else none
      | _ => none).map fun t => field ⟨s, [], hasMark "*" parts, t, tag⟩

/-- Parameters of one type. -/
def ofParam (variadic : Bool) (parts : List Phrase) : Option Phrase :=
  (typesIn parts).head?.map fun t => param ⟨names parts, t, variadic⟩

def ofTypeSpec (isAlias : Bool) (parts : List Phrase) : Option Phrase :=
  match names parts, typesIn parts with
  | name :: _, t :: _ => some (typeSpec ⟨name, typeParams parts, isAlias, t⟩)
  | _, _ => none

def ofFunc (parts : List Phrase) : Option Phrase :=
  (names parts).head?.map fun name =>
    item (.func name (typeParams parts) (signature 0 parts) (body parts))

def ofMethod (parts : List Phrase) : Option Phrase :=
  (names parts).head?.map fun name =>
    item (.method ((paramLists parts).headD []) name (signature 1 parts) (body parts))

/-- The form of a type of each category. -/
def typeForm? (c : Category) (parts : List Phrase) : Option TypeForm :=
  match c, parts, typesIn parts, values parts with
  | .parenType, _, [t], _ => some (.paren t)
  | .genericType, [base, types args], _, _ => base.type?.map (.generic · args)
  | .pointerType, _, [t], _ => some (.pointer t)
  | .arrayType, _, [t], [n] => some (.array n t)
  | .countedArrayType, _, [t], _ => some (.countedArray t)
  | .sliceType, _, [t], _ => some (.slice t)
  | .structType, _, _, _ =>
    some (.struct (parts.filterMap fun
      | field f => some f
      | _ => none))
  | .tildeType, _, [t], _ => some (.tilde t)
  | .interfaceType, _, _, _ =>
    some (.interface (parts.filterMap fun
      | method e => some e
      | type t => some (.type t)
      | _ => none))
  | .mapType, _, [k, v], _ => some (.map k v)
  | .chanType, leaf l :: _, [t], _ =>
    some (.chan (if l.kind = .mark "<-" then .receive
      else if hasMark "<-" parts then .send else .both) t)
  | .funcType, _, _, _ => some (.func (signature 0 parts))
  | .qualifiedType, _, _, _ =>
    match names parts with
    | [package, name] => some (.qualified package name)
    | _ => none
  | .typeElem, _, ts, _ => some (.union ts)
  | _, _, _, _ => none

/-- The form of an expression of each category. -/
def exprForm? (c : Category) (parts : List Phrase) : Option ExprForm :=
  match c, parts with
  | .parenExpr, [_, expr e, _] => some (.paren e)
  | .callExpr, [leaf l, typeFirst t rest] => some (.allocate l.text t rest)
  | .callExpr, [leaf l, exprs args] => some (.call ⟨l.stretch, .name l.text⟩ [] args)
  | .callExpr, [expr f, exprs args] => some (.call f [] args)
  | .callExpr, [expr f, types ts, exprs args] => some (.call f ts args)
  | .spreadArg, expr e :: _ => some (.spread e)
  | .selectorExpr, [expr e, _, leaf l] => some (.selector e l.text)
  | .indexExpr, [expr e, _, expr i, _] => some (.index e i)
  | .sliceExpr, expr e :: rest => some (.slice e (values rest))
  | .assertExpr, [expr e, _, _, type t, _] => some (.assert e t)
  | .conversionExpr, type t :: rest => (values rest).head?.map (.convert t)
  | .instanceExpr, type t :: rest => some (.instantiate t (typesIn rest))
  | .compositeExpr, [t, exprs es] => t.type?.map (.composite · es)
  | .element, [exprs es] => some (.elements es)
  | .funcExpr, _ => some (.func (signature 0 parts) (body parts))
  | .unaryExpr, [leaf l, expr e] => some (.unary l.text e)
  | .binaryExpr, [expr a, leaf l, expr b] => some (.binary l.text a b)
  | .rawString, _ => some (.literal .rawString)
  | .quotedString, _ => some (.literal .string)
  | _, _ => none

def ofType? (c : Category) (s : Stretch) (parts : List Phrase) : Option Phrase :=
  (typeForm? c parts).map fun form => type ⟨s, form⟩

def ofExpr? (c : Category) (s : Stretch) (parts : List Phrase) : Option Phrase :=
  (exprForm? c parts).map fun form => expr ⟨s, form⟩

/-- What a phrase of a category stands for. -/
def ofParts? (c : Category) (s : Stretch) (parts : List Phrase) : Option Phrase :=
  match c with
  | .file =>
    some (file ⟨parts.filterMap fun
      | item i => some i
      | stmt s => some (.stmt s)
      | _ => none⟩)
  | .packageClause => (names parts).head?.map fun name => item (.package name)
  | .importDecl =>
    some (item (.imports (parts.filterMap fun
      | importSpec s => some s
      | _ => none)))
  | .importSpec => ofImport s parts
  | .constDecl => some (stmt (.declare (.consts (valueSpecs parts))))
  | .varDecl => some (stmt (.declare (.vars (valueSpecs parts))))
  | .typeDecl =>
    some (stmt (.declare (.types (parts.filterMap fun
      | typeSpec s => some s
      | _ => none))))
  | .constSpec => some (valueSpec ⟨names parts, (typesIn parts).head?, values parts⟩)
  | .varSpec => some (valueSpec ⟨names parts, (typesIn parts).head?, values parts⟩)
  | .funcDecl => ofFunc parts
  | .methodDecl => ofMethod parts
  | .typeParam => (typesIn parts).head?.map fun t => typeParam ⟨names parts, t⟩
  | .params =>
    some (params (parts.filterMap fun
      | param p => some p
      | _ => none))
  | .param => ofParam false parts
  | .variadicParam => ofParam true parts
  | .aliasSpec => ofTypeSpec true parts
  | .typeSpec => ofTypeSpec false parts
  | .field => ofField s parts
  | .methodElem => (names parts).head?.map fun name => method (.method name (signature 0 parts))
  | .simpleType => parts.head?.bind type? |>.map type
  | .typeArgs => some (types (typesIn parts))
  | .typeElem =>
    match typesIn parts with
    | [t] => some (type t)
    | _ => ofType? c s parts
  | .expr => parts.head?.bind expr? |>.map expr
  | .exprList => some (exprs (values parts))
  | .args => some (exprs (values parts))
  | .typeFirstArgs =>
    match typesIn parts with
    | t :: _ => some (typeFirst t (values parts))
    | [] => some (exprs [])
  | .literalBody => some (exprs (values parts))
  | .keyedElement => some (exprs (values parts))
  | .element =>
    match parts with
    | [expr e] => some (expr e)
    | _ => ofExpr? c s parts
  | .defineStmt => some (stmt (binding parts))
  | .receiveStmt => some (stmt (binding parts))
  | .rangeClause => some (stmt (binding parts))
  | .typeSwitchHeader =>
    let first := parts.filterMap fun
      | stmt s => some s
      | _ => none
    some (stmt (.block (first ++ [binding parts])))
  | .typeCase => some (stmt (.block (.types (typesIn parts) :: stmts parts)))
  | .block | .emptyStmt | .exprStmt | .sendStmt | .incStmt | .decStmt | .assignStmt
  | .labelledStmt | .bareLabel | .fallthroughStmt | .breakStmt | .continueStmt | .gotoStmt
  | .returnStmt | .goStmt | .deferStmt | .ifStmt | .forStmt | .forClause | .switchStmt
  | .exprCase | .defaultCase | .typeSwitchStmt | .selectStmt | .commCase =>
    some (stmt (.block (stmts parts)))
  | _ => (ofType? c s parts).or (ofExpr? c s parts)

/-- Whether a phrase of this category stands for no more than its parts. -/
def isRun : Category → Bool
  | .importDot | .importSpecs | .varSpecs | .typeParams | .fields | .stmtList | .stmt
  | .simpleStmt | .itemRun | .importSpecRun | .constSpecRun | .nameRun | .varNameRun
  | .varSpecRun | .typeParamRun | .paramRun | .typeSpecRun | .exprRun | .typeArgRun | .fieldRun
  | .fieldNameRun | .elemRun | .termRun | .stmtRun | .caseRun | .typeCaseRun | .caseTypeRun
  | .commCaseRun | .argRun | .elementRun | .textRun => true
  | _ => false

/-- The phrase of a category with these parts. -/
def make (c : Category) (s : Stretch) (parts : List Phrase) : Phrase :=
  if isRun c then run parts else (ofParts? c s (flatten parts)).getD (run parts)

end Phrase

end GoStub.Syntax
