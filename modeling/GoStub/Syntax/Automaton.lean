import GoStub.Syntax.Automaton.Classes
import GoStub.Syntax.Automaton.Rows1
import GoStub.Syntax.Automaton.Rows10
import GoStub.Syntax.Automaton.Rows2
import GoStub.Syntax.Automaton.Rows3
import GoStub.Syntax.Automaton.Rows4
import GoStub.Syntax.Automaton.Rows5
import GoStub.Syntax.Automaton.Rows6
import GoStub.Syntax.Automaton.Rows7
import GoStub.Syntax.Automaton.Rows8
import GoStub.Syntax.Automaton.Rows9
import GoStub.Syntax.Category

/-! The automaton that recognises Go sources. In each state, the next token tells whether to pass it
or to complete a phrase; a completed phrase leads on from the state before its first part. Where a
name may begin a type as well as a value, the next token can leave several moves open. States that
never act differently are one. -/

namespace GoStub.Syntax

/-- The completion of a phrase: its category, the number of its parts, and how much speaks for the
phrase. -/
structure Completion where
  category : Category
  size : Nat
  weight : Int
  deriving DecidableEq

/-- What to do about a token: pass it and go to a state, complete a phrase, or accept the source. -/
inductive Move
  | shift (state : Nat)
  | reduce (completion : Completion)
  | accept
  deriving DecidableEq

namespace Automaton

/-- The completions, in the order the rows refer to them. -/
def completions : List Completion :=
  [⟨.file, 0, 0⟩, ⟨.file, 1, 0⟩, ⟨.file, 2, 0⟩, ⟨.packageClause, 2, 0⟩, ⟨.importDecl, 2, 0⟩,
    ⟨.importSpec, 1, 0⟩, ⟨.importSpec, 2, 0⟩, ⟨.importDot, 1, 0⟩, ⟨.importSpecs, 2, 0⟩,
    ⟨.importSpecs, 3, 0⟩, ⟨.importSpecs, 4, 0⟩, ⟨.importSpecs, 5, 0⟩, ⟨.constDecl, 2, 0⟩,
    ⟨.constDecl, 3, 0⟩, ⟨.constDecl, 4, 0⟩, ⟨.constSpec, 1, 0⟩, ⟨.constSpec, 2, 0⟩,
    ⟨.constSpec, 3, 0⟩, ⟨.constSpec, 4, 0⟩, ⟨.constSpec, 5, 0⟩, ⟨.varDecl, 2, 0⟩, ⟨.varSpec, 2, 0⟩,
    ⟨.varSpec, 3, 0⟩, ⟨.varSpec, 4, 0⟩, ⟨.varSpec, 5, 0⟩, ⟨.varSpecs, 2, 0⟩, ⟨.varSpecs, 3, 0⟩,
    ⟨.funcDecl, 3, 0⟩, ⟨.funcDecl, 4, 0⟩, ⟨.funcDecl, 5, 0⟩, ⟨.funcDecl, 6, 0⟩,
    ⟨.methodDecl, 4, 0⟩, ⟨.methodDecl, 5, 0⟩, ⟨.methodDecl, 6, 0⟩, ⟨.typeParams, 3, 0⟩,
    ⟨.typeParams, 4, 0⟩, ⟨.typeParams, 5, 0⟩, ⟨.typeParam, 2, 0⟩, ⟨.typeParam, 3, 0⟩,
    ⟨.params, 2, 0⟩, ⟨.params, 3, 0⟩, ⟨.params, 4, 0⟩, ⟨.params, 5, 0⟩, ⟨.param, 1, 0⟩,
    ⟨.param, 2, 0⟩, ⟨.param, 3, 0⟩, ⟨.variadicParam, 2, 0⟩, ⟨.variadicParam, 3, 0⟩,
    ⟨.aliasSpec, 3, 0⟩, ⟨.typeDecl, 2, 0⟩, ⟨.typeDecl, 3, 0⟩, ⟨.typeDecl, 4, 0⟩, ⟨.typeSpec, 2, 0⟩,
    ⟨.typeSpec, 3, 0⟩, ⟨.exprList, 1, 0⟩, ⟨.exprList, 2, 0⟩, ⟨.parenType, 3, 0⟩,
    ⟨.simpleType, 1, -1⟩, ⟨.simpleType, 1, 0⟩, ⟨.genericType, 2, 1⟩, ⟨.typeArgs, 3, 2⟩,
    ⟨.typeArgs, 4, 2⟩, ⟨.typeArgs, 5, 2⟩, ⟨.pointerType, 2, 0⟩, ⟨.arrayType, 4, 0⟩,
    ⟨.countedArrayType, 4, 0⟩, ⟨.sliceType, 3, 0⟩, ⟨.structType, 2, 0⟩, ⟨.tildeType, 2, 0⟩,
    ⟨.fields, 2, 0⟩, ⟨.fields, 3, 0⟩, ⟨.fields, 4, 0⟩, ⟨.fields, 5, 0⟩, ⟨.field, 1, 0⟩,
    ⟨.field, 2, 0⟩, ⟨.field, 3, 0⟩, ⟨.field, 4, 0⟩, ⟨.interfaceType, 3, 0⟩, ⟨.interfaceType, 4, 0⟩,
    ⟨.interfaceType, 5, 0⟩, ⟨.interfaceType, 6, 0⟩, ⟨.methodElem, 2, 0⟩, ⟨.methodElem, 3, 0⟩,
    ⟨.typeElem, 1, 0⟩, ⟨.typeElem, 2, 0⟩, ⟨.mapType, 5, 0⟩, ⟨.chanType, 2, 0⟩, ⟨.chanType, 3, 0⟩,
    ⟨.funcType, 2, 0⟩, ⟨.funcType, 3, 0⟩, ⟨.block, 2, 0⟩, ⟨.block, 3, 0⟩, ⟨.stmtList, 1, 0⟩,
    ⟨.stmtList, 2, 0⟩, ⟨.stmtList, 3, 0⟩, ⟨.stmtList, 4, 0⟩, ⟨.stmt, 1, 0⟩, ⟨.emptyStmt, 1, 0⟩,
    ⟨.simpleStmt, 1, 0⟩, ⟨.exprStmt, 1, 0⟩, ⟨.sendStmt, 3, 0⟩, ⟨.receiveStmt, 1, 0⟩,
    ⟨.receiveStmt, 3, 0⟩, ⟨.incStmt, 2, 0⟩, ⟨.decStmt, 2, 0⟩, ⟨.assignStmt, 3, 0⟩,
    ⟨.defineStmt, 3, 0⟩, ⟨.labelledStmt, 3, 0⟩, ⟨.bareLabel, 2, 0⟩, ⟨.fallthroughStmt, 1, 0⟩,
    ⟨.breakStmt, 1, 0⟩, ⟨.breakStmt, 2, 0⟩, ⟨.continueStmt, 1, 0⟩, ⟨.continueStmt, 2, 0⟩,
    ⟨.gotoStmt, 2, 0⟩, ⟨.returnStmt, 1, 0⟩, ⟨.returnStmt, 2, 0⟩, ⟨.goStmt, 2, 0⟩,
    ⟨.deferStmt, 2, 0⟩, ⟨.ifStmt, 3, 0⟩, ⟨.ifStmt, 5, 0⟩, ⟨.ifStmt, 7, 0⟩, ⟨.forStmt, 2, 0⟩,
    ⟨.forStmt, 3, 0⟩, ⟨.forClause, 2, 0⟩, ⟨.forClause, 3, 0⟩, ⟨.forClause, 4, 0⟩,
    ⟨.forClause, 5, 0⟩, ⟨.rangeClause, 2, 0⟩, ⟨.rangeClause, 4, 0⟩, ⟨.switchStmt, 3, 0⟩,
    ⟨.switchStmt, 4, 0⟩, ⟨.switchStmt, 5, 0⟩, ⟨.switchStmt, 6, 0⟩, ⟨.switchStmt, 7, 0⟩,
    ⟨.exprCase, 3, 0⟩, ⟨.exprCase, 4, 0⟩, ⟨.defaultCase, 2, 0⟩, ⟨.defaultCase, 3, 0⟩,
    ⟨.typeSwitchStmt, 4, 0⟩, ⟨.typeSwitchStmt, 5, 0⟩, ⟨.typeSwitchHeader, 5, 0⟩,
    ⟨.typeSwitchHeader, 7, 0⟩, ⟨.typeSwitchHeader, 9, 0⟩, ⟨.typeCase, 3, 0⟩, ⟨.typeCase, 4, 0⟩,
    ⟨.typeCase, 5, 0⟩, ⟨.selectStmt, 3, 0⟩, ⟨.selectStmt, 4, 0⟩, ⟨.commCase, 3, 0⟩,
    ⟨.commCase, 4, 0⟩, ⟨.expr, 1, 0⟩, ⟨.parenExpr, 3, 0⟩, ⟨.callExpr, 2, 0⟩, ⟨.callExpr, 3, 0⟩,
    ⟨.spreadArg, 2, 0⟩, ⟨.typeFirstArgs, 2, 0⟩, ⟨.typeFirstArgs, 3, 0⟩, ⟨.typeFirstArgs, 4, 0⟩,
    ⟨.typeFirstArgs, 5, 0⟩, ⟨.args, 2, 0⟩, ⟨.args, 3, 0⟩, ⟨.args, 4, 0⟩, ⟨.args, 5, 0⟩,
    ⟨.selectorExpr, 3, 0⟩, ⟨.indexExpr, 4, 0⟩, ⟨.sliceExpr, 4, 0⟩, ⟨.sliceExpr, 5, 0⟩,
    ⟨.sliceExpr, 6, 0⟩, ⟨.sliceExpr, 7, 0⟩, ⟨.sliceExpr, 8, 0⟩, ⟨.assertExpr, 5, 0⟩,
    ⟨.conversionExpr, 4, -1⟩, ⟨.conversionExpr, 5, -1⟩, ⟨.instanceExpr, 4, -1⟩,
    ⟨.instanceExpr, 5, -1⟩, ⟨.instanceExpr, 6, -1⟩, ⟨.compositeExpr, 2, 0⟩, ⟨.literalBody, 2, 0⟩,
    ⟨.literalBody, 3, 0⟩, ⟨.literalBody, 4, 0⟩, ⟨.literalBody, 5, 0⟩, ⟨.element, 1, 0⟩,
    ⟨.keyedElement, 3, 0⟩, ⟨.funcExpr, 3, 0⟩, ⟨.funcExpr, 4, 0⟩, ⟨.unaryExpr, 2, 0⟩,
    ⟨.binaryExpr, 3, 0⟩, ⟨.qualifiedType, 3, 0⟩, ⟨.rawString, 3, 0⟩, ⟨.quotedString, 2, 0⟩,
    ⟨.quotedString, 3, 0⟩, ⟨.itemRun, 2, 0⟩, ⟨.importSpecRun, 2, 0⟩, ⟨.constSpecRun, 2, 0⟩,
    ⟨.nameRun, 2, 0⟩, ⟨.varNameRun, 2, 0⟩, ⟨.varSpecRun, 2, 0⟩, ⟨.typeParamRun, 2, 0⟩,
    ⟨.paramRun, 2, 0⟩, ⟨.typeSpecRun, 2, 0⟩, ⟨.exprRun, 2, 0⟩, ⟨.typeArgRun, 2, 0⟩,
    ⟨.fieldRun, 2, 0⟩, ⟨.fieldNameRun, 2, 0⟩, ⟨.elemRun, 2, 0⟩, ⟨.termRun, 2, 0⟩, ⟨.stmtRun, 2, 0⟩,
    ⟨.caseRun, 2, 0⟩, ⟨.typeCaseRun, 2, 0⟩, ⟨.caseTypeRun, 2, 0⟩, ⟨.commCaseRun, 2, 0⟩,
    ⟨.argRun, 2, 0⟩, ⟨.elementRun, 2, 0⟩, ⟨.textRun, 2, 0⟩]

/-- The moves that are open together, in the order they are tried. -/
def forks : List (List Move) :=
  [[.reduce ⟨.simpleType, 1, -1⟩, .reduce ⟨.expr, 1, 0⟩, .shift 683],
    [.reduce ⟨.simpleType, 1, -1⟩, .reduce ⟨.expr, 1, 0⟩, .shift 56],
    [.reduce ⟨.expr, 1, 0⟩, .shift 1212],
    [.reduce ⟨.expr, 1, 0⟩, .shift 721],
    [.reduce ⟨.simpleType, 1, -1⟩, .reduce ⟨.expr, 1, 0⟩],
    [.reduce ⟨.simpleType, 1, -1⟩, .reduce ⟨.expr, 1, 0⟩, .shift 630],
    [.reduce ⟨.simpleType, 1, -1⟩, .shift 1216],
    [.reduce ⟨.simpleType, 1, -1⟩, .shift 679],
    [.reduce ⟨.simpleType, 1, 0⟩, .shift 679],
    [.reduce ⟨.simpleType, 1, -1⟩, .shift 630],
    [.reduce ⟨.simpleType, 1, 0⟩, .shift 630]]

/-- The number of states in each group of rows. -/
def groupSize : Nat := 129

/-- The rows of the states, in groups. An entry has five hexadecimal digits: two for a class of
symbols and three for what to do about them, which is a state to go to, from 0x600 on a completion,
from 0x700 on a fork, or 0x7ff for acceptance. -/
def groups : List (List (List Nat)) :=
  [rows1, rows2, rows3, rows4, rows5, rows6, rows7, rows8, rows9, rows10]

/-- The entries packed into a number. -/
def unpack (packed : Nat) : List Nat :=
  (List.range (packed.log2 / 20 + 1)).map fun i => (packed >>> (20 * i)) % 0x100000

/-- The symbols of an entry, each with what to do about it. -/
def expand (entry : Nat) : List (Nat × Nat) :=
  (classes.getD (entry / 0x1000) []).map fun symbol => (symbol, entry % 0x1000)

/-- A row, as the symbols a state allows with what to do about them. -/
abbrev Row := List (Nat × Nat)

def Row.ofPacked (row : List Nat) : Row :=
  (row.flatMap unpack).flatMap expand

def table : List (List Row) :=
  groups.map fun rows => rows.map Row.ofPacked

def row (state : Nat) : Row :=
  (table.getD (state / groupSize) []).getD (state % groupSize) []

/-- The moves an action stands for. -/
def movesOf (action : Nat) : List Move :=
  if action = 0x7ff then [.accept]
  else if 0x700 ≤ action then forks.getD (action - 0x700) []
  else if 0x600 ≤ action then (completions[action - 0x600]?).toList.map .reduce
  else [.shift action]

/-- The moves in a state for the token with this code. -/
def moves (state code : Nat) : List Move :=
  (((row state).lookup code).map movesOf).getD []

/-- The state to go to after a phrase. -/
def after? (state : Nat) (category : Category) : Option Nat :=
  (row state).lookup category.code

/-- The codes of the tokens that are expected in a state. -/
def expected (state : Nat) : List Nat :=
  ((row state).map (·.1)).filter (· < TokenKind.count)

def start : Nat := 1

end Automaton

end GoStub.Syntax
