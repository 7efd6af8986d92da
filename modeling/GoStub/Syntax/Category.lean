import GoStub.Syntax.Token

/-! The categories of phrases a Go source is made of. -/

namespace GoStub.Syntax

/-- A category of phrases. A run is what stands in a list after its first part. -/
inductive Category
  | file
  | packageClause
  | importDecl
  | importSpec
  | importDot
  | importSpecs
  | constDecl
  | constSpec
  | varDecl
  | varSpec
  | varSpecs
  | funcDecl
  | methodDecl
  | typeParams
  | typeParam
  | params
  | param
  | variadicParam
  | aliasSpec
  | typeDecl
  | typeSpec
  | exprList
  | parenType
  | simpleType
  | genericType
  | typeArgs
  | pointerType
  | arrayType
  | countedArrayType
  | sliceType
  | structType
  | tildeType
  | fields
  | field
  | interfaceType
  | methodElem
  | typeElem
  | mapType
  | chanType
  | funcType
  | block
  | stmtList
  | stmt
  | emptyStmt
  | simpleStmt
  | exprStmt
  | sendStmt
  | receiveStmt
  | incStmt
  | decStmt
  | assignStmt
  | defineStmt
  | labelledStmt
  | bareLabel
  | fallthroughStmt
  | breakStmt
  | continueStmt
  | gotoStmt
  | returnStmt
  | goStmt
  | deferStmt
  | ifStmt
  | forStmt
  | forClause
  | rangeClause
  | switchStmt
  | exprCase
  | defaultCase
  | typeSwitchStmt
  | typeSwitchHeader
  | typeCase
  | selectStmt
  | commCase
  | expr
  | parenExpr
  | callExpr
  | spreadArg
  | typeFirstArgs
  | args
  | selectorExpr
  | indexExpr
  | sliceExpr
  | assertExpr
  | conversionExpr
  | instanceExpr
  | compositeExpr
  | literalBody
  | element
  | keyedElement
  | funcExpr
  | unaryExpr
  | binaryExpr
  | qualifiedType
  | rawString
  | quotedString
  | itemRun
  | importSpecRun
  | constSpecRun
  | nameRun
  | varNameRun
  | varSpecRun
  | typeParamRun
  | paramRun
  | typeSpecRun
  | exprRun
  | typeArgRun
  | fieldRun
  | fieldNameRun
  | elemRun
  | termRun
  | stmtRun
  | caseRun
  | typeCaseRun
  | caseTypeRun
  | commCaseRun
  | argRun
  | elementRun
  | textRun
  deriving DecidableEq

/-- The code of a category; the codes of tokens come first. -/
def Category.code (c : Category) : Nat :=
  TokenKind.count + c.ctorIdx

end GoStub.Syntax
