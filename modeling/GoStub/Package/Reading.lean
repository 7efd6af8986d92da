import GoStub.Name
import GoStub.Package.Declaration
import GoStub.Syntax.Tree

/-! From syntax to declarations: every name is resolved against the imports of its file. -/

namespace GoStub

open Syntax (TypeNode TypeForm ExprNode ExprForm)

/-- What names of a file refer to: the package it belongs to, its imports by local name, and the
paths of its imports without a name of their own. -/
structure FileScope where
  package : String
  imports : Dict String
  defaults : List String

namespace FileScope

def ofImports (package : String) (specs : List Syntax.ImportSpec) : FileScope where
  package := package
  imports := .ofList (specs.filterMap fun s => s.localName?.map fun name => (name, s.path))
  defaults := (specs.filter fun s => s.name = .default).map (·.path)

/-- The package a qualifier stands for. One that no import binds may be the name of a package whose
path does not spell it. -/
def packageOf? (c : FileScope) (qualifier : String) : Option String :=
  match c.imports.get? qualifier with
  | some path => some path
  | none => Name.matchingImport? qualifier c.defaults

/-- The type a plain name stands for, with these type parameters in scope. -/
def namedType (c : FileScope) (params : List String) (name : String) : GoType :=
  if params.contains name then .param name
  else if Name.isPredeclared name then .builtin name
  else .plain c.package name

def qualifiedType (c : FileScope) (qualifier name : String) : GoType :=
  match c.packageOf? qualifier with
  | some path => .plain path name
  | none => .unsupported s!"unknown package qualifier `{qualifier}`"

def arrayLength (c : FileScope) : ExprNode → ArrayLength
  | ⟨s, .literal .int⟩ => .literal s.text
  | ⟨_, .name text⟩ => .constant c.package text
  | ⟨s, .selector ⟨_, .name qualifier⟩ field⟩ =>
    match c.packageOf? qualifier with
    | some path => .constant path field
    | none => .expr s.text
  | ⟨_, .paren inner⟩ => c.arrayLength inner
  | ⟨s, _⟩ => .expr s.text

end FileScope

/-- A type that is written in a way no type can be. -/
def GoType.badSyntax (text kind : String) : GoType :=
  .unsupported ("unsupported type syntax `" ++ text ++ "` (" ++ kind ++ ")")

/-- What the form of an expression is called. -/
def exprKind (text : String) : ExprForm → String
  | .name _ => "identifier"
  | .literal .int => "int_literal"
  | .literal .float => "float_literal"
  | .literal .imaginary => "imaginary_literal"
  | .literal .rune => "rune_literal"
  | .literal .string => "interpreted_string_literal"
  | .literal .rawString => "raw_string_literal"
  | .null => "nil"
  | .truth => text
  | .iota => "iota"
  | .paren _ => "parenthesized_expression"
  | .selector _ _ => "selector_expression"
  | .unary _ _ => "unary_expression"
  | .binary _ _ _ => "binary_expression"
  | .call _ _ _ => "call_expression"
  | .allocate _ _ _ => "call_expression"
  | .convert _ _ => "type_conversion_expression"
  | .instantiate _ _ => "type_instantiation_expression"
  | .index _ _ => "index_expression"
  | .slice _ _ => "slice_expression"
  | .assert _ _ => "type_assertion_expression"
  | .composite _ _ => "composite_literal"
  | .elements _ => "literal_value"
  | .func _ _ => "func_literal"
  | .spread _ => "variadic_argument"

/-- An expression in the place of a type: only a plain name can be meant. -/
def FileScope.typeOfExpr (c : FileScope) (e : ExprNode) : GoType :=
  match e.form with
  | .name text => c.namedType [] text
  | form => .badSyntax e.stretch.text (exprKind e.stretch.text form)

/-- A type with arguments. Only named types can have them. -/
def GoType.instantiate (base : GoType) (args : List GoType) (text : String) : GoType :=
  match base with
  | .named package name _ => .named package name args
  | .unsupported reason => .unsupported reason
  | _ => .unsupported s!"cannot instantiate `{text}`"

/-- Whether an interface embeds this element, rather than being restricted by it. -/
def GoType.isEmbeddable : GoType → Bool
  | .named _ _ _ => true
  | .builtin name => name == "error" || name == "any"
  | _ => false

/-- The fields a declaration stands for. Without names, the field is called like its type. -/
def Field.ofDeclaration (names : List String) (starred : Bool) (type : GoType) (tag : Option String)
    (text : String) : List Field :=
  match names with
  | [] =>
    let type := if starred then .pointer type else type
    [⟨type.embeddedAs.getD text, type, true, tag⟩]
  | names => names.map fun name => ⟨name, type, false, tag⟩

def InterfaceBody.addType (body : InterfaceBody) (type : GoType) : InterfaceBody :=
  if type.isEmbeddable then { body with embedded := type :: body.embedded }
  else { body with typeSets := type :: body.typeSets }

def InterfaceBody.addMethod (body : InterfaceBody) (method : Method) : InterfaceBody :=
  { body with methods := method :: body.methods }

mutual

def readType (c : FileScope) (params : List String) : TypeNode → GoType
  | ⟨s, form⟩ => readForm c params s form

def readForm (c : FileScope) (params : List String) (s : Syntax.Stretch) : TypeForm → GoType
  | .name text => c.namedType params text
  | .qualified qualifier name => c.qualifiedType qualifier name
  | .generic base args => (readType c params base).instantiate (readTypes c params args) s.text
  | .pointer elem => .pointer (readType c params elem)
  | .slice elem => .slice (readType c params elem)
  | .array length elem => .array (c.arrayLength length) (readType c params elem)
  | .countedArray _ => .badSyntax s.text "implicit_length_array_type"
  | .map key value => .map (readType c params key) (readType c params value)
  | .chan direction elem => .chan direction (readType c params elem)
  | .func signature => .func (readSignature c params signature)
  | .struct fields => .struct (readFields c params fields)
  | .interface elems => .interface (readElems c params elems)
  | .paren inner => readType c params inner
  | .tilde elem => .tilde (readType c params elem)
  | .union terms => .union (readTypes c params terms)

def readTypes (c : FileScope) (params : List String) : List TypeNode → List GoType
  | [] => []
  | t :: ts => readType c params t :: readTypes c params ts

/-- One type for each parameter. -/
def readParams (c : FileScope) (params : List String) : List Syntax.Param → List GoType
  | [] => []
  | ⟨names, type, variadic⟩ :: rest =>
    List.replicate (if variadic then 1 else max 1 names.length) (readType c params type) ++
      readParams c params rest

def readSignature (c : FileScope) (params : List String) : Syntax.Signature → Signature
  | ⟨inputs, outputs⟩ =>
    ⟨readParams c params inputs, inputs.any (·.variadic), readParams c params outputs⟩

def readFields (c : FileScope) (params : List String) : List Syntax.Field → List Field
  | [] => []
  | ⟨s, names, starred, type, tag⟩ :: rest =>
    Field.ofDeclaration names starred (readType c params type) tag s.text ++
      readFields c params rest

def readElems (c : FileScope) (params : List String) : List Syntax.Elem → InterfaceBody
  | [] => ⟨[], [], []⟩
  | .method name signature :: rest =>
    (readElems c params rest).addMethod ⟨name, readSignature c params signature⟩
  | .type type :: rest => (readElems c params rest).addType (readType c params type)

end

def paramNames (params : List Syntax.TypeParam) : List String :=
  params.flatMap (·.names)

/-- One parameter for each name. -/
def readTypeParams (c : FileScope) (params : List Syntax.TypeParam) : List TypeParam :=
  params.flatMap fun p =>
    p.names.map fun name => ⟨name, readType c (paramNames params) p.constraint⟩

def readTypeSpec (c : FileScope) (spec : Syntax.TypeSpec) : TypeDecl :=
  ⟨spec.name, readTypeParams c spec.params, spec.isAlias,
    readType c (paramNames spec.params) spec.type⟩

/-- The type below stars and parentheses, and whether there was a star. -/
def peelReceiver : TypeNode → Bool × TypeNode
  | ⟨_, .pointer elem⟩ => (true, (peelReceiver elem).2)
  | ⟨_, .paren inner⟩ => peelReceiver inner
  | node => (false, node)

/-- The name of a receiver's type and the names of its type parameters. -/
def receiverName (node : TypeNode) : String × List String :=
  match node.form with
  | .generic base args => (base.stretch.text, args.map fun a => Text.strip a.stretch.text)
  | _ => (node.stretch.text, [])

/-- A method is declared on the type of its first receiver; without one it is passed over. -/
def readMethod (c : FileScope) (receiver : List Syntax.Param) (name : String)
    (signature : Syntax.Signature) : Option MethodDecl :=
  receiver.head?.map fun first =>
    let (pointer, node) := peelReceiver first.type
    let (base, params) := receiverName node
    ⟨base, pointer, params, name, readSignature c params signature⟩

end GoStub
