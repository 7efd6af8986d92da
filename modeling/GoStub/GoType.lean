import GoStub.Dict

/-! Go types with every name resolved to the package that declares it, and substitution of their
type parameters. -/

namespace GoStub

inductive Direction
  | both
  | send
  | receive
  deriving DecidableEq

/-- The length of an array type: an integer as written, a constant of a package, or any other
expression. -/
inductive ArrayLength
  | literal (value : String)
  | constant (package name : String)
  | expr (text : String)
  deriving DecidableEq

mutual

inductive GoType
  | builtin (name : String)
  | param (name : String)
  | named (package name : String) (args : List GoType)
  | pointer (elem : GoType)
  | slice (elem : GoType)
  | array (length : ArrayLength) (elem : GoType)
  | map (key value : GoType)
  | chan (direction : Direction) (elem : GoType)
  | func (signature : Signature)
  | struct (fields : List Field)
  | interface (body : InterfaceBody)
  | tilde (elem : GoType)
  | union (terms : List GoType)
  | unsupported (reason : String)

/-- Parameter and result types. In a variadic signature the last parameter is `...T` and stands here
as `T`. -/
structure Signature where
  params : List GoType
  variadic : Bool
  results : List GoType

/-- A struct field. The tag keeps its quotes. -/
structure Field where
  name : String
  type : GoType
  embedded : Bool
  tag : Option String

structure Method where
  name : String
  signature : Signature

/-- An interface: its methods, the named types it embeds, and its type-set elements. -/
structure InterfaceBody where
  methods : List Method
  embedded : List GoType
  typeSets : List GoType

end

structure TypeParam where
  name : String
  constraint : GoType

instance : Inhabited GoType := ⟨.builtin ""⟩

namespace GoType

def plain (package name : String) : GoType :=
  .named package name []

/-- The name of a field that embeds this type: `*p.T[X]` is embedded as `T`. -/
def embeddedAs : GoType → Option String
  | .named _ name _ => some name
  | .builtin name => some name
  | .pointer elem => elem.embeddedAs
  | _ => none

end GoType

/-- What type parameters stand for. -/
abbrev Substitution := Dict GoType

mutual

/-- Replaces all type parameters at once; one without an entry stays. With no entry at all the type
is not looked at. -/
def GoType.substitute (s : Substitution) (t : GoType) : GoType :=
  if s.isEmpty then t
  else
    match t with
    | .builtin name => .builtin name
    | .param name => (s.get? name).getD (.param name)
    | .named package name args => .named package name (substituteAll s args)
    | .pointer elem => .pointer (elem.substitute s)
    | .slice elem => .slice (elem.substitute s)
    | .array length elem => .array length (elem.substitute s)
    | .map key value => .map (key.substitute s) (value.substitute s)
    | .chan direction elem => .chan direction (elem.substitute s)
    | .func signature => .func (signature.substitute s)
    | .struct fields => .struct (substituteFields s fields)
    | .interface body => .interface (body.substitute s)
    | .tilde elem => .tilde (elem.substitute s)
    | .union terms => .union (substituteAll s terms)
    | .unsupported reason => .unsupported reason

def substituteAll (s : Substitution) : List GoType → List GoType
  | [] => []
  | t :: ts => t.substitute s :: substituteAll s ts

def Signature.substitute (s : Substitution) : Signature → Signature
  | ⟨params, variadic, results⟩ => ⟨substituteAll s params, variadic, substituteAll s results⟩

def Field.substitute (s : Substitution) : Field → Field
  | ⟨name, type, embedded, tag⟩ => ⟨name, type.substitute s, embedded, tag⟩

def substituteFields (s : Substitution) : List Field → List Field
  | [] => []
  | f :: fs => f.substitute s :: substituteFields s fs

def Method.substitute (s : Substitution) : Method → Method
  | ⟨name, signature⟩ => ⟨name, signature.substitute s⟩

def substituteMethods (s : Substitution) : List Method → List Method
  | [] => []
  | m :: ms => m.substitute s :: substituteMethods s ms

def InterfaceBody.substitute (s : Substitution) : InterfaceBody → InterfaceBody
  | ⟨methods, embedded, typeSets⟩ =>
    ⟨substituteMethods s methods, substituteAll s embedded, substituteAll s typeSets⟩

end

/-- The kinds of constants. -/
inductive ConstantKind
  | bool
  | int
  | rune
  | float
  | complex
  | string
  deriving DecidableEq

namespace ConstantKind

/-- The kind of a predeclared type, if constants can have that type. -/
def ofType? (name : String) : Option ConstantKind :=
  if name = "bool" then some .bool
  else if name = "rune" then some .rune
  else if name = "string" then some .string
  else if ["float32", "float64"].contains name then some .float
  else if ["complex64", "complex128"].contains name then some .complex
  else if ["int", "int8", "int16", "int32", "int64", "uint", "uint8", "uint16", "uint32", "uint64",
      "uintptr", "byte"].contains name then some .int
  else none

/-- The type a variable takes from an untyped constant of this kind. -/
def impliedType : ConstantKind → String
  | .bool => "bool"
  | .int => "int"
  | .rune => "rune"
  | .float => "float64"
  | .complex => "complex128"
  | .string => "string"

/-- A literal that is zero and keeps the kind of an untyped constant. -/
def zero : ConstantKind → String
  | .bool => "false"
  | .int => "0"
  | .rune => "'\\x00'"
  | .float => "0.0"
  | .complex => "0i"
  | .string => "\"\""

/-- Of two untyped operands the kind of higher rank decides. -/
def rank : ConstantKind → Nat
  | .bool => 0
  | .int => 1
  | .rune => 2
  | .float => 3
  | .complex => 4
  | .string => 5

end ConstantKind

end GoStub
