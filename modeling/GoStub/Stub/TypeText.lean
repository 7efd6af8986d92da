import GoStub.ImportTable
import GoStub.Stub.Fragment
import GoStub.StubFault
import GoStub.GoType

/-! The text of types in a stub. -/

namespace GoStub

/-- What names in a stub can refer to: its package, the types it declares, and its imports. -/
structure StubScope where
  package : String
  declared : List String
  imports : ImportTable

namespace StubScope

/-- A name of another package, after the local name of that package. -/
def qualified (c : StubScope) (package name : String) : Except Obstacle Fragment :=
  match c.imports.localName? package with
  | none => .error (.notImported package)
  | some qualifier => .ok ⟨qualifier ++ "." ++ name, [package]⟩

def nameText (c : StubScope) (package name : String) : Except Obstacle Fragment :=
  if package = c.package then
    if c.declared.contains name then .ok (.ofText name) else .error (.undeclared name)
  else c.qualified package name

def lengthText (c : StubScope) : ArrayLength → Except Obstacle Fragment
  | .literal value => .ok (.ofText value)
  | .constant package name =>
    if package = c.package then .error (.lengthNotResolved name) else c.qualified package name
  | .expr text => .error (.unsupportedLength text)

end StubScope

/-- Type arguments in brackets, if there are any. -/
def argumentText (args : List Fragment) : Fragment :=
  if args.isEmpty then .ofText "" else "[" ++ Fragment.joinWith ", " args ++ "]"

/-- The result types of a function: nothing, one, or several in parentheses. -/
def resultText : List Fragment → Fragment
  | [] => .ofText ""
  | [result] => " " ++ result
  | results => " (" ++ Fragment.joinWith ", " results ++ ")"

/-- Parameters, of which the last may stand for any number. -/
def variadicTexts (variadic : Bool) : List Fragment → List Fragment
  | [] => []
  | [last] => [if variadic then "..." ++ last else last]
  | p :: q :: rest => p :: variadicTexts variadic (q :: rest)

/-- The members of a struct or interface on one line. -/
def inlineText (keyword : String) (members : List Fragment) : Fragment :=
  if members.isEmpty then .ofText (keyword ++ "\x7b\x7d")
  else (keyword ++ "\x7b ") ++ Fragment.joinWith "; " members ++ " \x7d"

/-- A channel type. A receive channel as element is put in parentheses, where its arrow could be
taken for the outer one's. -/
def chanText (direction : Direction) (elem : GoType) (text : Fragment) : Fragment :=
  match direction, elem with
  | .send, _ => "chan<- " ++ text
  | .receive, _ => "<-chan " ++ text
  | .both, .chan .receive _ => "chan (" ++ text ++ ")"
  | .both, _ => "chan " ++ text

def fieldText (name : String) (embedded : Bool) (tag : Option String) (type : Fragment) :
    Fragment :=
  let field := if embedded then type else (name ++ " ") ++ type
  match tag with
  | some tag => field ++ (" " ++ tag)
  | none => field

mutual

def GoType.text (c : StubScope) : GoType → Except Obstacle Fragment
  | .builtin name => .ok (.ofText name)
  | .param name => .ok (.ofText name)
  | .named package name args => do
    let head ← c.nameText package name
    return head ++ argumentText (← typeTexts c args)
  | .pointer elem => return "*" ++ (← elem.text c)
  | .slice elem => return "[]" ++ (← elem.text c)
  | .array length elem => do
    let length ← c.lengthText length
    return "[" ++ length ++ "]" ++ (← elem.text c)
  | .map key value => do
    let key ← key.text c
    return "map[" ++ key ++ "]" ++ (← value.text c)
  | .chan direction elem => return chanText direction elem (← elem.text c)
  | .func signature => return "func" ++ (← signature.text c)
  | .struct fields => return inlineText "struct" (← fieldTexts c fields)
  | .interface body => return inlineText "interface" (← body.memberTexts c)
  | .tilde elem => return "~" ++ (← elem.text c)
  | .union terms => return Fragment.joinWith " | " (← typeTexts c terms)
  | .unsupported reason => .error (.unsupported reason)

def typeTexts (c : StubScope) : List GoType → Except Obstacle (List Fragment)
  | [] => .ok []
  | t :: ts => do
    let t ← t.text c
    return t :: (← typeTexts c ts)

/-- Parameters without names, and results. -/
def Signature.text (c : StubScope) : Signature → Except Obstacle Fragment
  | ⟨params, variadic, results⟩ => do
    let params ← typeTexts c params
    let results ← typeTexts c results
    return "(" ++ Fragment.joinWith ", " (variadicTexts variadic params) ++ ")" ++
      resultText results

def fieldTexts (c : StubScope) : List Field → Except Obstacle (List Fragment)
  | [] => .ok []
  | ⟨name, type, embedded, tag⟩ :: rest => do
    let type ← type.text c
    return fieldText name embedded tag type :: (← fieldTexts c rest)

def methodTexts (c : StubScope) : List Method → Except Obstacle (List Fragment)
  | [] => .ok []
  | ⟨name, signature⟩ :: rest => do
    let signature ← signature.text c
    return (name ++ signature) :: (← methodTexts c rest)

/-- The members of an interface: embedded types, methods, type sets. -/
def InterfaceBody.memberTexts (c : StubScope) : InterfaceBody → Except Obstacle (List Fragment)
  | ⟨methods, embedded, typeSets⟩ => do
    let embedded ← typeTexts c embedded
    let methods ← methodTexts c methods
    return embedded ++ methods ++ (← typeTexts c typeSets)

end

end GoStub
