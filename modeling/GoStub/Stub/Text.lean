import GoStub.Shape.Record
import GoStub.Stub.TypeText

/-! The text of a stub. Every function body panics, every declaration says where it comes from, and
only packages that are referred to are imported. -/

namespace GoStub

/-- The source of a stub, without a file header, and the packages it imports. -/
structure Stub where
  package : String
  packageName : String
  text : String
  imports : List String
  deriving DecidableEq

namespace StubScope

def ofPlan (p : StubPlan) : StubScope :=
  ⟨p.package, (p.records.filter (·.shape.declaresType)).map (·.name), p.imports⟩

/-- The comment before a declaration; `path` is its name within the package. -/
def comment (c : StubScope) (name path : String) : String :=
  "// " ++ name ++ " is a stub of " ++ c.package ++ "." ++ path ++
    ". Generated code, do not edit.\n"

end StubScope

/-- The body of every function and method. -/
def functionBody : String :=
  " \x7b\n\tpanic(\"not implemented\")\n\x7d\n"

/-- A struct or interface with its members on lines of their own. -/
def blockText (keyword : String) (members : List Fragment) : Fragment :=
  if members.isEmpty then .ofText (keyword ++ "\x7b\x7d")
  else
    (keyword ++ " \x7b\n") ++ Fragment.concat (members.map fun m => "\t" ++ m ++ "\n") ++ "\x7d"

def paramListText (c : StubScope) (params : List TypeParam) : Except Obstacle Fragment := do
  let constraints ← typeTexts c (params.map (·.constraint))
  return argumentText (List.zipWith (fun p t => (p.name ++ " ") ++ t) params constraints)

/-- The signature of a declaration, whose parameters have blank names. -/
def declaredSignature (c : StubScope) (s : Signature) : Except Obstacle Fragment := do
  let params ← typeTexts c s.params
  let results ← typeTexts c s.results
  let params := (variadicTexts s.variadic params).map fun (p : Fragment) => "_ " ++ p
  return "(" ++ Fragment.joinWith ", " params ++ ")" ++ resultText results

/-- The receiver of a method. -/
def receiverText (receiver : String) (m : DeclaredMethod) : String :=
  let params :=
    if m.receiverParams.isEmpty then "" else "[" ++ Text.joinWith ", " m.receiverParams ++ "]"
  "(" ++ (if m.pointer then "*" else "") ++ receiver ++ params ++ ")"

def methodText (c : StubScope) (receiver : String) (m : DeclaredMethod) :
    Except Obstacle Fragment := do
  let signature ← declaredSignature c m.signature
  return ("\n" ++ c.comment m.name (receiver ++ "." ++ m.name) ++ "func " ++
    receiverText receiver m ++ " " ++ m.name) ++ signature ++ functionBody

def methodsText (c : StubScope) (receiver : String) : List DeclaredMethod → Except Obstacle Fragment
  | [] => .ok (.ofText "")
  | m :: rest => do
    let m ← methodText c receiver m
    return m ++ (← methodsText c receiver rest)

/-- A type declaration from its parameters and what follows them. -/
def typeDeclText (name : String) (params : Fragment) (rest : Fragment) : Fragment :=
  ("type " ++ name) ++ params ++ " " ++ rest ++ "\n"

/-- A declaration, without the comment before it. -/
def shapeText (c : StubScope) (name : String) : Shape → Except Obstacle Fragment
  | .function params signature => do
    let params ← paramListText c params
    let signature ← declaredSignature c signature
    return ("func " ++ name) ++ params ++ signature ++ functionBody
  | .interface params body => do
    let params ← paramListText c params
    let members ← body.memberTexts c
    return typeDeclText name params (blockText "interface" members)
  | .struct params fields methods => do
    let params ← paramListText c params
    let members ← fieldTexts c fields
    return typeDeclText name params (blockText "struct" members) ++ (← methodsText c name methods)
  | .named params underlying isAlias methods => do
    let params ← paramListText c params
    let underlying ← underlying.text c
    return typeDeclText name params ((if isAlias then "= " else "") ++ underlying) ++
      (← methodsText c name methods)
  | .value type true basic =>
    match basic, type with
    | none, _ => .error .constantWithoutKind
    | some kind, some type => do
      let type ← type.text c
      return ("const " ++ name ++ " ") ++ type ++ (" = " ++ kind.zero ++ "\n")
    | some kind, none => .ok (.ofText ("const " ++ name ++ " = " ++ kind.zero ++ "\n"))
  | .value type false _ =>
    match type with
    | none => .error .variableWithoutType
    | some type => do
      let type ← type.text c
      return ("var " ++ name ++ " ") ++ type ++ "\n"

def recordText (c : StubScope) (r : Record) : Except StubFault Fragment :=
  match shapeText c r.name r.shape with
  | .error obstacle => .error (.render c.package r.name obstacle)
  | .ok declaration => .ok (("\n" ++ c.comment r.name r.name) ++ declaration)

def recordsText (c : StubScope) : List Record → Except StubFault Fragment
  | [] => .ok (.ofText "")
  | r :: rest => do
    let r ← recordText c r
    return r ++ (← recordsText c rest)

/-- The line of an import; the local name is written unless it is the one the path stands for. -/
def importLine (path qualifier : String) : String :=
  if qualifier = Name.ofImportPath path then "\"" ++ path ++ "\""
  else qualifier ++ " \"" ++ path ++ "\""

/-- The import declaration: none, a single line, or a list with the standard library first. -/
def importText (imports : List (String × String)) : String :=
  match imports with
  | [] => ""
  | [(path, qualifier)] => "\nimport " ++ importLine path qualifier ++ "\n"
  | imports =>
    let standard := imports.filter fun i => Name.isStandard i.1
    let other := imports.filter fun i => !Name.isStandard i.1
    let lines (l : List (String × String)) :=
      Text.concat (l.map fun i => "\t" ++ importLine i.1 i.2 ++ "\n")
    let gap := if standard.isEmpty || other.isEmpty then "" else "\n"
    "\nimport (\n" ++ lines standard ++ gap ++ lines other ++ ")\n"

/-- The stub that a plan describes. -/
def Stub.ofPlan (p : StubPlan) : Except StubFault Stub := do
  let body ← recordsText (.ofPlan p) p.records
  let imports := p.imports.names.entries.filter fun i => body.uses.contains i.1
  return {
    package := p.package
    packageName := p.packageName
    text := "package " ++ p.packageName ++ "\n" ++ importText imports ++ body.text
    imports := NameSet.ofNames body.uses }

end GoStub
