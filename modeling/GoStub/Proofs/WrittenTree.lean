import GoStub.Proofs.NameLists
import GoStub.Proofs.SingleLine
import GoStub.Proofs.TypeForm
import GoStub.Syntax.Readings

/-! Syntax trees and their text. A tree says how it is written, up to the lines between declarations
and the layout of the outermost braces. Some texts are taken for something else: `(T, chan int)`
can be two names with the type `int`. A tree is legible if no such text is written for it, and what
is asked of reading is that it gives legible trees back, but for the places they stand at. -/

namespace GoStub.Syntax

/-- A stretch with this text. -/
def Stretch.ofText (text : String) : Stretch :=
  ⟨⟨0, 0, text.toList⟩, ⟨0, text.toList.length, []⟩⟩

@[simp] theorem Stretch.text_ofText (text : String) : (Stretch.ofText text).text = text := by
  simp [Stretch.ofText, Stretch.text, Stretch.length]

/-- Members in braces, on one line. -/
def inlineMembers (members : List String) : String :=
  if members.isEmpty then "\x7b\x7d" else "\x7b " ++ Text.joinWith "; " members ++ " \x7d"

/-- Members in braces, on lines of their own. -/
def blockMembers (members : List String) : String :=
  if members.isEmpty then "\x7b\x7d"
  else " \x7b\n" ++ Text.concat (members.map fun m => "\t" ++ m ++ "\n") ++ "\x7d"

/-- Arguments or parameters in brackets, if there are any. -/
def bracketed (texts : List String) : String :=
  if texts.isEmpty then "" else "[" ++ Text.joinWith ", " texts ++ "]"

/-- Results without names: nothing, one, or several in parentheses. -/
def resultList : List String → String
  | [] => ""
  | [result] => " " ++ result
  | results => " (" ++ Text.joinWith ", " results ++ ")"

/-- Names before their type. -/
def nameList (names : List String) : String :=
  if names.isEmpty then "" else Text.joinWith ", " names ++ " "

def tagText : Option String → String
  | some tag => " " ++ tag
  | none => ""

mutual

/-- The text of a type, on one line. -/
def TypeNode.text : TypeNode → String
  | ⟨_, form⟩ => form.text

def TypeForm.text : TypeForm → String
  | .name name => name
  | .qualified package name => package ++ "." ++ name
  | .generic base args => base.text ++ bracketed (writtenTypes args)
  | .pointer elem => "*" ++ elem.text
  | .slice elem => "[]" ++ elem.text
  | .array length elem => "[" ++ length.stretch.text ++ "]" ++ elem.text
  | .countedArray elem => "[...]" ++ elem.text
  | .map key value => "map[" ++ key.text ++ "]" ++ value.text
  | .chan direction elem => directionText direction ++ elem.text
  | .func signature => "func" ++ signature.text
  | .struct fields => "struct" ++ inlineMembers (writtenFields fields)
  | .interface elems => "interface" ++ inlineMembers (writtenElems elems)
  | .paren inner => "(" ++ inner.text ++ ")"
  | .tilde elem => "~" ++ elem.text
  | .union terms => Text.joinWith " | " (writtenTypes terms)

def writtenTypes : List TypeNode → List String
  | [] => []
  | t :: ts => t.text :: writtenTypes ts

def writtenParams : List Param → List String
  | [] => []
  | ⟨names, type, variadic⟩ :: params =>
    (nameList names ++ (if variadic then "..." else "") ++ type.text) :: writtenParams params

def Signature.text : Signature → String
  | ⟨params, results⟩ =>
    "(" ++ Text.joinWith ", " (writtenParams params) ++ ")" ++ resultList (writtenParams results)

def writtenFields : List Field → List String
  | [] => []
  | ⟨_, names, starred, type, tag⟩ :: fields =>
    (nameList names ++ (if starred then "*" else "") ++ type.text ++ tagText tag) ::
      writtenFields fields

def writtenElems : List Elem → List String
  | [] => []
  | .method name signature :: elems => (name ++ signature.text) :: writtenElems elems
  | .type type :: elems => type.text :: writtenElems elems

end

/-- The text of a type with its members on lines of their own. -/
def TypeNode.blockText (node : TypeNode) : String :=
  match node.form with
  | .struct fields => "struct" ++ blockMembers (writtenFields fields)
  | .interface elems => "interface" ++ blockMembers (writtenElems elems)
  | _ => node.text

/-- A word that is told as a name. -/
def isIdentifier (s : String) : Bool :=
  match s.toList with
  | [] => false
  | c :: cs => startsName c && cs.all continuesName &&
      (s == "_" || (reservedWords.lookup s).isNone)

theorem singleLine_of_isIdentifier {s : String} (h : isIdentifier s = true) : SingleLine s := by
  intro hend
  unfold isIdentifier at h
  split at h
  · cases h
  next c cs hs =>
    simp only [Bool.and_eq_true, List.all_eq_true] at h
    rw [hs] at hend
    rcases List.mem_cons.mp hend with rfl | hend
    · exact absurd h.1.1 (by decide)
    · exact absurd (h.1.2 _ hend) (by decide)

/-- The codes of the blanks, none of which is part of a name. -/
def blankCodes : { codes : List Nat // ∀ n ∈ codes,
    startsName (Char.ofNat n) = false ∧ continuesName (Char.ofNat n) = false } :=
  ⟨[9, 10, 11, 12, 13, 32, 133, 160, 5760, 8192, 8193, 8194, 8195, 8196, 8197, 8198, 8199, 8200,
    8201, 8202, 8232, 8233, 8239, 8287, 12288], by decide +kernel⟩

theorem toNat_mem_blankCodes {ch : Char} (h : Text.isBlank ch = true) :
    ch.toNat ∈ blankCodes.1 := by
  simp only [Text.isBlank, Bool.or_eq_true, Bool.and_eq_true, decide_eq_true_eq, beq_iff_eq] at h
  simp only [blankCodes, List.mem_cons, List.not_mem_nil, or_false]
  omega

theorem strip_of_isIdentifier {name : String} (h : isIdentifier name = true) :
    Text.strip name = name := by
  have hblank (ch : Char) (hch : ch ∈ name.toList) : Text.isBlank ch = false := by
    by_contra hblank
    have hcode := toNat_mem_blankCodes (Bool.eq_true_of_not_eq_false hblank)
    obtain ⟨hfirst, hlater⟩ := blankCodes.2 _ hcode
    rw [Char.ofNat_toNat] at hfirst hlater
    unfold isIdentifier at h
    split at h
    · cases h
    next first later hname =>
      simp only [Bool.and_eq_true, List.all_eq_true] at h
      rw [hname] at hch
      rcases List.mem_cons.mp hch with rfl | hch
      · exact absurd h.1.1 (by simp [hfirst])
      · exact absurd (h.1.2 ch hch) (by simp [hlater])
  have htrimmed : Text.Trimmed name.toList :=
    ⟨fun ch hch => hblank ch (List.mem_of_mem_head? hch),
      fun ch hch => hblank ch (List.mem_of_mem_getLast? hch)⟩
  rw [Text.strip, Text.trim_of_trimmed htrimmed, String.ofList_toList]

/-- A string literal in double quotes, or in backquotes. -/
def Pattern.string : Pattern :=
  sequence [oneOf "\"", many (either (noneOf "\"\n\\") escape), oneOf "\""]

def Pattern.rawString : Pattern :=
  sequence [oneOf "\x60", many (noneOf "\x60"), oneOf "\x60"]

/-- How literals of a kind are told. -/
def LiteralKind.pattern : LiteralKind → Pattern
  | .int => .int
  | .float => .float
  | .imaginary => .imaginary
  | .rune => .rune
  | .string => .string
  | .rawString => .rawString

/-- Whether a text is a literal of this kind. -/
def LiteralKind.hasText (kind : LiteralKind) (text : String) : Bool :=
  kind.pattern.longest? text.toList == some text.toList.length

/-- Literals, truth values and names of other packages. -/
def ExprNode.isLegible : ExprNode → Bool
  | ⟨s, .literal kind⟩ => kind.hasText s.text
  | ⟨s, .truth⟩ => s.text == "true" || s.text == "false"
  | ⟨s, .selector ⟨_, .name package⟩ name⟩ =>
    isIdentifier package && isIdentifier name && s.text == package ++ "." ++ name
  | _ => false

namespace TypeNode

/-- A plain name or the name of another package. -/
def isName : TypeNode → Bool
  | ⟨_, .name _⟩ => true
  | ⟨_, .qualified _ _⟩ => true
  | _ => false

/-- A name, with or without arguments. -/
def isEmbedded : TypeNode → Bool
  | ⟨_, .generic base _⟩ => base.isName
  | node => node.isName

/-- Types that are written like an expression. -/
def isOperand : TypeNode → Bool
  | ⟨_, .name _⟩ => true
  | ⟨_, .qualified _ _⟩ => true
  | ⟨_, .pointer elem⟩ => elem.isOperand
  | _ => false

/-- What follows the first word of the type is a type as well. So after a plain name and a comma the
word is taken for a further name. -/
def joinsNames : TypeNode → Bool
  | ⟨_, .map key _⟩ => key.isOperand
  | ⟨_, .chan .both _⟩ => true
  | ⟨_, .func ⟨[⟨[], _, false⟩], []⟩⟩ => true
  | _ => false

/-- An arrow between the two words is taken for that of the other channel. -/
def losesArrow : Direction → TypeNode → Bool
  | .both, ⟨_, .chan .receive _⟩ => true
  | .send, ⟨_, .chan .both _⟩ => true
  | _, _ => false

/-- The last word is the name of a generic type of another package. After a tilde, the arguments are
taken for those of the whole. -/
def endsInGeneric : TypeNode → Bool
  | ⟨_, .generic ⟨_, .qualified _ _⟩ _⟩ => true
  | ⟨_, .pointer elem⟩ => elem.endsInGeneric
  | ⟨_, .slice elem⟩ => elem.endsInGeneric
  | ⟨_, .array _ elem⟩ => elem.endsInGeneric
  | ⟨_, .map _ value⟩ => value.endsInGeneric
  | ⟨_, .chan _ elem⟩ => elem.endsInGeneric
  | ⟨_, .func ⟨_, [⟨_, result, _⟩]⟩⟩ => result.endsInGeneric
  | _ => false

/-- After a name, the type is taken for a factor: in `[P *T]` for the length of an array. -/
def isFactor : TypeNode → Bool
  | ⟨_, .pointer elem⟩ => elem.isOperand
  | ⟨_, .array _ elem⟩ => elem.isFactor
  | ⟨_, .union (term :: terms)⟩ => term.isFactor && terms.all (·.isOperand)
  | _ => false

end TypeNode

/-- No parameter is taken for part of the names of the next one. -/
def Param.clear : List Param → Bool
  | ⟨[], ⟨_, .name _⟩, false⟩ :: q :: params =>
    q.names.isEmpty && (q.variadic || !q.type.joinsNames) && clear (q :: params)
  | _ :: params => clear params
  | [] => true

/-- Where a type is written: alone, in a union, or as an element of an interface. -/
inductive Role
  | alone
  | term
  | element
  deriving DecidableEq

mutual

/-- Whether a type can be told from its text in this place. -/
def TypeNode.isLegible (role : Role) : TypeNode → Bool
  | ⟨s, form⟩ => form.isLegible role s

def TypeForm.isLegible (role : Role) (s : Stretch) : TypeForm → Bool
  | .name name => isIdentifier name && s.text == name
  | .qualified package name => isIdentifier package && isIdentifier name
  | .generic base args =>
    base.isName && base.isLegible .alone && !args.isEmpty && legibleTypes .alone args
  | .pointer elem => elem.isLegible .alone
  | .slice elem => elem.isLegible .alone
  | .array length elem => length.isLegible && elem.isLegible .alone
  | .countedArray _ => false
  | .map key value => key.isLegible .alone && value.isLegible .alone
  | .chan direction elem => !elem.losesArrow direction && elem.isLegible .alone
  | .func signature => signature.isLegible
  | .struct fields => legibleFields fields
  | .interface elems => legibleElems elems
  | .paren inner => inner.isLegible .alone
  | .tilde elem => role != .alone && !elem.endsInGeneric && elem.isLegible .alone
  | .union terms => role == .element && 2 ≤ terms.length && legibleTypes .term terms

def legibleTypes (role : Role) : List TypeNode → Bool
  | [] => true
  | t :: ts => t.isLegible role && legibleTypes role ts

def legibleParams : List Param → Bool
  | [] => true
  | ⟨names, type, _⟩ :: params =>
    names.all isIdentifier && type.isLegible .alone && legibleParams params

def Signature.isLegible : Signature → Bool
  | ⟨params, results⟩ =>
    Param.clear params && Param.clear results && results.all (·.names.isEmpty) &&
      legibleParams params && legibleParams results

def legibleFields : List Field → Bool
  | [] => true
  | ⟨_, names, starred, type, tag⟩ :: fields =>
    names.all isIdentifier && (if names.isEmpty then type.isEmbedded else !starred) &&
      type.isLegible .alone &&
      tag.all (fun tag => LiteralKind.string.hasText tag || LiteralKind.rawString.hasText tag) &&
      legibleFields fields

def legibleElems : List Elem → Bool
  | [] => true
  | .method name signature :: elems =>
    isIdentifier name && signature.isLegible && legibleElems elems
  | .type type :: elems => type.isLegible .element && legibleElems elems

end

def TypeParam.text (param : TypeParam) : String :=
  nameList param.names ++ param.constraint.text

/-- Whether parameters of a function or a type can be told from their text. -/
def TypeParam.legible (params : List TypeParam) : Bool :=
  params.all fun p =>
    !p.names.isEmpty && p.names.all isIdentifier && p.constraint.isLegible .element

/-- A single parameter of a type is taken for the length of an array. -/
def TypeParam.isLength : List TypeParam → Bool
  | [⟨[_], constraint⟩] => constraint.isFactor
  | _ => false

namespace ImportSpec

def text (spec : ImportSpec) : String :=
  (match spec.name with
    | .default => ""
    | .given name => name ++ " "
    | .dot => ". "
    | .blank => "_ ") ++ "\"" ++ spec.path ++ "\""

def isLegible (spec : ImportSpec) : Bool :=
  (match spec.name with
    | .given name => isIdentifier name && name != "_"
    | _ => true) && spec.path.toList.all fun c => !"\"\n\\".toList.contains c

end ImportSpec

namespace ValueSpec

def text (spec : ValueSpec) : String :=
  Text.joinWith ", " spec.names ++ (spec.type.elim "" fun type => " " ++ type.text) ++
    if spec.values.isEmpty then ""
    else " = " ++ Text.joinWith ", " (spec.values.map (·.stretch.text))

def isLegible (spec : ValueSpec) : Bool :=
  !spec.names.isEmpty && spec.names.all isIdentifier && spec.type.all (·.isLegible .alone) &&
    spec.values.all (·.isLegible)

end ValueSpec

namespace Stmt

/-- A call of a function with a string literal, the only statement that is written. -/
def text : Stmt → String
  | .eval [⟨_, .call ⟨_, .name function⟩ [] [⟨s, .literal .string⟩]⟩] =>
    function ++ "(" ++ s.text ++ ")"
  | _ => ""

def isLegible : Stmt → Bool
  | .eval [⟨_, .call ⟨_, .name function⟩ [] [⟨s, .literal .string⟩]⟩] =>
    isIdentifier function && LiteralKind.string.hasText s.text
  | _ => false

/-- The body of a function. -/
def bodyText (body : List Stmt) : String :=
  " \x7b\n" ++ Text.concat (body.map fun stmt => "\t" ++ stmt.text ++ "\n") ++ "\x7d"

end Stmt

namespace TopLevel

/-- A declaration is written so, from the first line to the end of the last. -/
def Writes : TopLevel → String → Prop
  | .package name, text => text = "package " ++ name ++ "\n"
  | .imports specs, text =>
    (∃ spec, specs = [spec] ∧ text = "import " ++ spec.text ++ "\n") ∨
      ∃ first second gap, specs = first ++ second ∧ gap ∈ ["", "\n"] ∧
        text = "import (\n" ++ lines first ++ gap ++ lines second ++ ")\n"
  | .func name params signature body, text => text = "func " ++ name ++
      bracketed (params.map (·.text)) ++ signature.text ++ Stmt.bodyText body ++ "\n"
  | .method receiver name signature body, text => text = "func (" ++
      Text.joinWith ", " (writtenParams receiver) ++ ") " ++ name ++ signature.text ++
      Stmt.bodyText body ++ "\n"
  | .stmt (.declare (.types [spec])), text => ∃ type ∈ [spec.type.text, spec.type.blockText],
      text = "type " ++ spec.name ++ bracketed (spec.params.map (·.text)) ++ " " ++
        (if spec.isAlias then "= " else "") ++ type ++ "\n"
  | .stmt (.declare (.consts [spec])), text => text = "const " ++ spec.text ++ "\n"
  | .stmt (.declare (.vars [spec])), text => text = "var " ++ spec.text ++ "\n"
  | .stmt _, _ => False
where
  lines (specs : List ImportSpec) : String :=
    Text.concat (specs.map fun spec => "\t" ++ spec.text ++ "\n")

/-- Whether a declaration can be told from its text. -/
def isLegible : TopLevel → Bool
  | .package name => isIdentifier name
  | .imports specs => specs.all (·.isLegible)
  | .func name params signature body => isIdentifier name && TypeParam.legible params &&
      signature.isLegible && body.all (·.isLegible)
  | .method receiver name signature body => legibleParams receiver && isIdentifier name &&
      signature.isLegible && body.all (·.isLegible)
  | .stmt (.declare (.types [spec])) => isIdentifier spec.name && TypeParam.legible spec.params &&
      (if spec.isAlias then spec.params.isEmpty else !TypeParam.isLength spec.params) &&
      spec.type.isLegible .alone
  | .stmt (.declare (.consts [spec])) => spec.isLegible
  | .stmt (.declare (.vars [spec])) => spec.isLegible
  | .stmt _ => false

end TopLevel

/-- Empty lines and comments on lines of their own. -/
def IsFiller (text : String) : Prop :=
  ∃ lines : List String, text = endedLines lines ∧
    ∀ line ∈ lines, SingleLine line ∧ (line = "" ∨ "//".toList <+: line.toList)

namespace SourceFile

/-- The text has the declarations of the file one after another, with empty lines and comments
before each. -/
inductive WritesItems : List TopLevel → String → Prop
  | nil : WritesItems [] ""
  | cons {item : TopLevel} {items : List TopLevel} {filler text rest : String}
      (hfiller : IsFiller filler) (hitem : item.Writes text) (hitems : WritesItems items rest) :
      WritesItems (item :: items) (filler ++ text ++ rest)

theorem WritesItems.append {items items' : List TopLevel} {text text' : String}
    (h : WritesItems items text) (h' : WritesItems items' text') :
    WritesItems (items ++ items') (text ++ text') := by
  induction h with
  | nil => rwa [List.nil_append, String.empty_append]
  | cons hfiller hitem _ ih =>
    rw [List.cons_append, String.append_assoc]
    exact .cons hfiller hitem ih

/-- A single declaration below such lines. -/
theorem WritesItems.single {item : TopLevel} {filler text : String} (hfiller : IsFiller filler)
    (hitem : item.Writes text) : WritesItems [item] (filler ++ text) := by
  rw [← String.append_empty (s := filler ++ text)]
  exact .cons hfiller hitem .nil

def Writes (file : SourceFile) (text : String) : Prop :=
  WritesItems file.items text

def isLegible (file : SourceFile) : Bool :=
  file.items.all (·.isLegible)

end SourceFile

/-- Expressions with the same text and form. -/
def ExprNode.sameAs : ExprNode → ExprNode → Bool
  | ⟨s, .literal kind⟩, ⟨s', .literal kind'⟩ => kind == kind' && s.text == s'.text
  | ⟨s, .truth⟩, ⟨s', .truth⟩ => s.text == s'.text
  | ⟨_, .selector ⟨_, .name package⟩ name⟩, ⟨_, .selector ⟨_, .name package'⟩ name'⟩ =>
    package == package' && name == name'
  | _, _ => false

namespace ExprNode

variable {s s' : Stretch} {node : ExprNode}

theorem sameAs_literal {kind : LiteralKind} (h : sameAs ⟨s, .literal kind⟩ node = true) :
    node.form = .literal kind ∧ node.stretch.text = s.text := by
  obtain ⟨place, form⟩ := node
  cases form with
  | literal kind' =>
    simp only [sameAs, Bool.and_eq_true, beq_iff_eq] at h
    exact ⟨congrArg ExprForm.literal h.1.symm, h.2.symm⟩
  | _ => simp [sameAs] at h

theorem sameAs_truth (h : sameAs ⟨s, .truth⟩ node = true) : node.form = .truth := by
  obtain ⟨place, form⟩ := node
  cases form with
  | truth => rfl
  | _ => simp [sameAs] at h

theorem sameAs_selector {package name : String}
    (h : sameAs ⟨s, .selector ⟨s', .name package⟩ name⟩ node = true) :
    ∃ operand, node.form = .selector operand name ∧ operand.form = .name package := by
  obtain ⟨place, form⟩ := node
  cases form with
  | selector operand field =>
    obtain ⟨first, form⟩ := operand
    cases form with
    | name qualifier =>
      simp only [sameAs, Bool.and_eq_true, beq_iff_eq] at h
      obtain ⟨rfl, rfl⟩ := h
      exact ⟨_, rfl, rfl⟩
    | _ => simp [sameAs] at h
  | _ => simp [sameAs] at h

end ExprNode

mutual

/-- Whether a type is the same, wherever it stands. Of stretches, only the text of names counts. -/
def TypeNode.sameAs : TypeNode → TypeNode → Bool
  | ⟨s, form⟩, node => form.sameAs s node
  termination_by structural node => node

def TypeForm.sameAs (s : Stretch) : TypeForm → TypeNode → Bool
  | .name name, node =>
    match node.form with
    | .name name' => name == name' && s.text == node.stretch.text
    | _ => false
  | .qualified package name, node =>
    match node.form with
    | .qualified package' name' => package == package' && name == name'
    | _ => false
  | .generic base args, node =>
    match node.form with
    | .generic base' args' => base.sameAs base' && sameTypes args args'
    | _ => false
  | .pointer elem, node =>
    match node.form with
    | .pointer elem' => elem.sameAs elem'
    | _ => false
  | .slice elem, node =>
    match node.form with
    | .slice elem' => elem.sameAs elem'
    | _ => false
  | .array length elem, node =>
    match node.form with
    | .array length' elem' => length.sameAs length' && elem.sameAs elem'
    | _ => false
  | .countedArray elem, node =>
    match node.form with
    | .countedArray elem' => elem.sameAs elem'
    | _ => false
  | .map key value, node =>
    match node.form with
    | .map key' value' => key.sameAs key' && value.sameAs value'
    | _ => false
  | .chan direction elem, node =>
    match node.form with
    | .chan direction' elem' => direction == direction' && elem.sameAs elem'
    | _ => false
  | .func signature, node =>
    match node.form with
    | .func signature' => signature.sameAs signature'
    | _ => false
  | .struct fields, node =>
    match node.form with
    | .struct fields' => sameFields fields fields'
    | _ => false
  | .interface elems, node =>
    match node.form with
    | .interface elems' => sameElems elems elems'
    | _ => false
  | .paren inner, node =>
    match node.form with
    | .paren inner' => inner.sameAs inner'
    | _ => false
  | .tilde elem, node =>
    match node.form with
    | .tilde elem' => elem.sameAs elem'
    | _ => false
  | .union terms, node =>
    match node.form with
    | .union terms' => sameTypes terms terms'
    | _ => false
  termination_by structural form => form

def sameTypes : List TypeNode → List TypeNode → Bool
  | [], [] => true
  | t :: ts, t' :: ts' => t.sameAs t' && sameTypes ts ts'
  | _, _ => false
  termination_by structural types => types

def sameParams : List Param → List Param → Bool
  | [], [] => true
  | ⟨names, type, variadic⟩ :: params, param :: params' => names == param.names &&
      variadic == param.variadic && type.sameAs param.type && sameParams params params'
  | _, _ => false
  termination_by structural params => params

def Signature.sameAs : Signature → Signature → Bool
  | ⟨params, results⟩, signature =>
    sameParams params signature.params && sameParams results signature.results
  termination_by structural signature => signature

def sameFields : List Field → List Field → Bool
  | [], [] => true
  | ⟨_, names, starred, type, tag⟩ :: fields, field :: fields' => names == field.names &&
      starred == field.starred && type.sameAs field.type && tag == field.tag &&
      sameFields fields fields'
  | _, _ => false
  termination_by structural fields => fields

def sameElems : List Elem → List Elem → Bool
  | [], [] => true
  | .method name signature :: elems, .method name' signature' :: elems' =>
    name == name' && signature.sameAs signature' && sameElems elems elems'
  | .type type :: elems, .type type' :: elems' => type.sameAs type' && sameElems elems elems'
  | _, _ => false
  termination_by structural elems => elems

end

def TypeParam.sameAs (param param' : TypeParam) : Bool :=
  param.names == param'.names && param.constraint.sameAs param'.constraint

def TypeSpec.sameAs (spec spec' : TypeSpec) : Bool :=
  spec.name == spec'.name && spec.params.isEqv spec'.params TypeParam.sameAs &&
    spec.isAlias == spec'.isAlias && spec.type.sameAs spec'.type

def ValueSpec.sameAs (spec spec' : ValueSpec) : Bool :=
  spec.names == spec'.names &&
    spec.type.toList.isEqv spec'.type.toList TypeNode.sameAs &&
    spec.values.isEqv spec'.values ExprNode.sameAs

/-- Whether two declarations are the same. What functions do is not compared. -/
def TopLevel.sameAs : TopLevel → TopLevel → Bool
  | .package name, .package name' => name == name'
  | .imports specs, .imports specs' =>
    specs.isEqv specs' fun spec spec' => spec.path == spec'.path && spec.name == spec'.name
  | .func name params signature _, .func name' params' signature' _ => name == name' &&
      params.isEqv params' TypeParam.sameAs && signature.sameAs signature'
  | .method receiver name signature _, .method receiver' name' signature' _ =>
    sameParams receiver receiver' && name == name' && signature.sameAs signature'
  | .stmt (.declare (.types [spec])), .stmt (.declare (.types [spec'])) => spec.sameAs spec'
  | .stmt (.declare (.consts [spec])), .stmt (.declare (.consts [spec'])) => spec.sameAs spec'
  | .stmt (.declare (.vars [spec])), .stmt (.declare (.vars [spec'])) => spec.sameAs spec'
  | _, _ => false

namespace TopLevel

theorem exists_declare_of_sameAs {decl : Decl} {item : TopLevel}
    (h : sameAs (.stmt (.declare decl)) item = true) : ∃ found, item = .stmt (.declare found) := by
  unfold sameAs at h
  split at h
  all_goals first
    | exact ⟨_, rfl⟩
    | contradiction

theorem sameAs_types {spec : TypeSpec} {item : TopLevel}
    (h : sameAs (.stmt (.declare (.types [spec]))) item = true) :
    ∃ found, item = .stmt (.declare (.types [found])) ∧ spec.sameAs found = true := by
  obtain ⟨decl, rfl⟩ := exists_declare_of_sameAs h
  cases decl with
  | types specs =>
    rcases specs with _ | ⟨found, _ | ⟨_, _⟩⟩
    · cases h
    · exact ⟨found, rfl, h⟩
    · cases h
  | _ => cases h

theorem sameAs_consts {spec : ValueSpec} {item : TopLevel}
    (h : sameAs (.stmt (.declare (.consts [spec]))) item = true) :
    ∃ found, item = .stmt (.declare (.consts [found])) ∧ spec.sameAs found = true := by
  obtain ⟨decl, rfl⟩ := exists_declare_of_sameAs h
  cases decl with
  | consts specs =>
    rcases specs with _ | ⟨found, _ | ⟨_, _⟩⟩
    · cases h
    · exact ⟨found, rfl, h⟩
    · cases h
  | _ => cases h

theorem sameAs_vars {spec : ValueSpec} {item : TopLevel}
    (h : sameAs (.stmt (.declare (.vars [spec]))) item = true) :
    ∃ found, item = .stmt (.declare (.vars [found])) ∧ spec.sameAs found = true := by
  obtain ⟨decl, rfl⟩ := exists_declare_of_sameAs h
  cases decl with
  | vars specs =>
    rcases specs with _ | ⟨found, _ | ⟨_, _⟩⟩
    · cases h
    · exact ⟨found, rfl, h⟩
    · cases h
  | _ => cases h

end TopLevel

namespace SourceFile

def sameAs (file file' : SourceFile) : Bool :=
  file.items.isEqv file'.items TopLevel.sameAs

/-- If the file is legible and this is how it is written, it is read back from the text. -/
def ReadsBack (file : SourceFile) (text : String) : Prop :=
  file.isLegible = true → file.Writes text → file.sameAs (.read text) = true

end SourceFile

end GoStub.Syntax
