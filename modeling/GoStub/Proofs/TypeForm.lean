import GoStub.Proofs.FreeNames
import GoStub.Proofs.Lexis
import GoStub.Proofs.Printing

/-! Types of the form they have in a Go source, and the characters that are printed for them. -/

namespace GoStub

/-- The words that types begin with. They are no names. -/
def typeWords : List String :=
  ["map", "chan", "func", "struct", "interface"]

/-- A word that can name a type, a method or a type parameter. -/
def IsName (s : String) : Prop :=
  IsWord s ∧ s ∉ typeWords

instance (s : String) : Decidable (IsName s) :=
  inferInstanceAs (Decidable (_ ∧ _))

namespace GoType

def isUnion : GoType → Bool
  | .union _ => true
  | _ => false

/-- Unions and tildes, which only a type set has. -/
def isConstraint : GoType → Bool
  | .union _ => true
  | .tilde _ => true
  | _ => false

/-- The terms of a union. Any other type is its only term. -/
def terms : GoType → List GoType
  | .union terms => terms
  | t => [t]

theorem terms_of_isUnion {t : GoType} (h : t.isUnion = false) : t.terms = [t] := by
  cases t <;> first | rfl | cases h

/-- A union of two terms or more is told by its terms. -/
theorem eq_of_terms_eq {t u : GoType} (ht : t.isUnion = true → 2 ≤ t.terms.length)
    (hu : u.isUnion = true → 2 ≤ u.terms.length) (h : t.terms = u.terms) : t = u := by
  cases htu : t.isUnion with
  | true =>
    cases huu : u.isUnion with
    | true =>
      cases t <;> cases htu
      cases u <;> cases huu
      exact congrArg union h
    | false =>
      have hlength := ht htu
      rw [h, terms_of_isUnion huu] at hlength
      exact absurd hlength (by simp)
  | false =>
    rw [terms_of_isUnion htu] at h
    cases huu : u.isUnion with
    | true =>
      have hlength := hu huu
      rw [← h] at hlength
      exact absurd hlength (by simp)
    | false =>
      rw [terms_of_isUnion huu] at h
      exact (List.cons.inj h).1

theorem isUnion_of_isConstraint {t : GoType} (h : t.isConstraint = false) : t.isUnion = false := by
  cases t <;> first | rfl | cases h

end GoType

def ArrayLength.Formed : ArrayLength → Prop
  | .literal value => IsWord value
  | .constant _ name => IsWord name
  | .expr _ => True

structure Signature.Formed (s : Signature) : Prop where
  plain : ∀ t ∈ s.types, t.isConstraint = false
  variadic : s.variadic = true → s.params ≠ []

/-- An embedded field has the name of its type. -/
structure Field.Formed (f : Field) : Prop where
  plain : f.type.isConstraint = false
  name : if f.embedded then f.type.embeddedAs = some f.name else IsWord f.name
  tag : ∀ tag ∈ f.tag, IsStringLiteral tag

structure InterfaceBody.Formed (b : InterfaceBody) : Prop where
  methods : ∀ m ∈ b.methods, IsName m.name ∧ m.signature.Formed
  embedded : ∀ t ∈ b.embedded, t.isEmbeddable = true
  typeSets : ∀ t ∈ b.typeSets, t.isEmbeddable = false

namespace GoType

/-- What is asked of a node where the type parameters are in scope. -/
def FormedHere (c : StubScope) (params : List String) : GoType → Prop
  | .builtin name => Name.isPredeclared name = true
  | .param name => IsName name ∧ Name.isPredeclared name = false ∧ name ∈ params
  | .named package name args => IsWord name ∧ (package = c.package →
      name ∉ typeWords ∧ Name.isPredeclared name = false ∧ name ∉ params) ∧
      ∀ t ∈ args, t.isConstraint = false
  | .pointer elem => elem.isConstraint = false
  | .slice elem => elem.isConstraint = false
  | .array length elem => length.Formed ∧ elem.isConstraint = false
  | .map key value => key.isConstraint = false ∧ value.isConstraint = false
  | .chan _ elem => elem.isConstraint = false
  | .func signature => signature.Formed
  | .struct fields => ∀ f ∈ fields, f.Formed
  | .interface body => body.Formed
  | .tilde elem => elem.isConstraint = false
  | .union terms => 2 ≤ terms.length ∧ ∀ t ∈ terms, t.isUnion = false
  | .unsupported _ => True

/-- A type of the form that a type has in a Go source. -/
def Formed (c : StubScope) (params : List String) (t : GoType) : Prop :=
  ∀ u : GoType, u.Occurs t → u.FormedHere c params

theorem formed_iff {c : StubScope} {params : List String} {t : GoType} : t.Formed c params ↔
    t.FormedHere c params ∧ ∀ part ∈ t.parts, part.Formed c params :=
  forall_occurs_parts

end GoType

/-- Local names are words, and each stands for one package. -/
structure ImportTable.Formed (imports : ImportTable) : Prop where
  word : ∀ path name, imports.localName? path = some name → IsWord name
  distinct : imports.Distinct

/-- The characters of a type that is no union. -/
structure Reads (c : StubScope) (params : List String) (t : GoType) (cs : List Char) : Prop where
  formed : t.Formed c params
  single : t.isUnion = false
  printed : ∃ f, t.text c = .ok f ∧ cs = f.text.toList

/-- The characters of arguments in brackets. -/
def argumentChars (css : List (List Char)) : List Char :=
  if css.isEmpty then [] else '[' :: (joined [',', ' '] css ++ [']'])

/-- The characters of members in braces. -/
def memberChars (css : List (List Char)) : List Char :=
  if css.isEmpty then ['\x7b', '\x7d']
  else '\x7b' :: ' ' :: (joined [';', ' '] css ++ [' ', '\x7d'])

/-- The characters of results. -/
def resultChars : List (List Char) → List Char
  | [] => []
  | [cs] => ' ' :: cs
  | css => ' ' :: '(' :: (joined [',', ' '] css ++ [')'])

/-- The characters of a name after a dot. -/
def dotChars : Option String → List Char
  | none => []
  | some name => '.' :: name.toList

def tagChars : Option String → List Char
  | none => []
  | some tag => ' ' :: tag.toList

/-- What a channel type begins with. -/
def directionText : Direction → String
  | .both => "chan "
  | .send => "chan<- "
  | .receive => "<-chan "

/-- The element of a channel type is put in parentheses. -/
def wrapsElem : Direction → GoType → Bool
  | .both, .chan .receive _ => true
  | _, _ => false

/-- A type written as a name: the word it begins with, what follows after a dot, its arguments. -/
inductive NameForm (c : StubScope) (params : List String) :
    GoType → String → Option String → List GoType → Prop
  | builtin {name : String} (h : Name.isPredeclared name = true) :
    NameForm c params (.builtin name) name none []
  | param {name : String} (h : IsName name) (hnot : Name.isPredeclared name = false)
      (hmem : name ∈ params) : NameForm c params (.param name) name none []
  | own {name : String} {args : List GoType} (h : IsName name)
      (hnot : Name.isPredeclared name = false) (hmem : name ∉ params) :
    NameForm c params (.named c.package name args) name none args
  | imported {package qualifier name : String} {args : List GoType} (h : IsWord name)
      (hq : c.imports.localName? package = some qualifier) (hne : package ≠ c.package) :
    NameForm c params (.named package name args) qualifier (some name) args

/-- The length of an array: a word, and the name after a dot. -/
inductive LengthForm (c : StubScope) : ArrayLength → String → Option String → Prop
  | literal {value : String} (h : IsWord value) : LengthForm c (.literal value) value none
  | constant {package qualifier name : String} (h : IsWord name)
      (hq : c.imports.localName? package = some qualifier) :
    LengthForm c (.constant package name) qualifier (some name)

/-- Parameters with a mark at the one that stands for any number. -/
def marked (variadic : Bool) : List GoType → List (Bool × GoType)
  | [] => []
  | [last] => [(variadic, last)]
  | t :: u :: rest => (false, t) :: marked variadic (u :: rest)

theorem mem_of_mem_marked {variadic : Bool} {ts : List GoType} {p : Bool × GoType}
    (h : p ∈ marked variadic ts) : p.2 ∈ ts := by
  induction ts with
  | nil => cases h
  | cons t ts ih =>
    cases ts with
    | nil =>
      obtain rfl := List.mem_singleton.mp h
      exact List.mem_cons_self
    | cons u ts =>
      rcases List.mem_cons.mp h with rfl | h
      · exact List.mem_cons_self
      · exact List.mem_cons_of_mem t (ih h)

theorem marked_inj {v v' : Bool} {ts us : List GoType} (h : marked v ts = marked v' us) :
    ts = us ∧ (ts ≠ [] → v = v') := by
  induction ts generalizing us with
  | nil =>
    rcases us with _ | ⟨u, _ | ⟨u', us⟩⟩
    · simp
    · simp [marked] at h
    · simp [marked] at h
  | cons t ts ih =>
    rcases ts with _ | ⟨t', ts⟩ <;> rcases us with _ | ⟨u, _ | ⟨u', us⟩⟩
    all_goals simp only [marked, List.cons.injEq, Prod.mk.injEq, and_true, reduceCtorEq] at h
    · obtain ⟨rfl, rfl⟩ := h
      simp
    · rcases us with _ | ⟨u'', us⟩ <;> simp [marked] at h
    · rcases ts with _ | ⟨t'', ts⟩ <;> simp [marked] at h
    · obtain ⟨⟨-, rfl⟩, htail⟩ := h
      obtain ⟨htypes, hv⟩ := ih htail
      exact ⟨by rw [htypes], fun _ => hv (by simp)⟩

/-- The characters of a parameter. -/
def ReadsParam (c : StubScope) (params : List String) (p : Bool × GoType) (cs : List Char) : Prop :=
  ∃ ds, Reads c params p.2 ds ∧ cs = if p.1 then "...".toList ++ ds else ds

structure ReadsSignature (c : StubScope) (params : List String) (s : Signature) (cs : List Char) :
    Prop where
  variadic : s.variadic = true → s.params ≠ []
  printed : ∃ pss rss, List.Forall₂ (ReadsParam c params) (marked s.variadic s.params) pss ∧
    List.Forall₂ (Reads c params) s.results rss ∧
    cs = '(' :: (joined [',', ' '] pss ++ ')' :: resultChars rss)

structure ReadsField (c : StubScope) (params : List String) (f : Field) (cs : List Char) :
    Prop where
  formed : f.Formed
  printed : ∃ ds, Reads c params f.type ds ∧
    cs = (if f.embedded then ds else f.name.toList ++ ' ' :: ds) ++ tagChars f.tag

/-- The characters of an element of an interface, a union or another type. -/
structure ReadsElem (c : StubScope) (params : List String) (t : GoType) (cs : List Char) :
    Prop where
  several : t.isUnion = true → 2 ≤ t.terms.length
  printed : ∃ css, List.Forall₂ (Reads c params) t.terms css ∧ cs = joined [' ', '|', ' '] css

/-- What an interface has in its braces. -/
inductive Member
  | embedded (type : GoType)
  | method (m : Method)
  | typeSet (type : GoType)

def InterfaceBody.members (b : InterfaceBody) : List Member :=
  b.embedded.map .embedded ++ b.methods.map .method ++ b.typeSets.map .typeSet

namespace Member

def embedded? : Member → Option GoType
  | .embedded t => some t
  | _ => none

def method? : Member → Option Method
  | .method m => some m
  | _ => none

def typeSet? : Member → Option GoType
  | .typeSet t => some t
  | _ => none

/-- The types in a member; of a union, its terms. -/
def types : Member → List GoType
  | .embedded t => t.terms
  | .method m => m.signature.types
  | .typeSet t => t.terms

end Member

theorem InterfaceBody.members_inj {b b' : InterfaceBody} (h : b.members = b'.members) : b = b' := by
  have hembedded := congrArg (List.filterMap Member.embedded?) h
  have hmethods := congrArg (List.filterMap Member.method?) h
  have htypeSets := congrArg (List.filterMap Member.typeSet?) h
  simp only [members, List.filterMap_append, List.filterMap_map, Function.comp_def,
    Member.embedded?, Member.method?, Member.typeSet?, List.filterMap_some, List.filterMap_none,
    List.append_nil, List.nil_append] at hembedded hmethods htypeSets
  cases b
  cases b'
  cases hembedded
  cases hmethods
  cases htypeSets
  rfl

/-- The characters of a member. -/
def ReadsMember (c : StubScope) (params : List String) : Member → List Char → Prop
  | .embedded t, cs => t.isEmbeddable = true ∧ ReadsElem c params t cs
  | .method m, cs => IsName m.name ∧ ∃ ss, ReadsSignature c params m.signature ss ∧
      cs = m.name.toList ++ ss
  | .typeSet t, cs => t.isEmbeddable = false ∧ ReadsElem c params t cs

section Reading

variable {c : StubScope} {params : List String} {t u elem : GoType} {cs : List Char}

theorem reads_part {f : Fragment} (h : t.Formed c params) (hp : u ∈ t.parts)
    (hu : u.isUnion = false) (hf : u.text c = .ok f) : Reads c params u f.text.toList :=
  ⟨(GoType.formed_iff.mp h).2 u hp, hu, f, hf, rfl⟩

theorem forall₂_reads {ts : List GoType} {fs : List Fragment} (h : t.Formed c params)
    (hts : ∀ u ∈ ts, u ∈ t.parts ∧ u.isUnion = false)
    (hfs : List.Forall₂ (fun t f => t.text c = .ok f) ts fs) :
    List.Forall₂ (Reads c params) ts (fs.map (·.text.toList)) := by
  induction hfs with
  | nil => exact .nil
  | cons hf _ ih =>
    obtain ⟨⟨hp, hu⟩, hts⟩ := List.forall_mem_cons.mp hts
    exact .cons (reads_part h hp hu hf) (ih hts)

theorem toList_text_joinWith (sep : String) (fs : List Fragment) :
    (Fragment.joinWith sep fs).text.toList = joined sep.toList (fs.map (·.text.toList)) := by
  rw [Fragment.text_joinWith, toList_joinWith, List.map_map]
  rfl

theorem toList_argumentText (fs : List Fragment) :
    (argumentText fs).text.toList = argumentChars (fs.map (·.text.toList)) := by
  unfold argumentText argumentChars
  rw [List.isEmpty_map]
  split
  · rfl
  · simp [toList_text_joinWith]

theorem isName_of_isPredeclared {name : String} (h : Name.isPredeclared name = true) :
    IsName name := by
  have hall : ∀ name ∈ Name.predeclared, IsName name := by decide +kernel
  exact hall name (List.contains_iff_mem.mp h)

/-- A type that is printed as a mark before another. -/
theorem Reads.prefixed (mark : String) (h : Reads c params t cs)
    (ht : t.text c = (do return mark ++ (← elem.text c))) (hp : elem ∈ t.parts)
    (helem : elem.isConstraint = false) :
    ∃ ds, Reads c params elem ds ∧ cs = mark.toList ++ ds := by
  obtain ⟨hformed, -, f, hf, rfl⟩ := h
  rw [ht] at hf
  obtain ⟨g, hg, hf⟩ := Except.bind_eq_ok.mp hf
  obtain rfl := Except.pure_eq_ok.mp hf
  exact ⟨_, reads_part hformed hp (GoType.isUnion_of_isConstraint helem) hg, by simp⟩

theorem Reads.pointer (h : Reads c params (.pointer elem) cs) :
    ∃ ds, Reads c params elem ds ∧ cs = "*".toList ++ ds :=
  h.prefixed "*" rfl List.mem_cons_self (GoType.formed_iff.mp h.formed).1

theorem Reads.slice (h : Reads c params (.slice elem) cs) :
    ∃ ds, Reads c params elem ds ∧ cs = "[]".toList ++ ds :=
  h.prefixed "[]" rfl List.mem_cons_self (GoType.formed_iff.mp h.formed).1

theorem Reads.tilde (h : Reads c params (.tilde elem) cs) :
    ∃ ds, Reads c params elem ds ∧ cs = "~".toList ++ ds :=
  h.prefixed "~" rfl List.mem_cons_self (GoType.formed_iff.mp h.formed).1

theorem Reads.array {length : ArrayLength} (h : Reads c params (.array length elem) cs) :
    ∃ word dot ds, LengthForm c length word dot ∧ Reads c params elem ds ∧
      cs = '[' :: (word.toList ++ (dotChars dot ++ ']' :: ds)) := by
  obtain ⟨hformed, -, f, hf, rfl⟩ := h
  obtain ⟨l, hl, hf⟩ := Except.bind_eq_ok.mp hf
  obtain ⟨g, hg, hf⟩ := Except.bind_eq_ok.mp hf
  obtain rfl := Except.pure_eq_ok.mp hf
  obtain ⟨⟨hlength, helem⟩, -⟩ := GoType.formed_iff.mp hformed
  have hreads := reads_part hformed List.mem_cons_self (GoType.isUnion_of_isConstraint helem) hg
  rcases StubScope.lengthText_ok hl with rfl | ⟨package, name, qualifier, rfl, hq, htext⟩
  · exact ⟨l.text, none, _, .literal hlength, hreads, by simp [dotChars]⟩
  · exact ⟨qualifier, some name, _, .constant hlength hq, hreads, by simp [dotChars, htext]⟩

theorem Reads.map {key value : GoType} (h : Reads c params (.map key value) cs) :
    ∃ ks vs, Reads c params key ks ∧ Reads c params value vs ∧
      cs = "map".toList ++ '[' :: (ks ++ ']' :: vs) := by
  obtain ⟨hformed, -, f, hf, rfl⟩ := h
  obtain ⟨k, hk, hf⟩ := Except.bind_eq_ok.mp hf
  obtain ⟨v, hv, hf⟩ := Except.bind_eq_ok.mp hf
  obtain rfl := Except.pure_eq_ok.mp hf
  obtain ⟨⟨hkey, hvalue⟩, -⟩ := GoType.formed_iff.mp hformed
  exact ⟨_, _, reads_part hformed (by simp [GoType.parts]) (GoType.isUnion_of_isConstraint hkey) hk,
    reads_part hformed (by simp [GoType.parts]) (GoType.isUnion_of_isConstraint hvalue) hv, by simp⟩

theorem Reads.chan {direction : Direction} (h : Reads c params (.chan direction elem) cs) :
    ∃ ds, Reads c params elem ds ∧ cs = (directionText direction).toList ++
      if wrapsElem direction elem then '(' :: (ds ++ [')']) else ds := by
  obtain ⟨hformed, -, f, hf, rfl⟩ := h
  obtain ⟨g, hg, hf⟩ := Except.bind_eq_ok.mp hf
  obtain rfl := Except.pure_eq_ok.mp hf
  have helem : elem.isConstraint = false := (GoType.formed_iff.mp hformed).1
  refine ⟨_, reads_part hformed List.mem_cons_self (GoType.isUnion_of_isConstraint helem) hg, ?_⟩
  have hopening : "chan (".toList = "chan ".toList ++ ['('] := by decide
  unfold chanText
  split
  · simp [directionText, wrapsElem]
  · simp [directionText, wrapsElem]
  · simp only [Fragment.text_before, Fragment.text_after, String.toList_append, hopening,
      directionText, wrapsElem, if_true, List.append_assoc, List.cons_append, List.nil_append]
    rfl
  next hnot =>
    have hwraps : wrapsElem .both elem = false := by
      unfold wrapsElem
      split
      next => exact absurd rfl (hnot _)
      next => rfl
    simp [directionText, hwraps]

theorem Reads.name {package name : String} {args : List GoType}
    (h : Reads c params (.named package name args) cs) :
    ∃ word dot css, NameForm c params (.named package name args) word dot args ∧
      List.Forall₂ (Reads c params) args css ∧
      cs = word.toList ++ (dotChars dot ++ argumentChars css) := by
  obtain ⟨hformed, -, f, hf, rfl⟩ := h
  obtain ⟨head, hhead, hf⟩ := Except.bind_eq_ok.mp hf
  obtain ⟨fs, hfs, hf⟩ := Except.bind_eq_ok.mp hf
  obtain rfl := Except.pure_eq_ok.mp hf
  obtain ⟨⟨hname, hown, hargs⟩, -⟩ := GoType.formed_iff.mp hformed
  have hreads := forall₂_reads hformed
    (fun u hu => ⟨hu, GoType.isUnion_of_isConstraint (hargs u hu)⟩) (forall₂_typeTexts hfs)
  rcases StubScope.nameText_ok hhead with ⟨rfl, htext⟩ | ⟨hne, qualifier, hq, htext⟩
  · obtain ⟨hword, hnot, hmem⟩ := hown rfl
    exact ⟨name, none, _, .own ⟨hname, hword⟩ hnot hmem, hreads,
      by simp [dotChars, htext, toList_argumentText]⟩
  · exact ⟨qualifier, some name, _, .imported hname hq hne, hreads,
      by simp [dotChars, htext, toList_argumentText]⟩

theorem forall₂_readsParam {ts : List GoType} {fs : List Fragment} (variadic : Bool)
    (h : List.Forall₂ (Reads c params) ts (fs.map (·.text.toList))) :
    List.Forall₂ (ReadsParam c params) (marked variadic ts)
      ((variadicTexts variadic fs).map (·.text.toList)) := by
  induction ts generalizing fs with
  | nil =>
    obtain rfl : fs = [] := List.map_eq_nil_iff.mp (List.forall₂_nil_left_iff.mp h)
    exact .nil
  | cons t ts ih =>
    obtain ⟨cs, css, ht, hts, heq⟩ := List.forall₂_cons_left_iff.mp h
    obtain ⟨f, fs, rfl, rfl, rfl⟩ := List.map_eq_cons_iff.mp heq
    cases ts with
    | nil =>
      obtain rfl : fs = [] := List.map_eq_nil_iff.mp (List.forall₂_nil_left_iff.mp hts)
      refine .cons ⟨_, ht, ?_⟩ .nil
      cases variadic <;> simp
    | cons u ts =>
      have hrest := ih hts
      obtain ⟨_, _, -, -, heq⟩ := List.forall₂_cons_left_iff.mp hts
      obtain ⟨g, fs, rfl, -, -⟩ := List.map_eq_cons_iff.mp heq
      exact .cons ⟨_, ht, rfl⟩ hrest

theorem toList_resultText (fs : List Fragment) :
    (resultText fs).text.toList = resultChars (fs.map (·.text.toList)) := by
  unfold resultText
  split
  · rfl
  · simp [resultChars]
  next hnil hone =>
    rcases fs with _ | ⟨f, _ | ⟨g, fs⟩⟩
    · exact absurd rfl hnil
    · exact absurd rfl (hone f)
    · simp [resultChars, toList_text_joinWith]

theorem readsSignature {s : Signature} {f : Fragment} (h : t.Formed c params)
    (hparts : ∀ u ∈ s.types, u ∈ t.parts) (hs : s.Formed) (hf : s.text c = .ok f) :
    ReadsSignature c params s f.text.toList := by
  obtain ⟨ps, rs, hps, hrs, rfl⟩ := Signature.text_ok hf
  have hpart (u : GoType) (hu : u ∈ s.types) : u ∈ t.parts ∧ u.isUnion = false :=
    ⟨hparts u hu, GoType.isUnion_of_isConstraint (hs.plain u hu)⟩
  have hparams := forall₂_reads h (fun u hu => hpart u (List.mem_append_left _ hu)) hps
  have hresults := forall₂_reads h (fun u hu => hpart u (List.mem_append_right _ hu)) hrs
  refine ⟨hs.variadic, _, _, forall₂_readsParam s.variadic hparams, hresults, ?_⟩
  simp [toList_text_joinWith, toList_resultText]

theorem Reads.func {signature : Signature} (h : Reads c params (.func signature) cs) :
    ∃ ss, ReadsSignature c params signature ss ∧ cs = "func".toList ++ ss := by
  obtain ⟨hformed, -, f, hf, rfl⟩ := h
  obtain ⟨g, hg, hf⟩ := Except.bind_eq_ok.mp hf
  obtain rfl := Except.pure_eq_ok.mp hf
  exact ⟨_, readsSignature hformed (fun _ => id) (GoType.formed_iff.mp hformed).1 hg, by simp⟩

theorem toList_inlineText (keyword : String) (fs : List Fragment) :
    (inlineText keyword fs).text.toList =
      keyword.toList ++ memberChars (fs.map (·.text.toList)) := by
  unfold inlineText memberChars
  rw [List.isEmpty_map]
  split
  · simp
  · simp [toList_text_joinWith]

theorem toList_fieldText (name : String) (embedded : Bool) (tag : Option String) (f : Fragment) :
    (fieldText name embedded tag f).text.toList =
      (if embedded then f.text.toList else name.toList ++ ' ' :: f.text.toList) ++
        tagChars tag := by
  unfold fieldText
  cases tag <;> cases embedded <;> simp [tagChars]

theorem Reads.struct {fields : List Field} (h : Reads c params (.struct fields) cs) :
    ∃ css, List.Forall₂ (ReadsField c params) fields css ∧
      cs = "struct".toList ++ memberChars css := by
  obtain ⟨hformed, -, f, hf, rfl⟩ := h
  obtain ⟨fs, hfs, hf⟩ := Except.bind_eq_ok.mp hf
  obtain rfl := Except.pure_eq_ok.mp hf
  have hfields : ∀ field ∈ fields, field.Formed := (GoType.formed_iff.mp hformed).1
  refine ⟨_, List.forall₂_map_right_iff.mpr ?_, toList_inlineText _ fs⟩
  have hall := List.forall₂_and_left fields fs |>.mpr ⟨fun _ => id, forall₂_fieldTexts hfs⟩
  refine hall.imp ?_
  rintro field f ⟨hmem, type, htype, rfl⟩
  have hplain := GoType.isUnion_of_isConstraint (hfields field hmem).plain
  exact ⟨hfields field hmem, _, reads_part hformed (List.mem_map_of_mem hmem) hplain htype,
    toList_fieldText _ _ _ _⟩

theorem readsElem {f : Fragment} (h : t.Formed c params) (hf : t.text c = .ok f) :
    ReadsElem c params t f.text.toList := by
  by_cases hunion : t.isUnion = true
  · cases t with
    | union terms =>
      obtain ⟨fs, hfs, hf⟩ := Except.bind_eq_ok.mp hf
      obtain rfl := Except.pure_eq_ok.mp hf
      obtain ⟨⟨hlength, hterms⟩, -⟩ := GoType.formed_iff.mp h
      exact ⟨fun _ => hlength, _, forall₂_reads h (fun u hu => ⟨hu, hterms u hu⟩)
        (forall₂_typeTexts hfs), toList_text_joinWith _ fs⟩
    | _ => cases hunion
  · have hsingle : t.isUnion = false := by simpa using hunion
    refine ⟨fun htrue => absurd htrue hunion, [f.text.toList], ?_, rfl⟩
    rw [GoType.terms_of_isUnion hsingle]
    exact .cons ⟨h, hsingle, f, hf, rfl⟩ .nil

theorem ReadsElem.terms_ne_nil (h : ReadsElem c params t cs) : t.terms ≠ [] := by
  cases hunion : t.isUnion with
  | true =>
    have hlength := h.several hunion
    intro hnil
    rw [hnil] at hlength
    exact absurd hlength (by decide)
  | false => simp [GoType.terms_of_isUnion hunion]

theorem Reads.interface {body : InterfaceBody} (h : Reads c params (.interface body) cs) :
    ∃ css, List.Forall₂ (ReadsMember c params) body.members css ∧
      cs = "interface".toList ++ memberChars css := by
  obtain ⟨hformed, -, f, hf, rfl⟩ := h
  obtain ⟨fs, hfs, hf⟩ := Except.bind_eq_ok.mp hf
  obtain rfl := Except.pure_eq_ok.mp hf
  obtain ⟨hbody, hparts⟩ := GoType.formed_iff.mp hformed
  obtain ⟨es, ms, ts, hes, hms, hts, rfl⟩ := InterfaceBody.memberTexts_ok hfs
  have helem {types : List GoType} {fs : List Fragment} (hsub : types ⊆ body.types)
      (hfs : List.Forall₂ (fun t f => t.text c = .ok f) types fs) :
      List.Forall₂ (fun t f => t ∈ types ∧ ReadsElem c params t f.text.toList) types fs := by
    refine (List.forall₂_and_left types fs |>.mpr ⟨fun _ => id, hfs⟩).imp ?_
    rintro t f ⟨hmem, htext⟩
    exact ⟨hmem, readsElem (hparts t (hsub hmem)) htext⟩
  refine ⟨_, ?_, toList_inlineText _ _⟩
  rw [List.map_append, List.map_append]
  refine List.rel_append (List.rel_append ?_ ?_) ?_ <;>
    rw [List.forall₂_map_left_iff, List.forall₂_map_right_iff]
  · refine (helem (fun t ht => by simp [InterfaceBody.types, ht]) hes).imp ?_
    rintro t f ⟨hmem, hreads⟩
    exact ⟨hbody.embedded t hmem, hreads⟩
  · refine (List.forall₂_and_left body.methods ms |>.mpr ⟨fun _ => id, hms⟩).imp ?_
    rintro m f ⟨hmem, signature, hs, rfl⟩
    obtain ⟨hname, hsignature⟩ := hbody.methods m hmem
    refine ⟨hname, _, readsSignature hformed (fun u hu => ?_) hsignature hs, by simp⟩
    exact List.mem_append_left _ (List.mem_flatMap.mpr ⟨m, hmem, hu⟩)
  · refine (helem (fun t ht => by simp [InterfaceBody.types, ht]) hts).imp ?_
    rintro t f ⟨hmem, hreads⟩
    exact ⟨hbody.typeSets t hmem, hreads⟩

end Reading

end GoStub
