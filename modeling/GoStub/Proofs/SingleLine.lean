import GoStub.Proofs.FileEdits
import GoStub.Proofs.Printing

/-! Texts on a single line. What is printed for a type is on one line if every text in the type is,
and lines that are put one below the other are found again. -/

namespace GoStub

/-- A text on a single line. -/
def SingleLine (s : String) : Prop :=
  '\n' ∉ s.toList

instance (s : String) : Decidable (SingleLine s) :=
  inferInstanceAs (Decidable (¬ _))

@[simp] theorem singleLine_append {s t : String} :
    SingleLine (s ++ t) ↔ SingleLine s ∧ SingleLine t := by
  simp [SingleLine]

/-- Texts as lines, each with its end. -/
def endedLines (lines : List String) : String :=
  Text.concat (lines.map (· ++ "\n"))

@[simp] theorem endedLines_nil : endedLines [] = "" := rfl

@[simp] theorem endedLines_cons (line : String) (lines : List String) :
    endedLines (line :: lines) = line ++ "\n" ++ endedLines lines := rfl

theorem endedLines_append (lines more : List String) :
    endedLines (lines ++ more) = endedLines lines ++ endedLines more := by
  induction lines with
  | nil => simp
  | cons line lines ih => simp [ih, String.append_assoc]

theorem splitText_endedLines {lines : List String} (h : ∀ line ∈ lines, SingleLine line) :
    Text.splitText '\n' (endedLines lines) = lines ++ [""] := by
  induction lines with
  | nil => rfl
  | cons line lines ih =>
    obtain ⟨hline, hlines⟩ := List.forall_mem_cons.mp h
    have htext : (endedLines (line :: lines)).toList =
        line.toList ++ '\n' :: (endedLines lines).toList := by
      simp
    rw [Text.splitText, htext, Text.split_append, Text.split_of_not_mem hline, List.map_append,
      ← Text.splitText, ih hlines]
    simp

namespace GoType

/-- The texts that a node has itself. -/
def textsHere : GoType → List String
  | .builtin name => [name]
  | .param name => [name]
  | .named package name _ => [package, name]
  | .array (.literal value) _ => [value]
  | .array (.constant package name) _ => [package, name]
  | .array (.expr text) _ => [text]
  | .struct fields => fields.flatMap fun f => f.name :: f.tag.toList
  | .interface body => body.methods.map (·.name)
  | _ => []

/-- No text in the type breaks a line. -/
def OnSingleLine (t : GoType) : Prop :=
  ∀ u : GoType, u.Occurs t → ∀ s ∈ u.textsHere, SingleLine s

theorem onSingleLine_iff {t : GoType} : t.OnSingleLine ↔
    (∀ s ∈ t.textsHere, SingleLine s) ∧ ∀ part ∈ t.parts, part.OnSingleLine :=
  forall_occurs_parts

end GoType

/-- No local name breaks a line. -/
def ImportTable.OnSingleLine (imports : ImportTable) : Prop :=
  ∀ path name, imports.localName? path = some name → SingleLine name

theorem singleLine_joinTexts (sep : String) {texts : List String} (hsep : SingleLine sep)
    (h : ∀ s ∈ texts, SingleLine s) : SingleLine (Text.joinWith sep texts) :=
  Text.not_mem_joinWith hsep h

section Fragments

variable {fs : List Fragment}

theorem singleLine_joinWith (sep : String) (hsep : SingleLine sep)
    (h : ∀ f ∈ fs, SingleLine f.text) : SingleLine (Fragment.joinWith sep fs).text := by
  rw [Fragment.text_joinWith]
  exact singleLine_joinTexts sep hsep (List.forall_mem_map.mpr h)

theorem singleLine_argumentText (h : ∀ f ∈ fs, SingleLine f.text) :
    SingleLine (argumentText fs).text := by
  unfold argumentText
  split
  · decide
  · have hjoin := singleLine_joinWith ", " (by decide) h
    simp only [Fragment.text_after, Fragment.text_before, singleLine_append]
    exact ⟨⟨by decide, hjoin⟩, by decide⟩

theorem singleLine_resultText (h : ∀ f ∈ fs, SingleLine f.text) :
    SingleLine (resultText fs).text := by
  unfold resultText
  split
  · decide
  next f =>
    rw [Fragment.text_after, singleLine_append]
    exact ⟨by decide, h f List.mem_cons_self⟩
  · have hjoin := singleLine_joinWith ", " (by decide) h
    simp only [Fragment.text_after, Fragment.text_before, singleLine_append]
    exact ⟨⟨by decide, hjoin⟩, by decide⟩

theorem singleLine_variadicTexts (variadic : Bool) (h : ∀ f ∈ fs, SingleLine f.text) :
    ∀ f ∈ variadicTexts variadic fs, SingleLine f.text := by
  induction fs with
  | nil => simp [variadicTexts]
  | cons f fs ih =>
    obtain ⟨hf, hfs⟩ := List.forall_mem_cons.mp h
    cases fs with
    | nil =>
      rw [variadicTexts, List.forall_mem_singleton]
      split
      · rw [Fragment.text_after, singleLine_append]
        exact ⟨by decide, hf⟩
      · exact hf
    | cons g fs =>
      rw [variadicTexts, List.forall_mem_cons]
      exact ⟨hf, ih hfs⟩

theorem singleLine_inlineText {keyword : String} (hk : SingleLine keyword)
    (h : ∀ f ∈ fs, SingleLine f.text) : SingleLine (inlineText keyword fs).text := by
  unfold inlineText
  split
  · rw [Fragment.text_ofText, singleLine_append]
    exact ⟨hk, by decide⟩
  · have hjoin := singleLine_joinWith "; " (by decide) h
    simp only [Fragment.text_after, Fragment.text_before, singleLine_append]
    exact ⟨⟨⟨hk, by decide⟩, hjoin⟩, by decide⟩

theorem singleLine_chanText {direction : Direction} {elem : GoType} {f : Fragment}
    (h : SingleLine f.text) : SingleLine (chanText direction elem f).text := by
  unfold chanText
  split <;> simp only [Fragment.text_after, Fragment.text_before, singleLine_append]
  · exact ⟨by decide, h⟩
  · exact ⟨by decide, h⟩
  · exact ⟨⟨by decide, h⟩, by decide⟩
  · exact ⟨by decide, h⟩

theorem singleLine_fieldText {name : String} {embedded : Bool} {tag : Option String} {f : Fragment}
    (hname : SingleLine name) (htag : ∀ s ∈ tag, SingleLine s) (h : SingleLine f.text) :
    SingleLine (fieldText name embedded tag f).text := by
  have hfield : SingleLine (if embedded then f else (name ++ " ") ++ f).text := by
    split
    · exact h
    · simp only [Fragment.text_after, singleLine_append]
      exact ⟨⟨hname, by decide⟩, h⟩
  unfold fieldText
  cases tag with
  | none => exact hfield
  | some tag =>
    simp only [Fragment.text_before, singleLine_append]
    exact ⟨hfield, by decide, htag tag rfl⟩

end Fragments

section Types

variable {c : StubScope} (hc : c.imports.OnSingleLine)
include hc

theorem singleLine_qualified {package name qualifier : String}
    (hq : c.imports.localName? package = some qualifier) (hname : SingleLine name) :
    SingleLine (qualifier ++ "." ++ name) := by
  simp only [singleLine_append]
  exact ⟨⟨hc package qualifier hq, by decide⟩, hname⟩

theorem singleLine_lengthText {length : ArrayLength} {elem : GoType} {f : Fragment}
    (h : c.lengthText length = .ok f)
    (hl : ∀ s ∈ (GoType.array length elem).textsHere, SingleLine s) : SingleLine f.text := by
  rcases StubScope.lengthText_ok h with rfl | ⟨package, name, qualifier, rfl, hq, hf⟩
  · exact hl f.text List.mem_cons_self
  · rw [hf]
    exact singleLine_qualified hc hq (hl name (by simp [GoType.textsHere]))

omit hc in
theorem singleLine_of_forall₂ {ts : List GoType} {fs : List Fragment}
    (h : List.Forall₂ (fun t f => t.text c = .ok f) ts fs)
    (ih : ∀ t ∈ ts, ∀ f, t.text c = .ok f → SingleLine f.text) :
    ∀ f ∈ fs, SingleLine f.text := by
  intro f hf
  obtain ⟨t, ht, htext⟩ := exists_of_forall₂ h hf
  exact ih t ht f htext

omit hc in
theorem singleLine_signature {s : Signature} {f : Fragment} (h : s.text c = .ok f)
    (ih : ∀ t ∈ s.types, ∀ f, t.text c = .ok f → SingleLine f.text) : SingleLine f.text := by
  obtain ⟨params, results, hp, hr, rfl⟩ := Signature.text_ok h
  have hparams := singleLine_of_forall₂ hp fun t ht => ih t (List.mem_append_left _ ht)
  have hresults := singleLine_of_forall₂ hr fun t ht => ih t (List.mem_append_right _ ht)
  have hjoin := singleLine_joinWith ", " (by decide)
    (singleLine_variadicTexts s.variadic hparams)
  simp only [Fragment.text_append, Fragment.text_after, Fragment.text_before, singleLine_append]
  exact ⟨⟨⟨by decide, hjoin⟩, by decide⟩, singleLine_resultText hresults⟩

omit hc in
theorem singleLine_fields {fields : List Field} {fs : List Fragment}
    (h : fieldTexts c fields = .ok fs)
    (hnames : ∀ s ∈ fields.flatMap fun f => f.name :: f.tag.toList, SingleLine s)
    (ih : ∀ t ∈ fields.map (·.type), ∀ f, t.text c = .ok f → SingleLine f.text) :
    ∀ f ∈ fs, SingleLine f.text := by
  intro f hf
  obtain ⟨field, hfield, type, htype, rfl⟩ := exists_of_forall₂ (forall₂_fieldTexts h) hf
  have htexts (s : String) (hs : s ∈ field.name :: field.tag.toList) : SingleLine s :=
    hnames s (List.mem_flatMap.mpr ⟨field, hfield, hs⟩)
  refine singleLine_fieldText (htexts _ List.mem_cons_self) (fun s hs => htexts s ?_)
    (ih _ (List.mem_map_of_mem hfield) type htype)
  exact List.mem_cons_of_mem _ (Option.mem_toList.mpr hs)

omit hc in
theorem singleLine_members {b : InterfaceBody} {fs : List Fragment} (h : b.memberTexts c = .ok fs)
    (hnames : ∀ s ∈ b.methods.map (·.name), SingleLine s)
    (ih : ∀ t ∈ b.types, ∀ f, t.text c = .ok f → SingleLine f.text) :
    ∀ f ∈ fs, SingleLine f.text := by
  obtain ⟨embedded, methods, typeSets, he, hm, ht, rfl⟩ := InterfaceBody.memberTexts_ok h
  simp only [InterfaceBody.types, List.mem_append, List.mem_flatMap] at ih
  rw [List.forall_mem_append, List.forall_mem_append]
  refine ⟨⟨singleLine_of_forall₂ he fun t ht => ih t (Or.inr (Or.inl ht)), fun f hf => ?_⟩,
    singleLine_of_forall₂ ht fun t ht => ih t (Or.inr (Or.inr ht))⟩
  obtain ⟨m, hmem, signature, hs, rfl⟩ := exists_of_forall₂ hm hf
  rw [Fragment.text_after, singleLine_append]
  exact ⟨hnames m.name (List.mem_map_of_mem hmem),
    singleLine_signature hs fun t ht => ih t (Or.inl ⟨m, hmem, ht⟩)⟩

/-- What is printed for a type is on a single line if every text in the type is. -/
theorem GoType.singleLine_text {t : GoType} {f : Fragment} (ht : t.OnSingleLine)
    (h : t.text c = .ok f) : SingleLine f.text := by
  induction t using inductionOnParts generalizing f with
  | step t ih =>
    obtain ⟨hhere, hparts⟩ := onSingleLine_iff.mp ht
    have ih (part : GoType) (hp : part ∈ t.parts) (f : Fragment) (hf : part.text c = .ok f) :
        SingleLine f.text := ih part hp (hparts part hp) hf
    cases t with
    | builtin name | param name =>
      cases h
      exact hhere name List.mem_cons_self
    | unsupported reason => cases h
    | named package name args =>
      obtain ⟨head, hhead, h⟩ := Except.bind_eq_ok.mp h
      obtain ⟨fs, hfs, h⟩ := Except.bind_eq_ok.mp h
      obtain rfl := Except.pure_eq_ok.mp h
      have hname : SingleLine name := hhere name (by simp [textsHere])
      have hhead : SingleLine head.text := by
        rcases StubScope.nameText_ok hhead with ⟨-, hf⟩ | ⟨-, qualifier, hq, hf⟩
        · rwa [hf]
        · rw [hf]
          exact singleLine_qualified hc hq hname
      rw [Fragment.text_append, singleLine_append]
      exact ⟨hhead, singleLine_argumentText (singleLine_of_forall₂ (forall₂_typeTexts hfs) ih)⟩
    | pointer elem | slice elem | tilde elem =>
      obtain ⟨f, hf, h⟩ := Except.bind_eq_ok.mp h
      obtain rfl := Except.pure_eq_ok.mp h
      rw [Fragment.text_after, singleLine_append]
      exact ⟨by decide, ih elem List.mem_cons_self f hf⟩
    | array length elem =>
      obtain ⟨l, hl, h⟩ := Except.bind_eq_ok.mp h
      obtain ⟨f, hf, h⟩ := Except.bind_eq_ok.mp h
      obtain rfl := Except.pure_eq_ok.mp h
      simp only [Fragment.text_append, Fragment.text_after, Fragment.text_before,
        singleLine_append]
      exact ⟨⟨⟨by decide, singleLine_lengthText hc hl hhere⟩, by decide⟩,
        ih elem List.mem_cons_self f hf⟩
    | map key value =>
      obtain ⟨k, hk, h⟩ := Except.bind_eq_ok.mp h
      obtain ⟨v, hv, h⟩ := Except.bind_eq_ok.mp h
      obtain rfl := Except.pure_eq_ok.mp h
      simp only [Fragment.text_append, Fragment.text_after, Fragment.text_before,
        singleLine_append]
      exact ⟨⟨⟨by decide, ih key List.mem_cons_self k hk⟩, by decide⟩,
        ih value (by simp [parts]) v hv⟩
    | chan direction elem =>
      obtain ⟨f, hf, h⟩ := Except.bind_eq_ok.mp h
      obtain rfl := Except.pure_eq_ok.mp h
      exact singleLine_chanText (ih elem List.mem_cons_self f hf)
    | func signature =>
      obtain ⟨f, hf, h⟩ := Except.bind_eq_ok.mp h
      obtain rfl := Except.pure_eq_ok.mp h
      rw [Fragment.text_after, singleLine_append]
      exact ⟨by decide, singleLine_signature hf ih⟩
    | struct fields =>
      obtain ⟨fs, hfs, h⟩ := Except.bind_eq_ok.mp h
      obtain rfl := Except.pure_eq_ok.mp h
      exact singleLine_inlineText (by decide) (singleLine_fields hfs hhere ih)
    | interface body =>
      obtain ⟨fs, hfs, h⟩ := Except.bind_eq_ok.mp h
      obtain rfl := Except.pure_eq_ok.mp h
      exact singleLine_inlineText (by decide) (singleLine_members hfs hhere ih)
    | union terms =>
      obtain ⟨fs, hfs, h⟩ := Except.bind_eq_ok.mp h
      obtain rfl := Except.pure_eq_ok.mp h
      exact singleLine_joinWith _ (by decide) (singleLine_of_forall₂ (forall₂_typeTexts hfs) ih)

theorem singleLine_types {ts : List GoType} {fs : List Fragment}
    (hts : ∀ t ∈ ts, t.OnSingleLine) (h : typeTexts c ts = .ok fs) :
    ∀ f ∈ fs, SingleLine f.text :=
  singleLine_of_forall₂ (forall₂_typeTexts h) fun t ht _ => t.singleLine_text hc (hts t ht)

end Types

end GoStub
