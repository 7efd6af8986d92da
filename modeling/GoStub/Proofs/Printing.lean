import GoStub.Proofs.Layout

/-! What is printed for types, fields and methods, one for one, and how the printed pieces are put
together. -/

namespace GoStub

namespace Fragment

@[simp] theorem text_ofText (s : String) : (ofText s).text = s := rfl

@[simp] theorem text_after (s : String) (f : Fragment) : (s ++ f).text = s ++ f.text := rfl

@[simp] theorem text_before (f : Fragment) (s : String) : (f ++ s).text = f.text ++ s := rfl

theorem text_joinWith (sep : String) (fs : List Fragment) :
    (joinWith sep fs).text = Text.joinWith sep (fs.map (·.text)) := by
  induction fs with
  | nil => rfl
  | cons f fs ih =>
    cases fs with
    | nil => rfl
    | cons g fs => simp [joinWith, Text.joinWith, ih]

theorem text_concat (fs : List Fragment) : (concat fs).text = Text.concat (fs.map (·.text)) := by
  induction fs with
  | nil => rfl
  | cons f fs ih => exact congrArg (f.text ++ ·) ih

end Fragment

variable {c : StubScope}

theorem forall₂_typeTexts {ts : List GoType} {fs : List Fragment} (h : typeTexts c ts = .ok fs) :
    List.Forall₂ (fun t f => t.text c = .ok f) ts fs := by
  refine forall₂_of_cons (typeTexts c) rfl (fun t ts fs h => ?_) h
  obtain ⟨f, hf, h⟩ := Except.bind_eq_ok.mp h
  obtain ⟨rest, hrest, h⟩ := Except.bind_eq_ok.mp h
  exact ⟨f, rest, hf, hrest, (Except.pure_eq_ok.mp h).symm⟩

theorem forall₂_fieldTexts {fields : List Field} {fs : List Fragment}
    (h : fieldTexts c fields = .ok fs) :
    List.Forall₂ (fun field f => ∃ type, field.type.text c = .ok type ∧
      f = fieldText field.name field.embedded field.tag type) fields fs := by
  refine forall₂_of_cons (fieldTexts c) rfl (fun ⟨name, type, embedded, tag⟩ fields fs h => ?_) h
  obtain ⟨f, hf, h⟩ := Except.bind_eq_ok.mp h
  obtain ⟨rest, hrest, h⟩ := Except.bind_eq_ok.mp h
  exact ⟨_, rest, ⟨f, hf, rfl⟩, hrest, (Except.pure_eq_ok.mp h).symm⟩

theorem forall₂_methodTexts {methods : List Method} {fs : List Fragment}
    (h : methodTexts c methods = .ok fs) :
    List.Forall₂ (fun m f => ∃ signature, m.signature.text c = .ok signature ∧
      f = m.name ++ signature) methods fs := by
  refine forall₂_of_cons (methodTexts c) rfl (fun ⟨name, signature⟩ methods fs h => ?_) h
  obtain ⟨f, hf, h⟩ := Except.bind_eq_ok.mp h
  obtain ⟨rest, hrest, h⟩ := Except.bind_eq_ok.mp h
  exact ⟨_, rest, ⟨f, hf, rfl⟩, hrest, (Except.pure_eq_ok.mp h).symm⟩

theorem Signature.text_ok {s : Signature} {f : Fragment} (h : s.text c = .ok f) :
    ∃ params results, List.Forall₂ (fun t f => t.text c = .ok f) s.params params ∧
      List.Forall₂ (fun t f => t.text c = .ok f) s.results results ∧
      f = "(" ++ Fragment.joinWith ", " (variadicTexts s.variadic params) ++ ")" ++
        resultText results := by
  obtain ⟨params, variadic, results⟩ := s
  obtain ⟨ps, hps, h⟩ := Except.bind_eq_ok.mp h
  obtain ⟨rs, hrs, h⟩ := Except.bind_eq_ok.mp h
  exact ⟨ps, rs, forall₂_typeTexts hps, forall₂_typeTexts hrs, (Except.pure_eq_ok.mp h).symm⟩

theorem InterfaceBody.memberTexts_ok {b : InterfaceBody} {fs : List Fragment}
    (h : b.memberTexts c = .ok fs) :
    ∃ embedded methods typeSets,
      List.Forall₂ (fun t f => t.text c = .ok f) b.embedded embedded ∧
      List.Forall₂ (fun m f => ∃ signature, m.signature.text c = .ok signature ∧
        f = m.name ++ signature) b.methods methods ∧
      List.Forall₂ (fun t f => t.text c = .ok f) b.typeSets typeSets ∧
      fs = embedded ++ methods ++ typeSets := by
  obtain ⟨methods, embedded, typeSets⟩ := b
  obtain ⟨es, hes, h⟩ := Except.bind_eq_ok.mp h
  obtain ⟨ms, hms, h⟩ := Except.bind_eq_ok.mp h
  obtain ⟨ts, hts, h⟩ := Except.bind_eq_ok.mp h
  exact ⟨es, ms, ts, forall₂_typeTexts hes, forall₂_methodTexts hms, forall₂_typeTexts hts,
    (Except.pure_eq_ok.mp h).symm⟩

theorem StubScope.qualified_ok {package name : String} {f : Fragment}
    (h : c.qualified package name = .ok f) :
    ∃ qualifier, c.imports.localName? package = some qualifier ∧
      f.text = qualifier ++ "." ++ name := by
  unfold qualified at h
  split at h
  · cases h
  next qualifier hq =>
    cases h
    exact ⟨qualifier, hq, rfl⟩

/-- A name stands for itself in its own package, and after a local name elsewhere. -/
theorem StubScope.nameText_ok {package name : String} {f : Fragment}
    (h : c.nameText package name = .ok f) :
    (package = c.package ∧ f.text = name) ∨ (package ≠ c.package ∧
      ∃ qualifier, c.imports.localName? package = some qualifier ∧
        f.text = qualifier ++ "." ++ name) := by
  unfold nameText at h
  split at h
  next hp =>
    split at h
    · cases h
      exact Or.inl ⟨hp, rfl⟩
    · cases h
  next hp => exact Or.inr ⟨hp, qualified_ok h⟩

/-- A length is an integer, or a constant of another package. -/
theorem StubScope.lengthText_ok {length : ArrayLength} {f : Fragment}
    (h : c.lengthText length = .ok f) :
    length = .literal f.text ∨ ∃ package name qualifier, length = .constant package name ∧
      c.imports.localName? package = some qualifier ∧ f.text = qualifier ++ "." ++ name := by
  cases length with
  | literal value =>
    cases h
    exact Or.inl rfl
  | expr text => cases h
  | constant package name =>
    simp only [lengthText] at h
    split at h
    · cases h
    · obtain ⟨qualifier, hq, hf⟩ := qualified_ok h
      exact Or.inr ⟨package, name, qualifier, rfl, hq, hf⟩

end GoStub
