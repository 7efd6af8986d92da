import GoStub.Proofs.Settle
import GoStub.Proofs.Shape
import GoStub.Stub.Text

/-! When the text of a stub can be written: exactly when every type that occurs can be. -/

namespace GoStub

/-- A sequence of two steps succeeds when the first does and the second does after it. -/
theorem exists_bind_ok_iff {ε α β : Type} {x : Except ε α} {f : α → Except ε β} {Q : Prop}
    (hf : ∀ a, (∃ b, f a = .ok b) ↔ Q) : (∃ b, (x >>= f) = .ok b) ↔ (∃ a, x = .ok a) ∧ Q := by
  constructor
  · rintro ⟨b, h⟩
    obtain ⟨a, ha, hb⟩ := Except.bind_eq_ok.mp h
    exact ⟨⟨a, ha⟩, (hf a).mp ⟨b, hb⟩⟩
  · rintro ⟨⟨a, ha⟩, hq⟩
    obtain ⟨b, hb⟩ := (hf a).mpr hq
    exact ⟨b, Except.bind_eq_ok.mpr ⟨a, ha, hb⟩⟩

theorem exists_bind_pure_ok_iff {ε α β : Type} {x : Except ε α} {f : α → β} :
    (∃ b, (x >>= fun a => pure (f a)) = .ok b) ↔ ∃ a, x = .ok a := by
  have hf (a : α) : (∃ b, (pure (f a) : Except ε β) = .ok b) ↔ True :=
    ⟨fun _ => trivial, fun _ => ⟨f a, rfl⟩⟩
  rw [exists_bind_ok_iff hf, and_true]

def ArrayLength.Writable (c : StubScope) : ArrayLength → Prop
  | .literal _ => True
  | .constant package _ => package ≠ c.package ∧ c.imports.contains package = true
  | .expr _ => False

namespace GoType

/-- The node itself can be written: its name is declared or imported, its length is written out. -/
def WritableHere (c : StubScope) : GoType → Prop
  | .named package name _ =>
    if package = c.package then name ∈ c.declared else c.imports.contains package = true
  | .array length _ => length.Writable c
  | .unsupported _ => False
  | _ => True

variable {c : StubScope} {package name : String} {args : List GoType}

theorem writableHere_own (h : name ∈ c.declared) : (named c.package name args).WritableHere c := by
  simpa [WritableHere] using h

theorem writableHere_foreign (hp : package ≠ c.package) (h : c.imports.contains package = true) :
    (named package name args).WritableHere c := by
  simpa [WritableHere, hp] using h

end GoType

variable {c : StubScope}

theorem StubScope.qualified_ok_iff {package name : String} :
    (∃ f, c.qualified package name = .ok f) ↔ c.imports.contains package = true := by
  unfold StubScope.qualified ImportTable.contains ImportTable.localName? Dict.contains
  cases c.imports.names.get? package <;> simp

theorem StubScope.nameText_ok_iff {package name : String} {args : List GoType} :
    (∃ f, c.nameText package name = .ok f) ↔ (GoType.named package name args).WritableHere c := by
  simp only [StubScope.nameText, GoType.WritableHere]
  by_cases hp : package = c.package
  · rw [if_pos hp, if_pos hp]
    by_cases hn : name ∈ c.declared <;> simp [hn]
  · rw [if_neg hp, if_neg hp, StubScope.qualified_ok_iff]

theorem StubScope.lengthText_ok_iff {length : ArrayLength} :
    (∃ f, c.lengthText length = .ok f) ↔ length.Writable c := by
  cases length with
  | literal value => simp [StubScope.lengthText, ArrayLength.Writable]
  | expr text => simp [StubScope.lengthText, ArrayLength.Writable]
  | constant package name =>
    simp only [StubScope.lengthText, ArrayLength.Writable]
    by_cases hp : package = c.package
    · simp [hp]
    · rw [if_neg hp, StubScope.qualified_ok_iff]
      simp [hp]

theorem typeTexts_ok_iff {ts : List GoType} :
    (∃ fs, typeTexts c ts = .ok fs) ↔ ∀ t ∈ ts, ∃ f, t.text c = .ok f := by
  induction ts with
  | nil => simp [typeTexts]
  | cons t ts ih =>
    rw [typeTexts, exists_bind_ok_iff fun _ => exists_bind_pure_ok_iff, ih, List.forall_mem_cons]

theorem Signature.text_ok_iff {s : Signature} :
    (∃ f, s.text c = .ok f) ↔ ∀ t ∈ s.types, ∃ f, t.text c = .ok f := by
  obtain ⟨params, variadic, results⟩ := s
  rw [Signature.text, exists_bind_ok_iff fun _ => exists_bind_pure_ok_iff, typeTexts_ok_iff,
    typeTexts_ok_iff, Signature.types, List.forall_mem_append]

theorem fieldTexts_ok_iff {fields : List Field} :
    (∃ fs, fieldTexts c fields = .ok fs) ↔ ∀ t ∈ fields.map (·.type), ∃ f, t.text c = .ok f := by
  induction fields with
  | nil => simp [fieldTexts]
  | cons f fields ih =>
    obtain ⟨name, type, embedded, tag⟩ := f
    rw [fieldTexts, exists_bind_ok_iff fun _ => exists_bind_pure_ok_iff, ih, List.map_cons,
      List.forall_mem_cons]

theorem methodTexts_ok_iff {methods : List Method} :
    (∃ fs, methodTexts c methods = .ok fs) ↔
      ∀ t ∈ methods.flatMap (·.signature.types), ∃ f, t.text c = .ok f := by
  induction methods with
  | nil => simp [methodTexts]
  | cons m methods ih =>
    obtain ⟨name, signature⟩ := m
    rw [methodTexts, exists_bind_ok_iff fun _ => exists_bind_pure_ok_iff, ih, Signature.text_ok_iff,
      List.flatMap_cons, List.forall_mem_append]

theorem InterfaceBody.memberTexts_ok_iff {b : InterfaceBody} :
    (∃ fs, b.memberTexts c = .ok fs) ↔ ∀ t ∈ b.types, ∃ f, t.text c = .ok f := by
  obtain ⟨methods, embedded, typeSets⟩ := b
  rw [InterfaceBody.memberTexts,
    exists_bind_ok_iff fun _ => exists_bind_ok_iff fun _ => exists_bind_pure_ok_iff,
    typeTexts_ok_iff, typeTexts_ok_iff, methodTexts_ok_iff, InterfaceBody.types,
    List.forall_mem_append, List.forall_mem_append]
  tauto

namespace GoType

theorem text_ok_step (t : GoType) :
    (∃ f, t.text c = .ok f) ↔ t.WritableHere c ∧ ∀ part ∈ t.parts, ∃ f, part.text c = .ok f := by
  cases t with
  | builtin name | param name => simp [text, WritableHere, parts]
  | unsupported reason => simp [text, WritableHere]
  | named package name args =>
    rw [text, exists_bind_ok_iff fun _ => exists_bind_pure_ok_iff, typeTexts_ok_iff,
      StubScope.nameText_ok_iff, parts]
  | pointer elem | slice elem | chan direction elem | tilde elem =>
    rw [text, exists_bind_pure_ok_iff]
    simp [WritableHere, parts]
  | array length elem =>
    rw [text, exists_bind_ok_iff fun _ => exists_bind_pure_ok_iff, StubScope.lengthText_ok_iff]
    simp [WritableHere, parts]
  | map key value =>
    rw [text, exists_bind_ok_iff fun _ => exists_bind_pure_ok_iff]
    simp [WritableHere, parts]
  | func signature =>
    rw [text, exists_bind_pure_ok_iff, Signature.text_ok_iff]
    simp [WritableHere, parts]
  | struct fields =>
    rw [text, exists_bind_pure_ok_iff, fieldTexts_ok_iff]
    simp [WritableHere, parts]
  | interface body =>
    rw [text, exists_bind_pure_ok_iff, InterfaceBody.memberTexts_ok_iff]
    simp [WritableHere, parts]
  | union terms =>
    rw [text, exists_bind_pure_ok_iff, typeTexts_ok_iff]
    simp [WritableHere, parts]

/-- A type can be written exactly when every type that occurs in it can. -/
theorem text_ok_iff {t : GoType} :
    (∃ f, t.text c = .ok f) ↔ ∀ u : GoType, u.Occurs t → u.WritableHere c :=
  forall_occurs_iff text_ok_step t

end GoType

theorem paramListText_ok_iff {params : List TypeParam} :
    (∃ f, paramListText c params = .ok f) ↔
      ∀ t ∈ constraintTypes params, ∃ f, t.text c = .ok f := by
  rw [paramListText, exists_bind_pure_ok_iff, typeTexts_ok_iff, constraintTypes]

theorem declaredSignature_ok_iff {s : Signature} :
    (∃ f, declaredSignature c s = .ok f) ↔ ∀ t ∈ s.types, ∃ f, t.text c = .ok f := by
  rw [declaredSignature, exists_bind_ok_iff fun _ => exists_bind_pure_ok_iff, typeTexts_ok_iff,
    typeTexts_ok_iff, Signature.types, List.forall_mem_append]

theorem methodsText_ok_iff {receiver : String} {methods : List DeclaredMethod} :
    (∃ f, methodsText c receiver methods = .ok f) ↔
      ∀ t ∈ methodTypes methods, ∃ f, t.text c = .ok f := by
  induction methods with
  | nil => simp [methodsText, methodTypes]
  | cons m methods ih =>
    rw [methodsText, exists_bind_ok_iff fun _ => exists_bind_pure_ok_iff, ih, methodText,
      exists_bind_pure_ok_iff, declaredSignature_ok_iff, methodTypes, methodTypes,
      List.flatMap_cons, List.forall_mem_append]

/-- A value has what its declaration is written with: a constant a kind, a variable a type. -/
def Shape.ValueComplete : Shape → Prop
  | .value _ true basic => basic.isSome = true
  | .value type false _ => type.isSome = true
  | _ => True

/-- A shape can be written exactly when its types can, and a value is complete. -/
theorem shapeText_ok_iff {name : String} {s : Shape} :
    (∃ f, shapeText c name s = .ok f) ↔
      s.ValueComplete ∧ ∀ t ∈ s.types, ∃ f, t.text c = .ok f := by
  cases s with
  | function params signature =>
    rw [shapeText, exists_bind_ok_iff fun _ => exists_bind_pure_ok_iff, paramListText_ok_iff,
      declaredSignature_ok_iff, Shape.types, List.forall_mem_append]
    simp [Shape.ValueComplete]
  | interface params body =>
    rw [shapeText, exists_bind_ok_iff fun _ => exists_bind_pure_ok_iff, paramListText_ok_iff,
      InterfaceBody.memberTexts_ok_iff, Shape.types, List.forall_mem_append]
    simp [Shape.ValueComplete]
  | struct params fields methods =>
    rw [shapeText, exists_bind_ok_iff fun _ => exists_bind_ok_iff fun _ => exists_bind_pure_ok_iff,
      paramListText_ok_iff, fieldTexts_ok_iff, methodsText_ok_iff, Shape.types,
      List.forall_mem_append, List.forall_mem_append]
    simp only [Shape.ValueComplete, true_and]
    tauto
  | named params underlying isAlias methods =>
    rw [shapeText, exists_bind_ok_iff fun _ => exists_bind_ok_iff fun _ => exists_bind_pure_ok_iff,
      paramListText_ok_iff, methodsText_ok_iff, Shape.types, List.forall_mem_append,
      List.forall_mem_append, List.forall_mem_singleton]
    simp only [Shape.ValueComplete, true_and]
    tauto
  | value type constant basic =>
    cases constant with
    | true =>
      cases basic with
      | none => simp [shapeText, Shape.ValueComplete]
      | some kind =>
        cases type with
        | none => simp [shapeText, Shape.ValueComplete, Shape.types]
        | some type =>
          rw [shapeText, exists_bind_pure_ok_iff]
          simp [Shape.ValueComplete, Shape.types]
    | false =>
      cases type with
      | none => simp [shapeText, Shape.ValueComplete]
      | some type =>
        rw [shapeText, exists_bind_pure_ok_iff]
        simp [Shape.ValueComplete, Shape.types]

theorem recordsText_ok_iff {records : List Record} :
    (∃ f, recordsText c records = .ok f) ↔
      ∀ r ∈ records, ∃ f, shapeText c r.name r.shape = .ok f := by
  induction records with
  | nil => simp [recordsText]
  | cons r records ih =>
    have hr : (∃ f, recordText c r = .ok f) ↔ ∃ f, shapeText c r.name r.shape = .ok f := by
      unfold recordText
      cases shapeText c r.name r.shape <;> simp
    rw [recordsText, exists_bind_ok_iff fun _ => exists_bind_pure_ok_iff, ih, hr,
      List.forall_mem_cons]

/-- A plan has a stub exactly when all its shapes are complete and all their types can be written
with the types the plan declares and the packages it imports. -/
theorem Stub.ofPlan_ok_iff {p : StubPlan} :
    (∃ stub, Stub.ofPlan p = .ok stub) ↔
      ∀ r ∈ p.records, r.shape.ValueComplete ∧
        ∀ t ∈ r.shape.types, ∀ u : GoType, u.Occurs t → u.WritableHere (.ofPlan p) := by
  simp only [Stub.ofPlan, exists_bind_pure_ok_iff, recordsText_ok_iff, shapeText_ok_iff,
    GoType.text_ok_iff]

end GoStub
