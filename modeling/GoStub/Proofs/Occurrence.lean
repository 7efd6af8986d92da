import GoStub.Shape.Need
import Mathlib.Tactic.Common

/-! The types that occur in a type. A function on types that looks at a node and at its parts is
described node by node; the laws here carry such a description to every type that occurs. -/

namespace GoStub

/-- The types of a signature, parameters first. -/
def Signature.types (s : Signature) : List GoType :=
  s.params ++ s.results

/-- The types in an interface: those of its methods, then what it embeds and its type sets. -/
def InterfaceBody.types (b : InterfaceBody) : List GoType :=
  b.methods.flatMap (·.signature.types) ++ (b.embedded ++ b.typeSets)

theorem InterfaceBody.forall_mem_types {b : InterfaceBody} {P : GoType → Prop} :
    (∀ t ∈ b.types, P t) ↔ (∀ m ∈ b.methods, ∀ t ∈ m.signature.types, P t) ∧
      (∀ t ∈ b.embedded, P t) ∧ ∀ t ∈ b.typeSets, P t := by
  rw [types, List.forall_mem_append, List.forall_mem_append, List.forall_mem_flatMap]

namespace GoType

/-- The types a type is directly made of. -/
def parts : GoType → List GoType
  | .builtin _ => []
  | .param _ => []
  | .named _ _ args => args
  | .pointer elem => [elem]
  | .slice elem => [elem]
  | .array _ elem => [elem]
  | .map key value => [key, value]
  | .chan _ elem => [elem]
  | .func signature => signature.types
  | .struct fields => fields.map (·.type)
  | .interface body => body.types
  | .tilde elem => [elem]
  | .union terms => terms
  | .unsupported _ => []

theorem sizeOf_lt_of_mem_signature {s : Signature} {t : GoType} (h : t ∈ s.types) :
    sizeOf t < sizeOf s := by
  obtain ⟨params, variadic, results⟩ := s
  rcases List.mem_append.mp h with h | h
  · have hp : sizeOf t < sizeOf params := List.sizeOf_lt_of_mem h
    simp only [Signature.mk.sizeOf_spec]
    omega
  · have hr : sizeOf t < sizeOf results := List.sizeOf_lt_of_mem h
    simp only [Signature.mk.sizeOf_spec]
    omega

theorem sizeOf_lt_of_mem_body {b : InterfaceBody} {t : GoType} (h : t ∈ b.types) :
    sizeOf t < sizeOf b := by
  obtain ⟨methods, embedded, typeSets⟩ := b
  simp only [InterfaceBody.types, List.mem_append, List.mem_flatMap] at h
  simp only [InterfaceBody.mk.sizeOf_spec]
  rcases h with ⟨⟨name, signature⟩, hm, ht⟩ | h | h
  · have h₁ := List.sizeOf_lt_of_mem hm
    have h₂ := sizeOf_lt_of_mem_signature ht
    simp only [Method.mk.sizeOf_spec] at h₁ h₂
    omega
  · have := List.sizeOf_lt_of_mem h
    omega
  · have := List.sizeOf_lt_of_mem h
    omega

/-- A part is smaller than the whole, so recursion through the parts ends. -/
theorem sizeOf_lt_of_mem_parts {t part : GoType} (h : part ∈ t.parts) : sizeOf part < sizeOf t := by
  cases t with
  | builtin | param | unsupported => simp [parts] at h
  | named package name args =>
    have ha : sizeOf part < sizeOf args := List.sizeOf_lt_of_mem h
    simp only [named.sizeOf_spec]
    omega
  | pointer elem | slice elem | array length elem | chan direction elem | tilde elem =>
    obtain rfl := List.mem_singleton.mp h
    simp only [pointer.sizeOf_spec, slice.sizeOf_spec, array.sizeOf_spec, chan.sizeOf_spec,
      tilde.sizeOf_spec]
    omega
  | map key value =>
    have hkv : part = key ∨ part = value := by simpa [parts] using h
    simp only [map.sizeOf_spec]
    rcases hkv with rfl | rfl <;> omega
  | func signature =>
    have := sizeOf_lt_of_mem_signature h
    simp only [func.sizeOf_spec]
    omega
  | struct fields =>
    obtain ⟨⟨name, type, embedded, tag⟩, hf, rfl⟩ := List.mem_map.mp h
    have := List.sizeOf_lt_of_mem hf
    simp only [Field.mk.sizeOf_spec] at this
    simp only [struct.sizeOf_spec]
    omega
  | interface body =>
    have := sizeOf_lt_of_mem_body h
    simp only [interface.sizeOf_spec]
    omega
  | union terms =>
    have ht : sizeOf part < sizeOf terms := List.sizeOf_lt_of_mem h
    simp only [union.sizeOf_spec]
    omega

/-- Induction from the parts of a type to the type. -/
theorem inductionOnParts {motive : GoType → Prop}
    (step : ∀ t, (∀ part ∈ t.parts, motive part) → motive t) (t : GoType) : motive t := by
  have bounded (n : Nat) : ∀ t : GoType, sizeOf t < n → motive t := by
    induction n with
    | zero => intro t ht; omega
    | succ n ih =>
      intro t ht
      apply step
      intro part hp
      have := sizeOf_lt_of_mem_parts hp
      exact ih part (by omega)
  exact bounded (sizeOf t + 1) t (by omega)

/-- A type occurs in itself and in whatever has it in a part. -/
inductive Occurs (u : GoType) : GoType → Prop
  | here : Occurs u u
  | inside {t part : GoType} (hp : part ∈ t.parts) (h : Occurs u part) : Occurs u t

theorem occurs_iff {u t : GoType} : u.Occurs t ↔ u = t ∨ ∃ part ∈ t.parts, u.Occurs part := by
  constructor
  · intro h
    cases h with
    | here => exact Or.inl rfl
    | inside hp h => exact Or.inr ⟨_, hp, h⟩
  · rintro (rfl | ⟨part, hp, h⟩)
    · exact .here
    · exact .inside hp h

theorem Occurs.trans {u v t : GoType} (huv : u.Occurs v) (hvt : v.Occurs t) : u.Occurs t := by
  induction hvt with
  | here => exact huv
  | inside hp _ ih => exact .inside hp ih

/-- What holds of a type when something is found at the node or in a part, holds when something is
found at a node that occurs. -/
theorem exists_occurs_iff {P Q : GoType → Prop}
    (h : ∀ t, P t ↔ Q t ∨ ∃ part ∈ t.parts, P part) (t : GoType) :
    P t ↔ ∃ u, u.Occurs t ∧ Q u := by
  induction t using inductionOnParts with
  | step t ih =>
    rw [h]
    constructor
    · rintro (hq | ⟨part, hp, hpart⟩)
      · exact ⟨t, .here, hq⟩
      · obtain ⟨u, hu, hq⟩ := (ih part hp).mp hpart
        exact ⟨u, .inside hp hu, hq⟩
    · rintro ⟨u, hu, hq⟩
      rcases occurs_iff.mp hu with rfl | ⟨part, hp, hu⟩
      · exact Or.inl hq
      · exact Or.inr ⟨part, hp, (ih part hp).mpr ⟨u, hu, hq⟩⟩

/-- What holds of a type when the node and all parts allow it, holds when every node that occurs
does. -/
theorem forall_occurs_iff {P Q : GoType → Prop}
    (h : ∀ t, P t ↔ Q t ∧ ∀ part ∈ t.parts, P part) (t : GoType) :
    P t ↔ ∀ u, u.Occurs t → Q u := by
  induction t using inductionOnParts with
  | step t ih =>
    rw [h]
    constructor
    · rintro ⟨hq, hparts⟩ u hu
      rcases occurs_iff.mp hu with rfl | ⟨part, hp, hu⟩
      · exact hq
      · exact (ih part hp).mp (hparts part hp) u hu
    · intro hall
      exact ⟨hall t .here, fun part hp => (ih part hp).mpr fun u hu => hall u (.inside hp hu)⟩

theorem forall_occurs_parts {Q : GoType → Prop} {t : GoType} :
    (∀ u : GoType, u.Occurs t → Q u) ↔
      Q t ∧ ∀ part ∈ t.parts, ∀ u : GoType, u.Occurs part → Q u := by
  constructor
  · intro h
    exact ⟨h t .here, fun part hp u hu => h u (.inside hp hu)⟩
  · rintro ⟨hhere, hparts⟩ u hu
    cases hu with
    | here => exact hhere
    | inside hp hu => exact hparts _ hp u hu

/-- Whether all nodes of a type pass a check, as far as `depth` levels show. -/
def allWithin (check : GoType → Bool) : Nat → GoType → Bool
  | 0, _ => false
  | depth + 1, t => check t && t.parts.all (allWithin check depth)

theorem check_of_allWithin {check : GoType → Bool} {depth : Nat} {t u : GoType}
    (h : t.allWithin check depth = true) (hu : u.Occurs t) : check u = true := by
  induction depth generalizing t with
  | zero => cases h
  | succ depth ih =>
    simp only [allWithin, Bool.and_eq_true, List.all_eq_true] at h
    rcases occurs_iff.mp hu with rfl | ⟨part, hp, hu⟩
    · exact h.1
    · exact ih (h.2 part hp) hu

end GoType

end GoStub
