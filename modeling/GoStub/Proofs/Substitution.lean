import GoStub.Proofs.Dict
import GoStub.Proofs.Occurrence

/-! Substitution, node by node: a parameter is looked up, and of any other type the parts are
replaced, also where there is nothing to replace. So what occurs in a substituted type stands for
something that occurred before, or is part of what a parameter was replaced by. -/

namespace GoStub

variable {s : Substitution} {f g : GoType → GoType}

section MapTypes

def Signature.mapTypes (f : GoType → GoType) (sig : Signature) : Signature :=
  ⟨sig.params.map f, sig.variadic, sig.results.map f⟩

def Field.mapType (f : GoType → GoType) (field : Field) : Field :=
  { field with type := f field.type }

def Method.mapTypes (f : GoType → GoType) (m : Method) : Method :=
  ⟨m.name, m.signature.mapTypes f⟩

def InterfaceBody.mapTypes (f : GoType → GoType) (b : InterfaceBody) : InterfaceBody :=
  ⟨b.methods.map (·.mapTypes f), b.embedded.map f, b.typeSets.map f⟩

@[simp] theorem Signature.types_mapTypes (sig : Signature) :
    (sig.mapTypes f).types = sig.types.map f := by
  simp [mapTypes, types]

@[simp] theorem InterfaceBody.types_mapTypes (b : InterfaceBody) :
    (b.mapTypes f).types = b.types.map f := by
  simp [mapTypes, types, Method.mapTypes, List.flatMap_map, List.map_flatMap]

theorem Signature.mapTypes_congr {sig : Signature} (h : ∀ t ∈ sig.types, f t = g t) :
    sig.mapTypes f = sig.mapTypes g := by
  have hparams : sig.params.map f = sig.params.map g :=
    List.map_congr_left fun t ht => h t (List.mem_append_left _ ht)
  have hresults : sig.results.map f = sig.results.map g :=
    List.map_congr_left fun t ht => h t (List.mem_append_right _ ht)
  rw [mapTypes, mapTypes, hparams, hresults]

theorem InterfaceBody.mapTypes_congr {b : InterfaceBody} (h : ∀ t ∈ b.types, f t = g t) :
    b.mapTypes f = b.mapTypes g := by
  simp only [types, List.mem_append, List.mem_flatMap] at h
  have hmethods : b.methods.map (·.mapTypes f) = b.methods.map (·.mapTypes g) := by
    refine List.map_congr_left fun m hm => ?_
    have hsig := Signature.mapTypes_congr fun t ht => h t (Or.inl ⟨m, hm, ht⟩)
    rw [Method.mapTypes, Method.mapTypes, hsig]
  have hembedded : b.embedded.map f = b.embedded.map g :=
    List.map_congr_left fun t ht => h t (Or.inr (Or.inl ht))
  have hsets : b.typeSets.map f = b.typeSets.map g :=
    List.map_congr_left fun t ht => h t (Or.inr (Or.inr ht))
  rw [mapTypes, mapTypes, hmethods, hembedded, hsets]

@[simp] theorem Signature.mapTypes_id (sig : Signature) : sig.mapTypes (fun t => t) = sig := by
  obtain ⟨params, variadic, results⟩ := sig
  simp [mapTypes]

@[simp] theorem Field.mapType_id (field : Field) : field.mapType (fun t => t) = field := by
  obtain ⟨name, type, embedded, tag⟩ := field
  rfl

@[simp] theorem Method.mapTypes_id (m : Method) : m.mapTypes (fun t => t) = m := by
  obtain ⟨name, signature⟩ := m
  simp [mapTypes]

@[simp] theorem InterfaceBody.mapTypes_id (b : InterfaceBody) : b.mapTypes (fun t => t) = b := by
  obtain ⟨methods, embedded, typeSets⟩ := b
  simp [mapTypes]

theorem Signature.mapTypes_mapTypes (sig : Signature) :
    (sig.mapTypes f).mapTypes g = sig.mapTypes fun t => g (f t) := by
  simp [mapTypes]

theorem InterfaceBody.mapTypes_mapTypes (b : InterfaceBody) :
    (b.mapTypes f).mapTypes g = b.mapTypes fun t => g (f t) := by
  simp [mapTypes, Method.mapTypes, Signature.mapTypes_mapTypes]

end MapTypes

namespace GoType

/-- The type with each of the types it is directly made of replaced. -/
def mapParts (f : GoType → GoType) : GoType → GoType
  | .builtin name => .builtin name
  | .param name => .param name
  | .named package name args => .named package name (args.map f)
  | .pointer elem => .pointer (f elem)
  | .slice elem => .slice (f elem)
  | .array length elem => .array length (f elem)
  | .map key value => .map (f key) (f value)
  | .chan direction elem => .chan direction (f elem)
  | .func signature => .func (signature.mapTypes f)
  | .struct fields => .struct (fields.map (·.mapType f))
  | .interface body => .interface (body.mapTypes f)
  | .tilde elem => .tilde (f elem)
  | .union terms => .union (terms.map f)
  | .unsupported reason => .unsupported reason

theorem mapParts_ne_param {t : GoType} (ht : ∀ name, t ≠ .param name) (f : GoType → GoType)
    (name : String) : t.mapParts f ≠ .param name := by
  cases t with
  | param name => exact absurd rfl (ht name)
  | _ => simp [mapParts]

theorem parts_mapParts (t : GoType) : (t.mapParts f).parts = t.parts.map f := by
  cases t with
  | struct fields => simp [mapParts, parts, Field.mapType]
  | _ => simp [mapParts, parts]

theorem mapParts_congr {t : GoType} (h : ∀ part ∈ t.parts, f part = g part) :
    t.mapParts f = t.mapParts g := by
  cases t with
  | builtin | param | unsupported => rfl
  | named package name args =>
    have hargs : args.map f = args.map g := List.map_congr_left h
    simp only [mapParts, hargs]
  | pointer elem | slice elem | array length elem | chan direction elem | tilde elem =>
    simp only [mapParts, h elem (.head _)]
  | map key value => simp only [mapParts, h key (.head _), h value (.tail _ (.head _))]
  | func signature => simp only [mapParts, Signature.mapTypes_congr h]
  | struct fields =>
    have hfields : fields.map (·.mapType f) = fields.map (·.mapType g) := by
      refine List.map_congr_left fun field hfield => ?_
      rw [Field.mapType, Field.mapType, h field.type (List.mem_map_of_mem hfield)]
    simp only [mapParts, hfields]
  | interface body => simp only [mapParts, InterfaceBody.mapTypes_congr h]
  | union terms =>
    have hterms : terms.map f = terms.map g := List.map_congr_left h
    simp only [mapParts, hterms]

theorem mapParts_id (t : GoType) : t.mapParts (fun part => part) = t := by
  cases t <;> simp [mapParts]

theorem mapParts_mapParts (t : GoType) :
    (t.mapParts f).mapParts g = t.mapParts fun part => g (f part) := by
  cases t with
  | func signature => simp [mapParts, Signature.mapTypes_mapTypes]
  | struct fields => simp [mapParts, Field.mapType]
  | interface body => simp [mapParts, InterfaceBody.mapTypes_mapTypes]
  | _ => simp [mapParts]

end GoType

theorem substituteAll_eq (ts : List GoType) : substituteAll s ts = ts.map (·.substitute s) := by
  induction ts with
  | nil => simp [substituteAll]
  | cons t ts ih => simp [substituteAll, ih]

theorem Signature.substitute_eq (sig : Signature) :
    sig.substitute s = sig.mapTypes (·.substitute s) := by
  obtain ⟨params, variadic, results⟩ := sig
  simp [Signature.substitute, mapTypes, substituteAll_eq]

theorem Field.substitute_eq (f : Field) : f.substitute s = f.mapType (·.substitute s) := by
  obtain ⟨name, type, embedded, tag⟩ := f
  simp [Field.substitute, mapType]

theorem substituteFields_eq (fields : List Field) :
    substituteFields s fields = fields.map (·.mapType (·.substitute s)) := by
  induction fields with
  | nil => simp [substituteFields]
  | cons f fields ih => simp [substituteFields, ih, Field.substitute_eq]

theorem Method.substitute_eq (m : Method) : m.substitute s = m.mapTypes (·.substitute s) := by
  obtain ⟨name, signature⟩ := m
  simp [Method.substitute, mapTypes, Signature.substitute_eq]

theorem substituteMethods_eq (methods : List Method) :
    substituteMethods s methods = methods.map (·.mapTypes (·.substitute s)) := by
  induction methods with
  | nil => simp [substituteMethods]
  | cons m methods ih => simp [substituteMethods, ih, Method.substitute_eq]

theorem InterfaceBody.substitute_eq (b : InterfaceBody) :
    b.substitute s = b.mapTypes (·.substitute s) := by
  obtain ⟨methods, embedded, typeSets⟩ := b
  simp [InterfaceBody.substitute, mapTypes, substituteAll_eq, substituteMethods_eq]

namespace GoType

theorem substitute_of_isEmpty (h : s.isEmpty = true) (t : GoType) : t.substitute s = t := by
  cases t <;> simp [substitute, h]

@[simp] theorem substitute_param (name : String) :
    (param name).substitute s = (s.get? name).getD (.param name) := by
  by_cases h : s.isEmpty = true
  · rw [substitute_of_isEmpty h, Dict.get?_of_isEmpty h, Option.getD_none]
  · simp [substitute, h]

/-- Holds without entries too, where the type is not looked at: the parts stay as they are then. -/
theorem substitute_eq_mapParts {t : GoType} (ht : ∀ name, t ≠ .param name) :
    t.substitute s = t.mapParts (·.substitute s) := by
  by_cases h : s.isEmpty = true
  · simp only [substitute_of_isEmpty h, mapParts_id]
  · cases t with
    | param name => exact absurd rfl (ht name)
    | func signature => simp [substitute, h, mapParts, Signature.substitute_eq]
    | struct fields => simp [substitute, h, mapParts, substituteFields_eq]
    | interface body => simp [substitute, h, mapParts, InterfaceBody.substitute_eq]
    | _ => simp [substitute, h, mapParts, substituteAll_eq]

@[simp] theorem substitute_named (package name : String) (args : List GoType) :
    (named package name args).substitute s = .named package name (args.map (·.substitute s)) :=
  substitute_eq_mapParts (by simp)

@[simp] theorem substitute_interface (body : InterfaceBody) :
    (interface body).substitute s = .interface (body.substitute s) := by
  rw [substitute_eq_mapParts (by simp), mapParts, InterfaceBody.substitute_eq]

theorem parts_substitute {t : GoType} (ht : ∀ name, t ≠ .param name) :
    (t.substitute s).parts = t.parts.map (·.substitute s) := by
  rw [substitute_eq_mapParts ht, parts_mapParts]

/-- Induction for what treats parameters apart. -/
theorem inductionOnParams {motive : GoType → Prop} (param : ∀ name, motive (.param name))
    (other : ∀ t : GoType, (∀ name, t ≠ .param name) → (∀ part ∈ t.parts, motive part) → motive t)
    (t : GoType) : motive t := by
  induction t using inductionOnParts with
  | step t ih =>
    by_cases ht : ∃ name, t = .param name
    · obtain ⟨name, rfl⟩ := ht
      exact param name
    · exact other t (not_exists.mp ht) ih

theorem occurs_substitute {t u : GoType} (h : u.Occurs (t.substitute s)) :
    (∃ v : GoType, v.Occurs t ∧ u = v.substitute s) ∨
      ∃ m image, (param m).Occurs t ∧ s.get? m = some image ∧ u.Occurs image := by
  induction t using inductionOnParams with
  | param m =>
    rw [substitute_param] at h
    cases hm : s.get? m with
    | none =>
      rw [hm, Option.getD_none] at h
      cases h with
      | here => exact Or.inl ⟨.param m, .here, by simp [hm]⟩
      | inside hp => cases hp
    | some image =>
      rw [hm, Option.getD_some] at h
      exact Or.inr ⟨m, image, .here, hm, h⟩
  | other t ht ih =>
    rcases occurs_iff.mp h with rfl | ⟨part', hp', hu⟩
    · exact Or.inl ⟨t, .here, rfl⟩
    · rw [parts_substitute ht] at hp'
      obtain ⟨part, hp, rfl⟩ := List.mem_map.mp hp'
      rcases ih part hp hu with ⟨v, hv, rfl⟩ | ⟨m, image, hm, hs, hu⟩
      · exact Or.inl ⟨v, .inside hp hv, rfl⟩
      · exact Or.inr ⟨m, image, .inside hp hm, hs, hu⟩

/-- What occurs in a type occurs, replaced, in the replaced type. -/
theorem Occurs.substitute {t u : GoType} (h : u.Occurs t) (s : Substitution) :
    (u.substitute s).Occurs (t.substitute s) := by
  induction h with
  | here => exact .here
  | @inside t part hp _ ih =>
    have ht (name : String) : t ≠ .param name := by
      rintro rfl
      cases hp
    refine .inside ?_ ih
    rw [parts_substitute ht]
    exact List.mem_map_of_mem hp

end GoType

end GoStub
