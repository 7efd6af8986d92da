import GoStub.Proofs.Need
import GoStub.Shape.Record

/-! The types of a shape, and what the shape needs through them. -/

namespace GoStub

/-- The types in the parameter constraints. -/
def constraintTypes (params : List TypeParam) : List GoType :=
  params.map (·.constraint)

/-- The types in the signatures of some methods. -/
def methodTypes (methods : List DeclaredMethod) : List GoType :=
  methods.flatMap (·.signature.types)

namespace Shape

/-- The types a shape is made of. -/
def types : Shape → List GoType
  | .function params signature => constraintTypes params ++ signature.types
  | .interface params body => constraintTypes params ++ body.types
  | .struct params fields methods =>
    constraintTypes params ++ (methodTypes methods ++ fields.map (·.type))
  | .named params underlying _ methods =>
    constraintTypes params ++ (methodTypes methods ++ [underlying])
  | .value type _ _ => type.toList

/-- The fields of a struct. -/
def fields : Shape → List Field
  | .struct _ fields _ => fields
  | _ => []

/-- The methods that are declared with a type. -/
def methods : Shape → List DeclaredMethod
  | .struct _ _ methods => methods
  | .named _ _ _ methods => methods
  | _ => []

theorem mem_types_of_mem_methods {s : Shape} {m : DeclaredMethod} {t : GoType}
    (hm : m ∈ s.methods) (ht : t ∈ m.signature.types) : t ∈ s.types := by
  cases s with
  | struct params fields methods | named params underlying isAlias methods =>
    exact List.mem_append_right _ (List.mem_append_left _ (List.mem_flatMap.mpr ⟨m, hm, ht⟩))
  | _ => cases hm

/-- The shape with no methods declared. -/
def withoutMethods : Shape → Shape
  | .struct params fields _ => .struct params fields []
  | .named params underlying isAlias _ => .named params underlying isAlias []
  | shape => shape

theorem types_withoutMethods_subset (s : Shape) : s.withoutMethods.types ⊆ s.types := by
  cases s <;> simp [withoutMethods, types, methodTypes]

/-- The same shape, perhaps with methods added. -/
def Extends (s s₀ : Shape) : Prop :=
  s₀ = s ∨ s₀ = s.withoutMethods

theorem Extends.types_subset {s s₀ : Shape} (h : s.Extends s₀) : s₀.types ⊆ s.types := by
  rcases h with rfl | rfl
  · exact List.Subset.refl _
  · exact types_withoutMethods_subset s

theorem Extends.fields_eq {s s₀ : Shape} (h : s.Extends s₀) : s₀.fields = s.fields := by
  rcases h with rfl | rfl
  · rfl
  · cases s <;> rfl

theorem withoutMethods_eq {s : Shape} (h : s.methods = []) : s.withoutMethods = s := by
  cases s with
  | struct params fields methods | named params underlying isAlias methods =>
    obtain rfl : methods = [] := h
    rfl
  | _ => rfl

/-- The type `name` of the package `own` occurs in the shape. -/
def Mentions (own name : String) (s : Shape) : Prop :=
  ∃ t ∈ s.types, ∃ args, (GoType.named own name args).Occurs t

/-- The shape has `f` as an embedded field, of its own or of a struct that occurs in it. -/
def Embeds (s : Shape) (f : Field) : Prop :=
  f.embedded = true ∧
    (f ∈ s.fields ∨ ∃ t ∈ s.types, ∃ fields, (GoType.struct fields).Occurs t ∧ f ∈ fields)

/-- What a shape needs. -/
def Needs (own : String) (s : Shape) (need : Need) : Prop :=
  (∃ t ∈ s.types, need ∈ t.needs own) ∨
    ∃ f ∈ s.fields, f.embedded = true ∧ need ∈ Need.ofEmbedded own f.type

instance {own : String} {s : Shape} {need : Need} : Decidable (s.Needs own need) :=
  inferInstanceAs (Decidable (_ ∨ _))

theorem Extends.needs {own : String} {s s₀ : Shape} {need : Need} (h : s.Extends s₀)
    (hn : s₀.Needs own need) : s.Needs own need := by
  rcases hn with ⟨t, ht, hn⟩ | ⟨f, hf, hn⟩
  · exact Or.inl ⟨t, h.types_subset ht, hn⟩
  · exact Or.inr ⟨f, h.fields_eq ▸ hf, hn⟩

theorem needs_declared_iff {own name : String} {s : Shape} :
    s.Needs own (.declared name) ↔ s.Mentions own name := by
  unfold Needs Mentions
  constructor
  · rintro (⟨t, ht, h⟩ | ⟨f, hf, -, h⟩)
    · exact ⟨t, ht, GoType.declared_mem_needs_iff.mp h⟩
    · obtain ⟨n, -, h⟩ := GoType.mem_ofEmbedded_iff.mp h
      cases h
  · rintro ⟨t, ht, h⟩
    exact Or.inl ⟨t, ht, GoType.declared_mem_needs_iff.mpr h⟩

theorem needs_promoted_iff {own name : String} {s : Shape} :
    s.Needs own (.promoted name) ↔ ∃ f, s.Embeds f ∧ f.type.RefersTo own name := by
  unfold Needs Embeds
  constructor
  · rintro (⟨t, ht, h⟩ | ⟨f, hf, he, h⟩)
    · obtain ⟨fields, hfields, f, hf, he, hr⟩ := GoType.promoted_mem_needs_iff.mp h
      exact ⟨f, ⟨he, Or.inr ⟨t, ht, fields, hfields, hf⟩⟩, hr⟩
    · obtain ⟨n, hr, h⟩ := GoType.mem_ofEmbedded_iff.mp h
      cases h
      exact ⟨f, ⟨he, Or.inl hf⟩, hr⟩
  · rintro ⟨f, ⟨he, hf | ⟨t, ht, fields, hfields, hf⟩⟩, hr⟩
    · exact Or.inr ⟨f, hf, he, GoType.mem_ofEmbedded_iff.mpr ⟨name, hr, rfl⟩⟩
    · exact Or.inl ⟨t, ht, GoType.promoted_mem_needs_iff.mpr ⟨fields, hfields, f, hf, he, hr⟩⟩

theorem needs_imported_iff {own path : String} {s : Shape} :
    s.Needs own (.imported path) ↔ path ≠ own ∧ ∃ t ∈ s.types, t.UsesPackage path := by
  unfold Needs
  constructor
  · rintro (⟨t, ht, h⟩ | ⟨f, hf, -, h⟩)
    · obtain ⟨hpath, huses⟩ := GoType.imported_mem_needs_iff.mp h
      exact ⟨hpath, t, ht, huses⟩
    · obtain ⟨n, -, h⟩ := GoType.mem_ofEmbedded_iff.mp h
      cases h
  · rintro ⟨hpath, t, ht, huses⟩
    exact Or.inl ⟨t, ht, GoType.imported_mem_needs_iff.mpr ⟨hpath, huses⟩⟩

theorem mem_types_of_mem_fields {s : Shape} {f : Field} (hf : f ∈ s.fields) : f.type ∈ s.types := by
  cases s with
  | struct params fields methods =>
    exact List.mem_append_right _ (List.mem_append_right _ (List.mem_map_of_mem hf))
  | _ => cases hf

theorem needs_declared_of_promoted {own name : String} {s : Shape}
    (h : s.Needs own (.promoted name)) : s.Needs own (.declared name) := by
  rcases h with ⟨t, ht, h⟩ | ⟨f, hf, -, h⟩
  · exact Or.inl ⟨t, ht, GoType.declared_mem_needs_of_promoted h⟩
  · obtain ⟨n, hr, h⟩ := GoType.mem_ofEmbedded_iff.mp h
    cases h
    exact Or.inl ⟨f.type, mem_types_of_mem_fields hf, GoType.declared_mem_needs_of_refersTo hr⟩

end Shape

end GoStub
