import GoStub.Proofs.Occurrence

/-! What a type needs, by the types that occur in it: a type of the package is needed where it is
named, a package where one of its types or constants is, and a promotion where a field is embedded.
-/

namespace GoStub

variable {own : String}

theorem needsOfAll_eq (ts : List GoType) : needsOfAll own ts = ts.flatMap (·.needs own) := by
  induction ts with
  | nil => simp [needsOfAll]
  | cons t ts ih => simp [needsOfAll, ih]

theorem Signature.needs_eq (s : Signature) : s.needs own = s.types.flatMap (·.needs own) := by
  obtain ⟨params, variadic, results⟩ := s
  simp [Signature.needs, Signature.types, needsOfAll_eq]

theorem needsOfFields_eq (fields : List Field) :
    needsOfFields own fields = fields.flatMap fun f =>
      f.type.needs own ++ if f.embedded then Need.ofEmbedded own f.type else [] := by
  induction fields with
  | nil => simp [needsOfFields]
  | cons f fields ih =>
    obtain ⟨name, type, embedded, tag⟩ := f
    simp [needsOfFields, ih]

theorem needsOfMethods_eq (methods : List Method) :
    needsOfMethods own methods = methods.flatMap (·.signature.needs own) := by
  induction methods with
  | nil => simp [needsOfMethods]
  | cons m methods ih =>
    obtain ⟨name, signature⟩ := m
    simp [needsOfMethods, ih]

theorem InterfaceBody.needs_eq (b : InterfaceBody) :
    b.needs own = b.types.flatMap (·.needs own) := by
  obtain ⟨methods, embedded, typeSets⟩ := b
  simp [InterfaceBody.needs, InterfaceBody.types, needsOfAll_eq, needsOfMethods_eq,
    Signature.needs_eq, List.flatMap_assoc]

namespace GoType

/-- What a type needs for itself, its parts left aside. -/
def needsHere (own : String) : GoType → List Need
  | .named package name _ => [Need.ofName own package name]
  | .array length _ => Need.ofLength own length
  | .struct fields =>
    fields.flatMap fun f => if f.embedded then Need.ofEmbedded own f.type else []
  | _ => []

theorem mem_needs_step {need : Need} (t : GoType) :
    need ∈ t.needs own ↔ need ∈ t.needsHere own ∨ ∃ part ∈ t.parts, need ∈ part.needs own := by
  cases t with
  | builtin | param | unsupported | pointer | slice | chan | tilde => simp [needs, needsHere, parts]
  | named package name args =>
    simp only [needs, needsOfAll_eq, List.mem_append, List.mem_flatMap, needsHere, parts]
    exact or_comm
  | array length elem => simp [needs, needsHere, parts]
  | map key value => simp [needs, needsHere, parts]
  | func signature => simp [needs, needsHere, parts, Signature.needs_eq]
  | struct fields =>
    simp only [needs, needsOfFields_eq, needsHere, parts, List.mem_flatMap, List.mem_append,
      List.mem_map, exists_exists_and_eq_and]
    constructor
    · rintro ⟨f, hf, h | h⟩
      · exact Or.inr ⟨f, hf, h⟩
      · exact Or.inl ⟨f, hf, h⟩
    · rintro (⟨f, hf, h⟩ | ⟨f, hf, h⟩)
      · exact ⟨f, hf, Or.inr h⟩
      · exact ⟨f, hf, Or.inl h⟩
  | interface body => simp [needs, needsHere, parts, InterfaceBody.needs_eq]
  | union terms => simp [needs, needsHere, parts, needsOfAll_eq]

theorem mem_needs_iff {need : Need} {t : GoType} :
    need ∈ t.needs own ↔ ∃ u : GoType, u.Occurs t ∧ need ∈ u.needsHere own :=
  exists_occurs_iff mem_needs_step t

/-- `t` is the type `name` of the package, or a pointer to it. -/
def RefersTo (own name : String) (t : GoType) : Prop :=
  ∃ args, t = .named own name args ∨ t = .pointer (.named own name args)

theorem mem_ofEmbedded_iff {need : Need} {t : GoType} :
    need ∈ Need.ofEmbedded own t ↔ ∃ name, t.RefersTo own name ∧ need = .promoted name := by
  have hnamed (package name : String) (args : List GoType) :
      (need ∈ if package = own then [Need.promoted name] else []) ↔
        package = own ∧ need = .promoted name := by
    by_cases h : package = own <;> simp [h]
  cases t with
  | named package name args =>
    rw [Need.ofEmbedded, hnamed package name args]
    simp only [RefersTo, named.injEq, reduceCtorEq, or_false]
    aesop
  | pointer elem =>
    cases elem with
    | named package name args =>
      rw [Need.ofEmbedded, hnamed package name args]
      simp only [RefersTo, pointer.injEq, named.injEq, reduceCtorEq, false_or]
      aesop
    | _ => simp [Need.ofEmbedded, RefersTo]
  | _ => simp [Need.ofEmbedded, RefersTo]

theorem promoted_mem_needsHere_iff {name : String} {u : GoType} :
    Need.promoted name ∈ u.needsHere own ↔
      ∃ fields, u = .struct fields ∧
        ∃ f ∈ fields, f.embedded = true ∧ f.type.RefersTo own name := by
  cases u with
  | struct fields =>
    simp only [needsHere, List.mem_flatMap, struct.injEq, exists_eq_left']
    refine exists_congr fun f => and_congr_right fun _ => ?_
    by_cases he : f.embedded = true
    · simp [he, mem_ofEmbedded_iff]
    · simp [he]
  | named package n args =>
    simp only [needsHere, Need.ofName, List.mem_singleton, reduceCtorEq, false_and, exists_false,
      iff_false]
    split <;> simp
  | array length elem =>
    cases length with
    | constant package n =>
      simp only [needsHere, Need.ofLength, reduceCtorEq, false_and, exists_false, iff_false]
      split <;> simp
    | _ => simp [needsHere, Need.ofLength]
  | _ => simp [needsHere]

theorem declared_mem_needsHere_iff {name : String} {u : GoType} :
    Need.declared name ∈ u.needsHere own ↔ ∃ args, u = .named own name args := by
  cases u with
  | struct fields =>
    simp only [needsHere, List.mem_flatMap, reduceCtorEq, exists_false, iff_false, not_exists,
      not_and]
    intro f hf
    by_cases he : f.embedded = true <;> simp [he, mem_ofEmbedded_iff]
  | named package n args =>
    simp only [needsHere, Need.ofName, List.mem_singleton, named.injEq]
    by_cases h : package = own <;> simp [h, eq_comm]
  | array length elem =>
    cases length with
    | constant package n =>
      simp only [needsHere, Need.ofLength, reduceCtorEq, exists_false, iff_false]
      split <;> simp
    | _ => simp [needsHere, Need.ofLength]
  | _ => simp [needsHere]

theorem imported_mem_needsHere_iff {path : String} {u : GoType} :
    Need.imported path ∈ u.needsHere own ↔ path ≠ own ∧
      ((∃ name args, u = .named path name args) ∨
        ∃ name elem, u = .array (.constant path name) elem) := by
  cases u with
  | struct fields =>
    simp only [needsHere, List.mem_flatMap, reduceCtorEq, exists_false, or_self, and_false,
      iff_false, not_exists, not_and]
    intro f hf
    by_cases he : f.embedded = true <;> simp [he, mem_ofEmbedded_iff]
  | named package n args =>
    simp only [needsHere, Need.ofName, List.mem_singleton, named.injEq, reduceCtorEq, exists_false,
      or_false]
    by_cases h : package = own
    · simp only [h, ↓reduceIte, reduceCtorEq, false_iff, not_and]
      aesop
    · simp only [h, ↓reduceIte, Need.imported.injEq]
      aesop
  | array length elem =>
    cases length with
    | constant package n =>
      simp only [needsHere, Need.ofLength, array.injEq, ArrayLength.constant.injEq, reduceCtorEq,
        exists_false, false_or]
      by_cases h : package = own
      · simp only [h, ↓reduceIte, List.not_mem_nil, false_iff, not_and]
        aesop
      · simp only [h, ↓reduceIte, List.mem_singleton, Need.imported.injEq]
        aesop
    | _ => simp [needsHere, Need.ofLength]
  | _ => simp [needsHere]

/-- The node is a name of a package: of a type, or of a constant that is an array length. -/
def Names (package name : String) : GoType → Prop
  | .named p n _ => p = package ∧ n = name
  | .array (.constant p n) _ => p = package ∧ n = name
  | _ => False

/-- A type or a constant of the package occurs. -/
def UsesPackage (path : String) (t : GoType) : Prop :=
  ∃ u : GoType, u.Occurs t ∧ ∃ name, u.Names path name

theorem exists_names_iff {path : String} {u : GoType} :
    (∃ name, u.Names path name) ↔ (∃ name args, u = .named path name args) ∨
      ∃ name elem, u = .array (.constant path name) elem := by
  cases u with
  | named package n args => simp [Names]
  | array length elem => cases length <;> simp [Names]
  | _ => simp [Names]

theorem imported_mem_needs_iff {path : String} {t : GoType} :
    Need.imported path ∈ t.needs own ↔ path ≠ own ∧ t.UsesPackage path := by
  simp only [mem_needs_iff, imported_mem_needsHere_iff, ← exists_names_iff, UsesPackage]
  constructor
  · rintro ⟨u, hu, hpath, hnames⟩
    exact ⟨hpath, u, hu, hnames⟩
  · rintro ⟨hpath, u, hu, hnames⟩
    exact ⟨u, hu, hpath, hnames⟩

theorem declared_mem_needs_iff {name : String} {t : GoType} :
    Need.declared name ∈ t.needs own ↔ ∃ args, (named own name args).Occurs t := by
  rw [mem_needs_iff]
  constructor
  · rintro ⟨u, hu, h⟩
    obtain ⟨args, rfl⟩ := declared_mem_needsHere_iff.mp h
    exact ⟨args, hu⟩
  · rintro ⟨args, hu⟩
    exact ⟨_, hu, declared_mem_needsHere_iff.mpr ⟨args, rfl⟩⟩

theorem promoted_mem_needs_iff {name : String} {t : GoType} :
    Need.promoted name ∈ t.needs own ↔
      ∃ fields, (struct fields).Occurs t ∧
        ∃ f ∈ fields, f.embedded = true ∧ f.type.RefersTo own name := by
  rw [mem_needs_iff]
  constructor
  · rintro ⟨u, hu, h⟩
    obtain ⟨fields, rfl, hf⟩ := promoted_mem_needsHere_iff.mp h
    exact ⟨fields, hu, hf⟩
  · rintro ⟨fields, hu, hf⟩
    exact ⟨_, hu, promoted_mem_needsHere_iff.mpr ⟨fields, rfl, hf⟩⟩

theorem declared_mem_needs_of_refersTo {name : String} {t : GoType} (h : t.RefersTo own name) :
    Need.declared name ∈ t.needs own := by
  obtain ⟨args, rfl | rfl⟩ := h
  · exact declared_mem_needs_iff.mpr ⟨args, .here⟩
  · exact declared_mem_needs_iff.mpr ⟨args, .inside List.mem_cons_self .here⟩

/-- A type that is embedded is also named. -/
theorem declared_mem_needs_of_promoted {name : String} {t : GoType}
    (h : Need.promoted name ∈ t.needs own) : Need.declared name ∈ t.needs own := by
  obtain ⟨fields, hs, f, hf, -, hr⟩ := promoted_mem_needs_iff.mp h
  obtain ⟨args, hin⟩ := declared_mem_needs_iff.mp (declared_mem_needs_of_refersTo hr)
  have hstruct : (named own name args).Occurs (struct fields) :=
    .inside (List.mem_map_of_mem hf) hin
  exact declared_mem_needs_iff.mpr ⟨args, hstruct.trans hs⟩

end GoType

end GoStub
