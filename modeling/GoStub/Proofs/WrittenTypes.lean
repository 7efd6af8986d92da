import GoStub.Proofs.Fidelity
import GoStub.Proofs.MethodSet

/-! The types that are written out for a symbol, read off its declaration: each of them stands
settled in the shape of the symbol, so what cannot be settled in it has no record. -/

namespace GoStub

open Lookup

variable {source : Source} {site : Site}

/-- The types an interface writes out itself. Its own `Error` method is not among them: that of an
embedded predeclared error takes its place. -/
def InterfaceBody.writtenTypes (b : InterfaceBody) : List GoType :=
  ((MethodSet.ofBody b).methods.entries.filter fun e => e.1 != "Error").flatMap (·.2.types) ++
    b.typeSets

/-- The types that are written out for a type declaration with these methods. -/
def TypeDecl.writtenTypes (decl : TypeDecl) (methods : List MethodDecl) : List GoType :=
  constraintTypes decl.params ++
    if decl.isAlias then [decl.type]
    else
      match decl.type with
      | .interface body => body.writtenTypes
      | .struct fields => methods.flatMap (·.signature.types) ++
          (fields.filter fun f => Name.isExported f.name).map (·.type)
      | type => methods.flatMap (·.signature.types) ++ [type]

/-- The type that is written out for a value, if its declaration names it: the declared one, or that
of a composite literal or a conversion. -/
def ValueBinding.writtenTypes (decl : ValueBinding) : List GoType :=
  match decl.type, decl.init with
  | some type, _ => [type]
  | none, some (.composite type) => [type]
  | none, some (.addressOf type) => [.pointer type]
  | none, some (.call (.conversion type) _) => [type]
  | none, _ => []

/-- The types that are written out for a symbol as its package declares it. -/
def Site.writtenTypes (site : Site) (withMethods : Bool) : List GoType :=
  match site.target.types.get? site.symbol with
  | some decl => decl.writtenTypes (site.methodsToKeep withMethods)
  | none =>
    match site.target.funcs.get? site.symbol with
    | some decl => constraintTypes decl.params ++ decl.signature.types
    | none => (site.target.values.get? site.symbol).toList.flatMap (·.writtenTypes)

namespace MethodSet

/-- What the first has, the second has too, but for the method `Error`. -/
structure Within (s s' : MethodSet) : Prop where
  methods : ∀ name signature, name ≠ "Error" → s.methods.get? name = some signature →
    s'.methods.get? name = some signature
  typeSets : s.typeSets ⊆ s'.typeSets

variable {s s' : MethodSet}

theorem Within.refl (s : MethodSet) : s.Within s :=
  ⟨fun _ _ _ h => h, List.Subset.refl _⟩

theorem within_addError (h : s.addError.Within s') : s.Within s' where
  methods name signature hne hget :=
    h.methods name signature hne (by simpa [addError, Dict.get?_insert, hne] using hget)
  typeSets := h.typeSets

theorem within_addTypeSet {type : GoType} (h : (s.addTypeSet type).Within s') : s.Within s' where
  methods := h.methods
  typeSets := fun _ ht => h.typeSets (List.mem_append_left _ ht)

theorem within_addBody {body : InterfaceBody} (h : (s.addBody body).Within s') : s.Within s' where
  methods name signature hne hget := by
    apply h.methods name signature hne
    have hcontains : (s.addBody body).methods.contains name = true :=
      contains_foldl_insertNew.mpr (Or.inl (Dict.contains_iff.mpr ⟨signature, hget⟩))
    obtain ⟨kept, hkept⟩ := Dict.contains_iff.mp hcontains
    rcases get?_foldl_insertNew hkept with hold | ⟨hnone, -⟩
    · rw [hkept, ← hold, hget]
    · simp [hget] at hnone
  typeSets := fun _ ht => h.typeSets (List.mem_append_left _ ht)

/-- Embedded elements take nothing away. -/
theorem within_of_addEmbedded {inner : PackageScope → InterfaceBody → Lookup InterfaceBody}
    {owner : PackageScope} {types : List GoType} {c c' : Cache}
    (h : (addEmbedded source site inner owner types s).Yields c s' c') : s.Within s' := by
  induction types generalizing s c with
  | nil =>
    obtain ⟨rfl, -⟩ := yields_pure.mp h
    exact .refl s
  | cons type rest ih =>
    cases type with
    | builtin name =>
      rw [addEmbedded] at h
      have hrest := ih h
      split at hrest
      · exact within_addError hrest
      · split at hrest
        · exact hrest
        · exact within_addTypeSet hrest
    | named package name args =>
      rw [addEmbedded] at h
      split at h
      all_goals
        obtain ⟨declaring, c₁, -, h⟩ := yields_bind.mp h
        obtain ⟨found, c₂, -, h⟩ := yields_bind.mp h
        rcases found with _ | ⟨path, body⟩
        · exact within_addTypeSet (ih h)
        · obtain ⟨bodyOwner, c₃, -, h⟩ := yields_bind.mp h
          obtain ⟨nested, c₄, -, h⟩ := yields_bind.mp h
          exact within_addBody (ih h)
    | _ => exact within_addTypeSet (ih h)

end MethodSet

/-- The method set of an interface has all types that the interface writes out itself. -/
theorem InterfaceBody.writtenTypes_subset {depth : Nat} {owner : PackageScope}
    {body flat : InterfaceBody} {c c' : Cache}
    (h : (methodSet source site depth owner body).Yields c flat c') :
    body.writtenTypes ⊆ flat.types := by
  cases depth with
  | zero => exact absurd h not_yields_fail
  | succ depth =>
    obtain ⟨s, c₁, hs, h⟩ := yields_bind.mp h
    obtain ⟨rfl, -⟩ := yields_pure.mp h
    have hwithin := MethodSet.within_of_addEmbedded hs
    intro t ht
    rcases List.mem_append.mp ht with ht | ht
    · obtain ⟨⟨name, signature⟩, he, ht⟩ := List.mem_flatMap.mp ht
      obtain ⟨he, hne⟩ := List.mem_filter.mp he
      have hsorted : (MethodSet.ofBody body).methods.Sorted := Dict.sorted_ofList _
      have hkept := hwithin.methods name signature (by simpa using hne)
        (hsorted.mem_entries_iff.mp he)
      refine List.mem_append_left _ (List.mem_flatMap.mpr ⟨⟨name, signature⟩, ?_, ht⟩)
      exact List.mem_map.mpr ⟨(name, signature), Dict.mem_entries_of_get? hkept, rfl⟩
    · exact List.mem_append_right _ (List.mem_append_right _ (hwithin.typeSets ht))

/-- What occurs in a type that can be settled can be settled, and occurs settled. -/
theorem GoType.exists_settle_of_occurs {t t' v : GoType} (h : t.settle site = .ok t')
    (ho : v.Occurs t) : ∃ v' : GoType, v'.Occurs t' ∧ v.settle site = .ok v' := by
  induction t using inductionOnParts generalizing t' with
  | step t ih =>
    rcases occurs_iff.mp ho with rfl | ⟨part, hp, ho⟩
    · exact ⟨t', .here, h⟩
    · obtain ⟨part', hp', hpart⟩ := exists_right_of_forall₂ (settle_step h).2 hp
      obtain ⟨v', ho', hv⟩ := ih part hp hpart ho
      exact ⟨v', .inside hp' ho', hv⟩

/-- A type of the package that occurs is still there when all is settled. -/
theorem GoType.occurs_named_of_settle {t t' : GoType} {path name : String} {args : List GoType}
    (h : t.settle site = .ok t') (ho : (named path name args).Occurs t) :
    ∃ args', (named path name args').Occurs t' := by
  obtain ⟨v', ho', hv⟩ := exists_settle_of_occurs h ho
  obtain ⟨args', -, hv⟩ := Except.bind_eq_ok.mp hv
  obtain ⟨⟨⟩, -, hv⟩ := Except.bind_eq_ok.mp hv
  obtain rfl := Except.pure_eq_ok.mp hv
  exact ⟨args', ho'⟩

/-- Behind a length that is a constant of the package there is an integer, if it can be settled. -/
theorem GoType.literalBehind_of_settle {t t' elem : GoType} {name : String}
    (h : t.settle site = .ok t')
    (ho : (array (.constant site.target.importPath name) elem).Occurs t) :
    ∃ literal, site.target.LiteralBehind name literal := by
  obtain ⟨v', -, hv⟩ := exists_settle_of_occurs h ho
  obtain ⟨length', hl, -⟩ := Except.bind_eq_ok.mp hv
  simp only [Site.settleLength, ↓reduceIte] at hl
  cases hliteral : site.lengthLiteral Site.maxHops name with
  | error e => simp [hliteral, Except.map] at hl
  | ok literal => exact ⟨literal, Site.lengthLiteral_behind hliteral⟩

section Values

variable {depth : Nat} {package : PackageScope} {decl : ValueBinding} {t : GoType} {c c' : Cache}

/-- The ways in which the declaration of a value names its type. -/
theorem ValueBinding.names_of_written (h : t ∈ decl.writtenTypes) :
    decl.type = some t ∨ decl.type = none ∧ (decl.init = some (.composite t) ∨
      (∃ elem, decl.init = some (.addressOf elem) ∧ t = .pointer elem) ∨
        ∃ index, decl.init = some (.call (.conversion t) index)) := by
  unfold writtenTypes at h
  split at h
  next htype => exact Or.inl (List.mem_singleton.mp h ▸ htype)
  next htype hinit => exact Or.inr ⟨htype, Or.inl (List.mem_singleton.mp h ▸ hinit)⟩
  next htype hinit => exact Or.inr ⟨htype, Or.inr (Or.inl ⟨_, hinit, List.mem_singleton.mp h⟩)⟩
  next htype hinit => exact Or.inr ⟨htype, Or.inr (Or.inr ⟨_, List.mem_singleton.mp h ▸ hinit⟩)⟩
  next => exact absurd h List.not_mem_nil

/-- A constant whose declaration names a type has that type. -/
theorem constantType_of_written {type : Option GoType} {kind : ConstantKind}
    (ht : t ∈ decl.writtenTypes)
    (h : (constantType source site depth package decl).Yields c (type, kind) c') :
    type = some t := by
  cases depth with
  | zero => exact absurd h not_yields_fail
  | succ depth =>
    rcases ValueBinding.names_of_written ht with
      htype | ⟨htype, hinit | ⟨elem, hinit, -⟩ | ⟨index, hinit⟩⟩
    · exact constantType_of_declared htype h
    · simp only [constantType, htype, hinit] at h
      exact absurd h not_yields_fail
    · simp only [constantType, htype, hinit] at h
      exact absurd h not_yields_fail
    · simp only [constantType, htype, hinit, conversionTarget] at h
      obtain ⟨target, c₁, htarget, h⟩ := yields_bind.mp h
      obtain ⟨rfl, rfl⟩ := yields_pure.mp htarget
      obtain ⟨kind', c₂, -, h⟩ := yields_bind.mp h
      exact (congrArg Prod.fst (yields_pure.mp h).1).symm

/-- A variable whose declaration names a type has that type. -/
theorem variableType_of_written {type : GoType} (ht : t ∈ decl.writtenTypes)
    (h : (variableType source site depth package decl).Yields c type c') : type = t := by
  cases depth with
  | zero => exact absurd h not_yields_fail
  | succ depth =>
    rcases ValueBinding.names_of_written ht with
      htype | ⟨htype, hinit | ⟨elem, hinit, rfl⟩ | ⟨index, hinit⟩⟩
    · exact variableType_of_declared htype h
    · simp only [variableType, htype, hinit] at h
      exact (yields_pure.mp h).1.symm
    · simp only [variableType, htype, hinit] at h
      exact (yields_pure.mp h).1.symm
    · simp only [variableType, htype, hinit, resultType, returnsError, conversionTarget,
        Bool.false_eq_true, ↓reduceIte] at h
      obtain ⟨target, c₁, htarget, h⟩ := yields_bind.mp h
      obtain ⟨rfl, rfl⟩ := yields_pure.mp htarget
      exact (yields_pure.mp h).1.symm

end Values

namespace Site.Drafted

variable {withMethods : Bool} {c : Cache} {d : Draft}

/-- Every type that is written out for a symbol is in its shape, settled. -/
theorem exists_settled (h : site.Drafted source withMethods c d) {t : GoType}
    (ht : t ∈ site.writtenTypes withMethods) : ∃ t' ∈ d.shape.types, t.settle site = .ok t' := by
  unfold writtenTypes at ht
  cases h with
  | ofAlias hd ha hp hu =>
    simp only [hd, TypeDecl.writtenTypes, ha, ↓reduceIte] at ht
    exact exists_right_of_forall₂ (List.rel_append (settleParams_types hp) (.cons hu .nil)) ht
  | ofInterface hd ha htype hp hm hf hs =>
    simp only [hd, TypeDecl.writtenTypes, ha, htype, Bool.false_eq_true, ↓reduceIte] at ht
    refine exists_right_of_forall₂
      (List.rel_append (settleParams_types hp) (InterfaceBody.settle_types hs)) ?_
    exact (List.mem_append.mp ht).elim (List.mem_append_left _) fun ht =>
      List.mem_append_right _ (InterfaceBody.writtenTypes_subset hf ht)
  | ofStruct hd ha htype hp hm hs =>
    simp only [hd, TypeDecl.writtenTypes, ha, htype, Bool.false_eq_true, ↓reduceIte] at ht
    exact exists_right_of_forall₂ (List.rel_append (settleParams_types hp)
      (List.rel_append (methodRecords_types hm) (settleFields_types hs))) ht
  | ofOther hd ha hi htype hp hm hu =>
    simp only [hd, TypeDecl.writtenTypes, ha, Bool.false_eq_true, ↓reduceIte] at ht
    exact exists_right_of_forall₂ (List.rel_append (settleParams_types hp)
      (List.rel_append (methodRecords_types hm) (.cons hu .nil))) ht
  | ofFunction hn hd hp hs =>
    simp only [hn, hd] at ht
    exact exists_right_of_forall₂
      (List.rel_append (settleParams_types hp) (Signature.settle_types hs)) ht
  | ofUntyped hn hf hd hc hk =>
    simp only [hn, hf, hd, Option.toList_some, List.flatMap_singleton] at ht
    exact absurd (constantType_of_written ht hk) (by simp)
  | ofConstant hn hf hd hc hk hs =>
    simp only [hn, hf, hd, Option.toList_some, List.flatMap_singleton] at ht
    obtain rfl := Option.some.inj (constantType_of_written ht hk)
    exact ⟨_, List.mem_singleton_self _, hs⟩
  | ofVariable hn hf hd hc hk hs =>
    simp only [hn, hf, hd, Option.toList_some, List.flatMap_singleton] at ht
    obtain rfl := variableType_of_written ht hk
    exact ⟨_, List.mem_singleton_self _, hs⟩

/-- A shape mentions every type of the package that is written out for its symbol. -/
theorem mentions_of_written (h : site.Drafted source withMethods c d) {t : GoType} {name : String}
    {args : List GoType} (ht : t ∈ site.writtenTypes withMethods)
    (ho : (GoType.named site.target.importPath name args).Occurs t) :
    d.shape.Mentions site.target.importPath name := by
  obtain ⟨t', ht', hsettle⟩ := h.exists_settled ht
  obtain ⟨args', ho'⟩ := GoType.occurs_named_of_settle hsettle ho
  exact ⟨t', ht', args', ho'⟩

end Site.Drafted

/-- With more methods more types are written out. -/
theorem Site.writtenTypes_subset {before after : Bool} (hmore : before = true → after = true) :
    site.writtenTypes before ⊆ site.writtenTypes after := by
  have hmethods : ((site.methodsToKeep before).flatMap (·.signature.types)).Sublist
      ((site.methodsToKeep after).flatMap (·.signature.types)) := by
    cases before with
    | false => exact List.nil_sublist _
    | true => rw [hmore rfl]
  have hwider (params rest : List GoType) :
      params ++ ((site.methodsToKeep before).flatMap (·.signature.types) ++ rest) ⊆
        params ++ ((site.methodsToKeep after).flatMap (·.signature.types) ++ rest) :=
    ((hmethods.append (List.Sublist.refl rest)).append_left params).subset
  unfold writtenTypes
  split
  · unfold TypeDecl.writtenTypes
    split
    · exact List.Subset.refl _
    · split
      · exact List.Subset.refl _
      · exact hwider _ _
      · exact hwider _ _
  · exact List.Subset.refl _

end GoStub
