import GoStub.Proofs.Lookup
import GoStub.Proofs.Renderable
import GoStub.Shape.Plan

/-! Drafts: every way in which the shape of a symbol is made, and what all of them have in common.
-/

namespace GoStub

variable {source : Source} {site : Site} {withMethods : Bool} {d : Draft}

theorem settleParams_ok {params params' : List TypeParam}
    (h : settleParams site params = .ok params') :
    List.Forall₂ (fun p p' => p.constraint.settle site = .ok p'.constraint ∧ p'.name = p.name)
      params params' := by
  refine forall₂_of_cons (settleParams site) rfl (fun ⟨name, constraint⟩ params params' h => ?_) h
  obtain ⟨constraint', hc, h⟩ := Except.bind_eq_ok.mp h
  obtain ⟨rest, hrest, h⟩ := Except.bind_eq_ok.mp h
  exact ⟨⟨name, constraint'⟩, rest, ⟨hc, rfl⟩, hrest, (Except.pure_eq_ok.mp h).symm⟩

namespace Site

theorem methodRecords_ok {methods : List MethodDecl} {records : List DeclaredMethod}
    (h : site.methodRecords methods = .ok records) :
    List.Forall₂ (fun m r => m.signature.settle site = .ok r.signature ∧
      r = ⟨m.name, m.pointer, m.receiverParams, r.signature⟩) methods records := by
  refine forall₂_of_cons site.methodRecords rfl (fun m methods records h => ?_) h
  obtain ⟨signature, hs, h⟩ := Except.bind_eq_ok.mp h
  obtain ⟨rest, hrest, h⟩ := Except.bind_eq_ok.mp h
  exact ⟨⟨m.name, m.pointer, m.receiverParams, signature⟩, rest, ⟨hs, rfl⟩, hrest,
    (Except.pure_eq_ok.mp h).symm⟩

/-- The methods a type is made with. -/
def methodsToKeep (site : Site) (withMethods : Bool) : List MethodDecl :=
  if withMethods then site.target.exportedMethods site.symbol else []

/-- The drafts a symbol can have with the packages in `c` loaded, by the kind of its declaration. -/
inductive Drafted (source : Source) (site : Site) (withMethods : Bool) (c : Cache) : Draft → Prop
  | ofAlias {decl : TypeDecl} {params : List TypeParam} {underlying : GoType}
      (hd : site.target.types.get? site.symbol = some decl) (ha : decl.isAlias = true)
      (hp : settleParams site decl.params = .ok params)
      (hu : decl.type.settle site = .ok underlying) :
      Drafted source site withMethods c ⟨.named params underlying true [],
        needsOfParams site.own params ++ underlying.needs site.own⟩
  | ofInterface {decl : TypeDecl} {params : List TypeParam} {methods : List DeclaredMethod}
      {body flat settled : InterfaceBody} {c' : Cache}
      (hd : site.target.types.get? site.symbol = some decl) (ha : decl.isAlias = false)
      (ht : decl.type = .interface body) (hp : settleParams site decl.params = .ok params)
      (hm : site.methodRecords (site.methodsToKeep withMethods) = .ok methods)
      (hf : (methodSet source site stepLimit site.target body).Yields c flat c')
      (hs : flat.settle site = .ok settled) :
      Drafted source site withMethods c ⟨.interface params settled,
        needsOfParams site.own params ++ site.needsOfMethods methods ++ settled.needs site.own⟩
  | ofStruct {decl : TypeDecl} {params : List TypeParam} {methods : List DeclaredMethod}
      {fields settled : List Field}
      (hd : site.target.types.get? site.symbol = some decl) (ha : decl.isAlias = false)
      (ht : decl.type = .struct fields) (hp : settleParams site decl.params = .ok params)
      (hm : site.methodRecords (site.methodsToKeep withMethods) = .ok methods)
      (hs : settleFields site (fields.filter fun f => Name.isExported f.name) = .ok settled) :
      Drafted source site withMethods c ⟨.struct params settled methods,
        needsOfParams site.own params ++ site.needsOfMethods methods ++
          needsOfFields site.own settled⟩
  | ofOther {decl : TypeDecl} {params : List TypeParam} {methods : List DeclaredMethod}
      {underlying : GoType}
      (hd : site.target.types.get? site.symbol = some decl) (ha : decl.isAlias = false)
      (hi : ∀ body, decl.type ≠ .interface body) (ht : ∀ fields, decl.type ≠ .struct fields)
      (hp : settleParams site decl.params = .ok params)
      (hm : site.methodRecords (site.methodsToKeep withMethods) = .ok methods)
      (hu : decl.type.settle site = .ok underlying) :
      Drafted source site withMethods c ⟨.named params underlying false methods,
        needsOfParams site.own params ++ site.needsOfMethods methods ++ underlying.needs site.own⟩
  | ofFunction {decl : FunctionDecl} {params : List TypeParam} {signature : Signature}
      (hn : site.target.types.get? site.symbol = none)
      (hd : site.target.funcs.get? site.symbol = some decl)
      (hp : settleParams site decl.params = .ok params)
      (hs : decl.signature.settle site = .ok signature) :
      Drafted source site withMethods c ⟨.function params signature,
        needsOfParams site.own params ++ signature.needs site.own⟩
  | ofUntyped {decl : ValueBinding} {kind : ConstantKind} {c' : Cache}
      (hn : site.target.types.get? site.symbol = none)
      (hf : site.target.funcs.get? site.symbol = none)
      (hd : site.target.values.get? site.symbol = some decl) (hc : decl.constant = true)
      (hk : (constantType source site stepLimit site.target decl).Yields c (none, kind) c') :
      Drafted source site withMethods c ⟨.value none true (some kind), []⟩
  | ofConstant {decl : ValueBinding} {kind : ConstantKind} {type settled : GoType} {c' : Cache}
      (hn : site.target.types.get? site.symbol = none)
      (hf : site.target.funcs.get? site.symbol = none)
      (hd : site.target.values.get? site.symbol = some decl) (hc : decl.constant = true)
      (hk : (constantType source site stepLimit site.target decl).Yields c (some type, kind) c')
      (hs : type.settle site = .ok settled) :
      Drafted source site withMethods c ⟨.value (some settled) true (some kind),
        settled.needs site.own⟩
  | ofVariable {decl : ValueBinding} {type settled : GoType} {c' : Cache}
      (hn : site.target.types.get? site.symbol = none)
      (hf : site.target.funcs.get? site.symbol = none)
      (hd : site.target.values.get? site.symbol = some decl) (hc : decl.constant = false)
      (hk : (variableType source site stepLimit site.target decl).Yields c type c')
      (hs : type.settle site = .ok settled) :
      Drafted source site withMethods c ⟨.value (some settled) false none, settled.needs site.own⟩

open Lookup in
theorem drafted_of_shapeOfType {decl : TypeDecl} {c c' : Cache}
    (hd : site.target.types.get? site.symbol = some decl)
    (h : (site.shapeOfType source decl withMethods).Yields c d c') :
    site.Drafted source withMethods c d := by
  unfold shapeOfType at h
  obtain ⟨params, hp, h⟩ := yields_ofExcept_bind.mp h
  by_cases ha : decl.isAlias = true
  · rw [if_pos ha] at h
    obtain ⟨underlying, hu, h⟩ := yields_ofExcept_bind.mp h
    obtain ⟨rfl, rfl⟩ := yields_pure.mp h
    exact .ofAlias hd ha hp hu
  rw [if_neg ha] at h
  have ha : decl.isAlias = false := by simpa using ha
  obtain ⟨methods, hm, h⟩ := yields_ofExcept_bind.mp h
  obtain ⟨draft, c₃, hs, h⟩ := yields_bind.mp h
  obtain ⟨rfl, rfl⟩ := yields_pure.mp h
  unfold shapeOfDefined at hs
  split at hs
  next body ht =>
    obtain ⟨flat, c₄, hf, hs⟩ := yields_bind.mp hs
    obtain ⟨settled, hset, hs⟩ := yields_ofExcept_bind.mp hs
    obtain ⟨rfl, rfl⟩ := yields_pure.mp hs
    exact .ofInterface hd ha ht hp hm hf hset
  next fields ht =>
    obtain ⟨settled, hset, hs⟩ := yields_ofExcept_bind.mp hs
    obtain ⟨rfl, rfl⟩ := yields_pure.mp hs
    exact .ofStruct hd ha ht hp hm hset
  next hi ht =>
    obtain ⟨underlying, hu, hs⟩ := yields_ofExcept_bind.mp hs
    obtain ⟨rfl, rfl⟩ := yields_pure.mp hs
    exact .ofOther hd ha hi ht hp hm hu

open Lookup in
theorem drafted_of_shapeOfValue {decl : ValueBinding} {c c' : Cache}
    (hn : site.target.types.get? site.symbol = none)
    (hf : site.target.funcs.get? site.symbol = none)
    (hd : site.target.values.get? site.symbol = some decl)
    (h : (site.shapeOfValue source decl).Yields c d c') : site.Drafted source withMethods c d := by
  unfold shapeOfValue at h
  by_cases hc : decl.constant = true
  · rw [if_pos hc] at h
    obtain ⟨⟨type, kind⟩, c₁, hk, h⟩ := yields_bind.mp h
    cases type with
    | none =>
      obtain ⟨rfl, rfl⟩ := yields_pure.mp h
      exact .ofUntyped hn hf hd hc hk
    | some type =>
      obtain ⟨settled, hs, h⟩ := yields_ofExcept_bind.mp h
      obtain ⟨rfl, rfl⟩ := yields_pure.mp h
      exact .ofConstant hn hf hd hc hk hs
  · rw [if_neg hc] at h
    obtain ⟨type, c₁, hk, h⟩ := yields_bind.mp h
    obtain ⟨settled, hs, h⟩ := yields_ofExcept_bind.mp h
    obtain ⟨rfl, rfl⟩ := yields_pure.mp h
    exact .ofVariable hn hf hd (by simpa using hc) hk hs

open Lookup in
/-- Whatever draft is given is one of these. -/
theorem drafted_of_draft {c c' : Cache} (h : (site.draft source withMethods).Yields c d c') :
    site.Drafted source withMethods c d := by
  unfold draft at h
  split at h
  next decl hd => exact drafted_of_shapeOfType hd h
  next hn =>
    split at h
    next decl hd =>
      obtain ⟨params, hp, h⟩ := Except.bind_eq_ok.mp (yields_ofExcept.mp h).1
      obtain ⟨signature, hs, h⟩ := Except.bind_eq_ok.mp h
      obtain rfl := Except.pure_eq_ok.mp h
      exact .ofFunction hn hd hp hs
    next hf =>
      split at h
      next decl hd => exact drafted_of_shapeOfValue hn hf hd h
      next => exact absurd h not_yields_fail

end Site

theorem GoType.settled_of_forall₂ {ts ts' : List GoType}
    (h : List.Forall₂ (fun t t' => t.settle site = .ok t') ts ts') :
    ∀ t' ∈ ts', t'.Settled site.target := by
  intro t' ht'
  obtain ⟨t, -, ht⟩ := exists_of_forall₂ h ht'
  exact GoType.settled_of_settle ht

theorem settleParams_types {params params' : List TypeParam}
    (h : settleParams site params = .ok params') :
    List.Forall₂ (fun t t' => t.settle site = .ok t') (constraintTypes params)
      (constraintTypes params') :=
  List.rel_map (fun _ _ h => h.1) (settleParams_ok h)

theorem Site.methodRecords_types {methods : List MethodDecl} {records : List DeclaredMethod}
    (h : site.methodRecords methods = .ok records) :
    List.Forall₂ (fun t t' => t.settle site = .ok t') (methods.flatMap (·.signature.types))
      (methodTypes records) :=
  List.rel_flatMap (Site.methodRecords_ok h) fun _ _ h => Signature.settle_types h.1

theorem settleFields_types {fields fields' : List Field}
    (h : settleFields site fields = .ok fields') :
    List.Forall₂ (fun t t' => t.settle site = .ok t') (fields.map (·.type))
      (fields'.map (·.type)) :=
  List.rel_map (fun _ _ h => h.1) (settleFields_ok h)

theorem constraintTypes_settled {params params' : List TypeParam}
    (h : settleParams site params = .ok params') :
    ∀ t ∈ constraintTypes params', t.Settled site.target :=
  GoType.settled_of_forall₂ (settleParams_types h)

theorem methodTypes_settled {methods : List MethodDecl} {records : List DeclaredMethod}
    (h : site.methodRecords methods = .ok records) :
    ∀ t ∈ methodTypes records, t.Settled site.target :=
  GoType.settled_of_forall₂ (Site.methodRecords_types h)

theorem mem_needsOfParams_iff {own : String} {params : List TypeParam} {need : Need} :
    need ∈ needsOfParams own params ↔ ∃ t ∈ constraintTypes params, need ∈ t.needs own := by
  simp [needsOfParams, constraintTypes]

theorem Site.mem_needsOfMethods_iff {methods : List DeclaredMethod} {need : Need} :
    need ∈ site.needsOfMethods methods ↔ ∃ t ∈ methodTypes methods, need ∈ t.needs site.own := by
  simp only [Site.needsOfMethods, methodTypes, Signature.needs_eq, List.mem_flatMap]
  constructor
  · rintro ⟨m, hm, t, ht, h⟩
    exact ⟨t, ⟨m, hm, ht⟩, h⟩
  · rintro ⟨t, ⟨m, hm, ht⟩, h⟩
    exact ⟨m, hm, t, ht, h⟩

theorem mem_needsOfFields_iff {own : String} {fields : List Field} {need : Need} :
    need ∈ needsOfFields own fields ↔ (∃ t ∈ fields.map (·.type), need ∈ t.needs own) ∨
      ∃ f ∈ fields, f.embedded = true ∧ need ∈ Need.ofEmbedded own f.type := by
  simp only [needsOfFields_eq, List.mem_flatMap, List.mem_append, List.mem_map,
    exists_exists_and_eq_and]
  constructor
  · rintro ⟨f, hf, h | h⟩
    · exact Or.inl ⟨f, hf, h⟩
    · by_cases he : f.embedded = true
      · rw [if_pos he] at h
        exact Or.inr ⟨f, hf, he, h⟩
      · simp [he] at h
  · rintro (⟨f, hf, h⟩ | ⟨f, hf, he, h⟩)
    · exact ⟨f, hf, Or.inl h⟩
    · exact ⟨f, hf, Or.inr (by rwa [if_pos he])⟩

/-- No method is declared on a type that is declared as an interface. -/
def PackageScope.InterfacesBare (p : PackageScope) : Prop :=
  ∀ name decl body, p.types.get? name = some decl → decl.type = .interface body →
    p.methodsOf name = []

instance (p : PackageScope) : Decidable p.InterfacesBare :=
  decidable_of_iff (∀ name ∈ p.types.keys, ((p.types.get? name).all fun decl =>
      !decl.type matches .interface _ || (p.methodsOf name).isEmpty) = true) <| by
    constructor
    · intro h name decl body hdecl hbody
      have hkey : name ∈ p.types.keys := Dict.mem_keys_iff.mpr (Dict.contains_iff.mpr ⟨decl, hdecl⟩)
      simpa [hdecl, hbody] using h name hkey
    · intro h name _
      cases hdecl : p.types.get? name with
      | none => rfl
      | some decl =>
        cases hbody : decl.type with
        | interface body => simp [h name decl body hdecl hbody]
        | _ => simp [hbody]

theorem PackageScope.exportedMethods_of_bare {p : PackageScope} {name : String}
    (h : p.methodsOf name = []) : p.exportedMethods name = [] := by
  simp [PackageScope.exportedMethods, h]

/-- A method as it is declared with a type: its signature has the lengths written out. -/
noncomputable def PackageScope.inlineMethod (p : PackageScope) (m : MethodDecl) : DeclaredMethod :=
  ⟨m.name, m.pointer, m.receiverParams, m.signature.mapLengths p.inlineLength⟩

theorem Site.methodRecords_eq {methods : List MethodDecl} {records : List DeclaredMethod}
    (h : site.methodRecords methods = .ok records) :
    records = methods.map site.target.inlineMethod := by
  apply eq_map_of_forall₂ (Site.methodRecords_ok h)
  rintro m _ r ⟨hs, hr⟩
  rw [hr, GoType.eq_mapLengths_of_settleSignature hs, PackageScope.inlineMethod]

namespace Site.Drafted

variable {c : Cache}

theorem settled (h : site.Drafted source withMethods c d) :
    ∀ t ∈ d.shape.types, t.Settled site.target := by
  cases h with
  | ofAlias hd ha hp hu =>
    simp only [Shape.types, methodTypes, List.flatMap_nil, List.nil_append, List.forall_mem_append,
      List.forall_mem_singleton]
    exact ⟨constraintTypes_settled hp, GoType.settled_of_settle hu⟩
  | ofInterface hd ha ht hp hm hf hs =>
    simp only [Shape.types, List.forall_mem_append]
    exact ⟨constraintTypes_settled hp, GoType.settled_of_forall₂ (InterfaceBody.settle_types hs)⟩
  | ofStruct hd ha ht hp hm hs =>
    simp only [Shape.types, List.forall_mem_append]
    exact ⟨constraintTypes_settled hp, methodTypes_settled hm,
      GoType.settled_of_forall₂ (settleFields_types hs)⟩
  | ofOther hd ha hi ht hp hm hu =>
    simp only [Shape.types, List.forall_mem_append, List.forall_mem_singleton]
    exact ⟨constraintTypes_settled hp, methodTypes_settled hm, GoType.settled_of_settle hu⟩
  | ofFunction hn hd hp hs =>
    simp only [Shape.types, List.forall_mem_append]
    exact ⟨constraintTypes_settled hp, GoType.settled_of_forall₂ (Signature.settle_types hs)⟩
  | ofUntyped hn hf hd hc hk => simp [Shape.types]
  | ofConstant hn hf hd hc hk hs | ofVariable hn hf hd hc hk hs =>
    simp only [Shape.types, Option.toList_some, List.forall_mem_singleton]
    exact GoType.settled_of_settle hs

theorem valueComplete (h : site.Drafted source withMethods c d) : d.shape.ValueComplete := by
  cases h <;> simp [Shape.ValueComplete]

theorem declaresType (h : site.Drafted source withMethods c d)
    (ht : site.target.types.contains site.symbol = true) : d.shape.declaresType = true := by
  obtain ⟨decl, hdecl⟩ := Dict.contains_iff.mp ht
  cases h with
  | ofFunction hn | ofUntyped hn | ofConstant hn | ofVariable hn => simp [hdecl] at hn
  | _ => rfl

/-- What was met while the draft was made is what its shape needs, and what methods of an interface
type need: these are looked at but not kept. -/
theorem mem_needs_iff (h : site.Drafted source withMethods c d) :
    ∃ dropped : List GoType, (∀ t ∈ dropped, t.Settled site.target) ∧
      (site.target.InterfacesBare → dropped = []) ∧
      ∀ need, need ∈ d.needs ↔
        d.shape.Needs site.own need ∨ ∃ t ∈ dropped, need ∈ t.needs site.own := by
  cases h with
  | ofAlias hd ha hp hu =>
    refine ⟨[], by simp, fun _ => rfl, fun need => ?_⟩
    simp [Shape.Needs, Shape.types, Shape.fields, methodTypes, mem_needsOfParams_iff, or_and_right,
      exists_or]
  | @ofInterface decl params methods body flat settled c' hd ha ht hp hm hf hs =>
    refine ⟨methodTypes methods, methodTypes_settled hm, fun hb => ?_, fun need => ?_⟩
    · have hnone : site.methodsToKeep withMethods = [] := by
        unfold Site.methodsToKeep
        split
        · exact PackageScope.exportedMethods_of_bare (hb _ _ _ hd ht)
        · rfl
      rw [Site.methodRecords_eq hm, hnone]
      rfl
    · simp only [List.mem_append, mem_needsOfParams_iff, Site.mem_needsOfMethods_iff,
        InterfaceBody.needs_eq, List.mem_flatMap, Shape.Needs, Shape.types, Shape.fields,
        List.not_mem_nil, false_and, exists_false, or_false, or_and_right, exists_or]
      exact or_right_comm
  | ofStruct hd ha ht hp hm hs =>
    refine ⟨[], by simp, fun _ => rfl, fun need => ?_⟩
    simp only [List.mem_append, mem_needsOfParams_iff, Site.mem_needsOfMethods_iff,
      mem_needsOfFields_iff, Shape.Needs, Shape.types, Shape.fields, List.not_mem_nil, false_and,
      exists_false, or_false, or_and_right, exists_or, or_assoc]
  | ofOther hd ha hi ht hp hm hu =>
    refine ⟨[], by simp, fun _ => rfl, fun need => ?_⟩
    simp only [List.mem_append, mem_needsOfParams_iff, Site.mem_needsOfMethods_iff, Shape.Needs,
      Shape.types, Shape.fields, List.mem_singleton, List.not_mem_nil, false_and, exists_false,
      or_false, or_and_right, exists_or, exists_eq_left, or_assoc]
  | ofFunction hn hd hp hs =>
    refine ⟨[], by simp, fun _ => rfl, fun need => ?_⟩
    simp [Signature.needs_eq, mem_needsOfParams_iff, Shape.Needs, Shape.types, Shape.fields,
      or_and_right, exists_or]
  | ofUntyped hn hf hd hc hk =>
    exact ⟨[], by simp, fun _ => rfl, fun need => by simp [Shape.Needs, Shape.types, Shape.fields]⟩
  | ofConstant hn hf hd hc hk hs | ofVariable hn hf hd hc hk hs =>
    exact ⟨[], by simp, fun _ => rfl, fun need => by simp [Shape.Needs, Shape.types, Shape.fields]⟩

theorem mem_needs_of_shape (h : site.Drafted source withMethods c d) {need : Need}
    (hn : d.shape.Needs site.own need) : need ∈ d.needs := by
  obtain ⟨dropped, -, -, hiff⟩ := h.mem_needs_iff
  exact (hiff need).mpr (Or.inl hn)

theorem shape_needs_of_bare (h : site.Drafted source withMethods c d)
    (hb : site.target.InterfacesBare) {need : Need} (hn : need ∈ d.needs) :
    d.shape.Needs site.own need := by
  obtain ⟨dropped, -, hnil, hiff⟩ := h.mem_needs_iff
  rcases (hiff need).mp hn with hs | ⟨t, ht, -⟩
  · exact hs
  · simp [hnil hb] at ht

theorem declared_of_promoted (h : site.Drafted source withMethods c d) {name : String}
    (hn : Need.promoted name ∈ d.needs) : Need.declared name ∈ d.needs := by
  obtain ⟨dropped, -, -, hiff⟩ := h.mem_needs_iff
  rcases (hiff _).mp hn with hs | ⟨t, ht, hs⟩
  · exact (hiff _).mpr (Or.inl (Shape.needs_declared_of_promoted hs))
  · exact (hiff _).mpr (Or.inr ⟨t, ht, GoType.declared_mem_needs_of_promoted hs⟩)

/-- Every type of the package that is met is one the package declares. -/
theorem declared_known (h : site.Drafted source withMethods c d) {name : String}
    (hn : Need.declared name ∈ d.needs) : site.target.types.contains name = true := by
  have hknown (t : GoType) (ht : t.Settled site.target)
      (hn : Need.declared name ∈ t.needs site.own) :
      site.target.types.contains name = true := by
    obtain ⟨args, ho⟩ := GoType.declared_mem_needs_iff.mp hn
    simpa [GoType.SettledHere, Site.own] using ht _ ho
  obtain ⟨dropped, hdropped, -, hiff⟩ := h.mem_needs_iff
  rcases (hiff _).mp hn with hs | ⟨t, ht, hs⟩
  · obtain ⟨t, ht, args, ho⟩ := Shape.needs_declared_iff.mp hs
    exact hknown t (h.settled t ht) (GoType.declared_mem_needs_iff.mpr ⟨args, ho⟩)
  · exact hknown t (hdropped t ht) hs

/-- What is no type has no methods. -/
theorem withoutMethods_eq (h : site.Drafted source withMethods c d)
    (hn : site.target.types.get? site.symbol = none) : d.shape.withoutMethods = d.shape := by
  cases h with
  | ofAlias hd | ofInterface hd | ofStruct hd | ofOther hd => simp [hn] at hd
  | ofFunction | ofUntyped | ofConstant | ofVariable => rfl

/-- A defined type that is no interface is made with just the methods to keep. -/
theorem methods_eq (h : site.Drafted source withMethods c d) {decl : TypeDecl}
    (hdecl : site.target.types.get? site.symbol = some decl) (halias : decl.isAlias = false)
    (hface : ∀ body, decl.type ≠ .interface body) :
    d.shape.methods = (site.methodsToKeep withMethods).map site.target.inlineMethod := by
  cases h with
  | ofAlias hd ha =>
    obtain rfl := Option.some.inj (hdecl.symm.trans hd)
    simp [halias] at ha
  | ofInterface hd ha ht =>
    obtain rfl := Option.some.inj (hdecl.symm.trans hd)
    exact absurd ht (hface _)
  | ofStruct hd ha ht hp hm hs => exact Site.methodRecords_eq hm
  | ofOther hd ha hi ht hp hm hu => exact Site.methodRecords_eq hm
  | ofFunction hn | ofUntyped hn | ofConstant hn | ofVariable hn => simp [hdecl] at hn

end Site.Drafted

namespace Site

open Lookup

section Compositional

variable {K : (α : Type) → Lookup α → Prop}

theorem failsAt_methodRecords (site : Site) (methods : List MethodDecl) :
    FailsAt site (site.methodRecords methods) := by
  induction methods with
  | nil => exact failsAt_ok _
  | cons m methods ih => exact m.signature.failsAt_settle.cons ih

theorem failsAt_shapeOfFunction (site : Site) (decl : FunctionDecl) :
    FailsAt site (site.shapeOfFunction decl) :=
  (failsAt_settleParams decl.params).bind fun _ =>
    decl.signature.failsAt_settle.bind fun _ => failsAt_ok _

theorem holds_shapeOfDefined (hk : Compositional source site K) (params : List TypeParam)
    (methods : List DeclaredMethod) (type : GoType) :
    K _ (site.shapeOfDefined source params methods type) := by
  unfold shapeOfDefined
  split
  · exact hk.bind (hk.holds_methodSet _ _ _) fun flat =>
      hk.bind (hk.ofExcept flat.failsAt_settle) fun _ => hk.holds_pure _
  · exact hk.bind (hk.ofExcept (failsAt_settleFields _)) fun _ => hk.holds_pure _
  · exact hk.bind (hk.ofExcept (GoType.failsAt_settle _)) fun _ => hk.holds_pure _

theorem holds_shapeOfType (hk : Compositional source site K) (decl : TypeDecl) :
    K _ (site.shapeOfType source decl withMethods) := by
  unfold shapeOfType
  refine hk.bind (hk.ofExcept (failsAt_settleParams _)) fun params => ?_
  split
  · exact hk.bind (hk.ofExcept (GoType.failsAt_settle _)) fun _ => hk.holds_pure _
  · exact hk.bind (hk.ofExcept (site.failsAt_methodRecords _)) fun methods =>
      hk.bind (holds_shapeOfDefined hk params methods decl.type) fun _ => hk.holds_pure _

theorem holds_shapeOfValue (hk : Compositional source site K) (decl : ValueBinding) :
    K _ (site.shapeOfValue source decl) := by
  unfold shapeOfValue
  split
  · refine hk.bind (hk.holds_constantType _ _ _) fun ⟨type, kind⟩ => ?_
    cases type with
    | none => exact hk.holds_pure _
    | some type => exact hk.bind (hk.ofExcept type.failsAt_settle) fun _ => hk.holds_pure _
  · exact hk.bind (hk.holds_variableType _ _ _) fun type =>
      hk.bind (hk.ofExcept type.failsAt_settle) fun _ => hk.holds_pure _

theorem holds_draft (hk : Compositional source site K) : K _ (site.draft source withMethods) := by
  unfold draft
  split
  · exact holds_shapeOfType hk _
  · split
    · exact hk.ofExcept (site.failsAt_shapeOfFunction _)
    · split
      · exact holds_shapeOfValue hk _
      · exact hk.holds_missing _ _

end Compositional

/-- With a consistent source the draft of a symbol does not depend on what was loaded before. -/
theorem steady_draft (hs : source.Consistent) : Steady source (site.draft source withMethods) :=
  holds_draft (compositional_steady hs)

variable {c c₀ c' c₀' : Cache} {d₀ : Draft}

theorem shapeOfDefined_without_methods {params : List TypeParam} {methods : List DeclaredMethod}
    {type : GoType} (h : (site.shapeOfDefined source params methods type).Yields c d c') :
    ∃ d₀, (site.shapeOfDefined source params [] type).Yields c d₀ c' ∧ d₀.needs = d.needs ∧
      d₀.shape = d.shape.withoutMethods := by
  unfold shapeOfDefined at h ⊢
  split at h
  next body =>
    obtain ⟨flat, c₁, hf, h⟩ := yields_bind.mp h
    obtain ⟨settled, hs, h⟩ := yields_ofExcept_bind.mp h
    obtain ⟨rfl, rfl⟩ := yields_pure.mp h
    exact ⟨_, yields_bind.mpr ⟨flat, _, hf, yields_ofExcept_bind.mpr ⟨settled, hs,
      yields_pure.mpr ⟨rfl, rfl⟩⟩⟩, rfl, rfl⟩
  next fields =>
    obtain ⟨settled, hs, h⟩ := yields_ofExcept_bind.mp h
    obtain ⟨rfl, rfl⟩ := yields_pure.mp h
    exact ⟨⟨.struct params settled [], needsOfFields site.own settled⟩,
      yields_ofExcept_bind.mpr ⟨settled, hs, yields_pure.mpr ⟨rfl, rfl⟩⟩, rfl, rfl⟩
  next =>
    obtain ⟨underlying, hu, h⟩ := yields_ofExcept_bind.mp h
    obtain ⟨rfl, rfl⟩ := yields_pure.mp h
    exact ⟨⟨.named params underlying false [], underlying.needs site.own⟩,
      yields_ofExcept_bind.mpr ⟨underlying, hu, yields_pure.mpr ⟨rfl, rfl⟩⟩, rfl, rfl⟩

/-- A symbol that can be drafted with methods can be drafted without them; all else in its shape is
the same, and methods only add to what the draft needs. -/
theorem draft_without_methods (h : (site.draft source true).Yields c d c') :
    ∃ d₀ c₀', (site.draft source false).Yields c d₀ c₀' ∧ d₀.needs ⊆ d.needs ∧
      d₀.shape = d.shape.withoutMethods := by
  have hdrafted := drafted_of_draft h
  unfold draft at h ⊢
  split at h
  next decl hdecl =>
    unfold shapeOfType at h ⊢
    obtain ⟨params, hp, h⟩ := yields_ofExcept_bind.mp h
    by_cases ha : decl.isAlias = true
    · simp only [ha, ↓reduceIte] at h ⊢
      obtain ⟨underlying, hu, h⟩ := yields_ofExcept_bind.mp h
      obtain ⟨rfl, rfl⟩ := yields_pure.mp h
      exact ⟨_, c, yields_ofExcept_bind.mpr ⟨params, hp, yields_ofExcept_bind.mpr ⟨underlying, hu,
        yields_pure.mpr ⟨rfl, rfl⟩⟩⟩, List.Subset.refl _, rfl⟩
    · rw [if_neg ha] at h
      obtain ⟨methods, hm, h⟩ := yields_ofExcept_bind.mp h
      obtain ⟨draft, c₁, hd, h⟩ := yields_bind.mp h
      obtain ⟨rfl, rfl⟩ := yields_pure.mp h
      obtain ⟨draft₀, hd₀, hneeds, hshape⟩ := shapeOfDefined_without_methods hd
      refine ⟨{ draft₀ with needs := needsOfParams site.own params ++ draft₀.needs }, c₁,
        yields_ofExcept_bind.mpr ⟨params, hp, ?_⟩, ?_, hshape⟩
      · rw [if_neg ha]
        exact yields_ofExcept_bind.mpr ⟨[], rfl, yields_bind.mpr ⟨draft₀, c₁, hd₀,
          yields_pure.mpr ⟨by simp [needsOfMethods], rfl⟩⟩⟩
      · intro need hneed
        simp only [hneeds, List.mem_append] at hneed ⊢
        exact hneed.imp_left Or.inl
  next hn => exact ⟨d, c', h, List.Subset.refl _, (hdrafted.withoutMethods_eq hn).symm⟩

/-- A draft made again, with methods if it had them, is as it was but for methods. -/
theorem shape_of_remade {before after : Bool} (hs : source.Consistent) (hc₀ : Agrees source c₀)
    (hc : Agrees source c) (hmore : before = true → after = true)
    (h₀ : (site.draft source before).Yields c₀ d₀ c₀')
    (h : (site.draft source after).Yields c d c') : d.shape.Extends d₀.shape := by
  obtain ⟨c₁, h₁⟩ := (steady_draft hs).transfer hc₀ hc h₀
  by_cases heq : before = after
  · subst heq
    exact Or.inl (congrArg Draft.shape (h₁.unique h))
  · cases before with
    | true => exact absurd (hmore rfl) (Ne.symm heq)
    | false =>
      obtain rfl : after = true := by simpa using Ne.symm heq
      obtain ⟨d₁, c₁', h₁', -, hshape⟩ := draft_without_methods h
      rw [h₁.unique h₁']
      exact Or.inr hshape

end Site

end GoStub
