import GoStub.Proofs.Restatement

/-! A package in the place of another whose plan it restates: every symbol it declares has a draft
again, of the shape that its record has. -/

namespace GoStub

open Lookup

theorem List.filter_not_append_filter {α : Type} {f : α → Bool} {l : List α}
    (h : l.Pairwise fun a b => f a = true → f b = true) :
    l.filter (fun a => !f a) ++ l.filter f = l := by
  induction l with
  | nil => rfl
  | cons a l ih =>
    obtain ⟨ha, hl⟩ := List.pairwise_cons.mp h
    cases hfa : f a with
    | false => simp [hfa, ih hl]
    | true =>
      have hall (b : α) (hb : b ∈ l) : f b = true := ha b hb hfa
      have hnone : l.filter (fun a => !f a) = [] := by simpa using hall
      have hself : l.filter f = l := List.filter_eq_self.mpr hall
      simp [hfa, hnone, hself]

theorem Dict.ofList_of_sorted {α : Type} {entries : List (String × α)}
    (h : (entries.map (·.1)).Pairwise (· < ·)) : Dict.ofList entries = ⟨entries⟩ := by
  have hsorted : (⟨entries⟩ : Dict α).Sorted := h
  refine Dict.ext_of_get? (Dict.sorted_ofList entries) hsorted fun key => ?_
  cases hget : (Dict.ofList entries).get? key with
  | some value => exact (hsorted.mem_entries_iff.mp (Dict.mem_of_get?_ofList hget)).symm
  | none =>
    cases hget' : (⟨entries⟩ : Dict α).get? key with
    | none => rfl
    | some value =>
      have hmem : (key, value) ∈ entries := hsorted.mem_entries_iff.mpr hget'
      have hcontains := Dict.contains_ofList.mpr ⟨value, hmem⟩
      simp [Dict.contains, hget] at hcontains

section Values

variable {source : Source} {site : Site} {c c' : Cache}

/-- The kind of a typed constant was looked up at its type. -/
theorem constantKind_of_constantType (hs : source.Consistent) {depth : Nat}
    {package : PackageScope} {decl : ValueBinding} {type : GoType} {kind : ConstantKind}
    (hc : Agrees source c)
    (h : (constantType source site depth package decl).Yields c (some type, kind) c') :
    ∃ c₁ c₂, Agrees source c₁ ∧ (constantKind source site stepLimit type).Yields c₁ kind c₂ := by
  induction depth generalizing package decl c with
  | zero => exact absurd h not_yields_fail
  | succ depth ih =>
    unfold constantType at h
    split at h
    · obtain ⟨kind', c₁, hkind, h⟩ := yields_bind.mp h
      obtain ⟨heq, -⟩ := yields_pure.mp h
      cases heq
      exact ⟨c, c₁, hc, hkind⟩
    · obtain ⟨heq, -⟩ := yields_pure.mp h
      cases heq
    · split at h
      · exact absurd h not_yields_fail
      · exact ih hc h
    · obtain ⟨owner, c₁, howner, h⟩ := yields_bind.mp h
      split at h
      · exact absurd h not_yields_fail
      · exact ih ((steady_packageAt hs _).agrees hc howner) h
    · obtain ⟨target, c₁, htarget, h⟩ := yields_bind.mp h
      split at h
      · exact absurd h not_yields_fail
      · obtain ⟨kind', c₂, hkind, h⟩ := yields_bind.mp h
        obtain ⟨heq, -⟩ := yields_pure.mp h
        cases heq
        exact ⟨c₁, c₂, (steady_conversionTarget hs _ _).agrees hc htarget, hkind⟩
    · exact absurd h not_yields_fail

end Values

section Interfaces

variable {source : Source} {site : Site}

/-- Elements that are named types behind which there is no interface all go to the type sets. -/
theorem returns_addEmbedded_plain (hs : source.Consistent)
    {inner : PackageScope → InterfaceBody → Lookup InterfaceBody} {types : List GoType}
    (h : ∀ t ∈ types, ∃ path name args q, t = .named path name args ∧
      site.packageOf source path = .ok q ∧
      Returns source (interfaceBehind source site stepLimit q name args) none) (m : MethodSet) :
    Returns source (addEmbedded source site inner site.target types m)
      ⟨m.methods, m.typeSets ++ types⟩ := by
  induction types generalizing m with
  | nil =>
    rw [List.append_nil]
    exact returns_pure m
  | cons t types ih =>
    obtain ⟨⟨path, name, args, q, rfl, hq, hbehind⟩, hrest⟩ := List.forall_mem_cons.mp h
    rw [addEmbedded]
    have hfound := ih hrest (m.addTypeSet (.named path name args))
    rw [MethodSet.addTypeSet, List.append_assoc, List.singleton_append] at hfound
    split
    next hown =>
      rw [hown, Site.packageOf_own] at hq
      cases hq
      exact (returns_pure _).bind (hbehind.bind hfound)
    next => exact (returns_packageAt hs hq).bind (hbehind.bind hfound)

/-- Flat interfaces are those a method set gives: they embed nothing, and their methods are exported
and in the order of their names. -/
structure InterfaceBody.Flat (b : InterfaceBody) : Prop where
  embedded : b.embedded = []
  sorted : (b.methods.map (·.name)).Pairwise (· < ·)
  exported : ∀ m ∈ b.methods, Name.isExported m.name = true

theorem InterfaceBody.Flat.toBody_reread {b : InterfaceBody} (h : b.Flat) (hordered : b.Ordered) :
    MethodSet.toBody ⟨(MethodSet.ofBody b.reread).methods,
      (MethodSet.ofBody b.reread).typeSets ++ b.reread.embedded⟩ = b := by
  obtain ⟨methods, embedded, typeSets⟩ := b
  obtain rfl : embedded = [] := h.embedded
  have hmethods : Dict.ofList ((methods.filter fun m => Name.isExported m.name).map
      fun m => (m.name, m.signature)) = ⟨methods.map fun m => (m.name, m.signature)⟩ := by
    rw [List.filter_eq_self.mpr h.exported]
    exact Dict.ofList_of_sorted (by simpa [Function.comp_def] using h.sorted)
  have hself : (fun e : String × Signature => (⟨e.1, e.2⟩ : Method)) ∘
      (fun m : Method => (m.name, m.signature)) = id := by
    funext m
    cases m
    rfl
  simp only [MethodSet.toBody, MethodSet.ofBody, reread, hmethods, List.map_map, List.nil_append,
    List.filter_not_append_filter hordered, hself, List.map_id]

/-- An interface read again from its members has the method set it was: its methods are there, and
no member is an interface that could be written out. -/
theorem returns_methodSet_reread (hs : source.Consistent) {body : InterfaceBody} {depth : Nat}
    (hflat : body.Flat) (hordered : body.Ordered)
    (h : ∀ t ∈ body.typeSets, t.isEmbeddable = true → ∃ path name args q,
      t = .named path name args ∧ site.packageOf source path = .ok q ∧
      Returns source (interfaceBehind source site stepLimit q name args) none) :
    Returns source (methodSet source site (depth + 1) site.target body.reread) body := by
  have hplain (t : GoType) (ht : t ∈ body.reread.embedded) := by
    rw [InterfaceBody.reread, hflat.embedded, List.nil_append] at ht
    exact h t (List.mem_filter.mp ht).1 (List.mem_filter.mp ht).2
  refine (returns_addEmbedded_plain hs hplain _).bind ?_
  rw [hflat.toBody_reread hordered]
  exact returns_pure body

end Interfaces

section Flattening

variable {source : Source} {site : Site} {c c' : Cache} {body flat settled : InterfaceBody}

theorem flat_of_methodSet (hs : source.Consistent) {depth : Nat} (hc : Agrees source c)
    (h : (methodSet source site depth site.target body).Yields c flat c') : flat.Flat := by
  obtain ⟨m, hgathers, rfl⟩ :=
    gathersEach_methodSet hs depth site.target body c flat c' Site.packageOf_own hc h
  refine ⟨rfl, ?_, fun method hmethod => ?_⟩
  · rw [MethodSet.names_toBody]
    exact hgathers.sorted
  · obtain ⟨name, signature⟩ := method
    have hget := (MethodSet.mem_toBody_iff hgathers.sorted).mp hmethod
    exact (hgathers.supplied name signature hget).isExported

theorem InterfaceBody.Flat.settle (h : flat.Flat) (hs : flat.settle site = .ok settled) :
    settled.Flat := by
  obtain ⟨hm, he, -⟩ := InterfaceBody.settle_ok hs
  have hnames : settled.methods.map (·.name) = flat.methods.map (·.name) := by
    have hall := List.rel_map (fun _ _ h => h.2.symm) (settleMethods_ok hm)
    exact (List.forall₂_eq_eq_eq ▸ hall).symm
  refine ⟨?_, hnames ▸ h.sorted, fun m hmem => ?_⟩
  · rw [h.embedded] at he
    exact (Except.ok.inj he).symm
  · obtain ⟨m', hm', -, hname⟩ := exists_of_forall₂ (settleMethods_ok hm) hmem
    exact hname ▸ h.exported m' hm'

theorem Sifted.settle (h : Sifted source site flat.typeSets)
    (hs : flat.settle site = .ok settled) : ∀ t ∈ settled.typeSets, t.isEmbeddable = true →
      ∃ path name args q args' c c', t = .named path name args ∧
        site.packageOf source path = .ok q ∧ Agrees source c ∧
        (interfaceBehind source site stepLimit q name args').Yields c none c' := by
  intro t ht hembeddable
  obtain ⟨-, -, htypes⟩ := InterfaceBody.settle_ok hs
  obtain ⟨u, hu, hsettle⟩ := exists_of_forall₂ (settleAll_ok htypes) ht
  have hhead := GoType.head_settle hsettle
  have hu' : u.isEmbeddable = true := by
    rw [← hembeddable, GoType.isEmbeddable_of_head hhead]
  obtain ⟨path, name, args, q, c, c', rfl, hq, hc, hbehind⟩ := h u hu hu'
  obtain ⟨args', rfl⟩ := GoType.eq_named_of_head hhead
  exact ⟨path, name, args', q, args, c, c', rfl, hq, hc, hbehind⟩

end Flattening

section Shapes

variable {source : Source} {site : Site} {withMethods : Bool}

theorem Site.returns_shapeOfAlias (decl : TypeDecl) (ha : decl.isAlias = true)
    (hp : settleParams site decl.params = .ok decl.params)
    (hu : decl.type.settle site = .ok decl.type) :
    ∃ d, Returns source (site.shapeOfType source decl withMethods) d ∧
      d.shape = .named decl.params decl.type true [] := by
  refine ⟨⟨.named decl.params decl.type true [], needsOfParams site.own decl.params ++
    decl.type.needs site.own⟩, (returns_ofExcept hp).bind ?_, rfl⟩
  rw [if_pos ha]
  exact (returns_ofExcept hu).bind (returns_pure _)

theorem Site.returns_shapeOfType (decl : TypeDecl) {methods : List DeclaredMethod} {d : Draft}
    (ha : decl.isAlias = false) (hp : settleParams site decl.params = .ok decl.params)
    (hm : site.methodRecords (if withMethods then site.target.exportedMethods site.symbol else []) =
      .ok methods)
    (h : Returns source (site.shapeOfDefined source decl.params methods decl.type) d) :
    ∃ d', Returns source (site.shapeOfType source decl withMethods) d' ∧ d'.shape = d.shape := by
  refine ⟨{ d with needs := needsOfParams site.own decl.params ++ site.needsOfMethods methods ++
    d.needs }, (returns_ofExcept hp).bind ?_, rfl⟩
  rw [if_neg (by simp [ha])]
  exact (returns_ofExcept hm).bind (h.bind (returns_pure _))

theorem Site.returns_shapeOfInterface {params : List TypeParam} {methods : List DeclaredMethod}
    {body flat : InterfaceBody}
    (hf : Returns source (methodSet source site stepLimit site.target body) flat)
    (hs : flat.settle site = .ok flat) :
    Returns source (site.shapeOfDefined source params methods (.interface body))
      ⟨.interface params flat, flat.needs site.own⟩ :=
  hf.bind ((returns_ofExcept hs).bind (returns_pure _))

theorem exported_of_settleFields {fields settled : List Field}
    (h : settleFields site (fields.filter fun f => Name.isExported f.name) = .ok settled) :
    ∀ f ∈ settled, Name.isExported f.name = true := by
  intro f hf
  obtain ⟨f', hf', -, heq⟩ := exists_of_forall₂ (settleFields_ok h) hf
  rw [heq]
  exact (List.mem_filter.mp hf').2

theorem Site.returns_shapeOfStruct {params : List TypeParam} {methods : List DeclaredMethod}
    {fields : List Field} (hexported : ∀ f ∈ fields, Name.isExported f.name = true)
    (hs : settleFields site fields = .ok fields) :
    Returns source (site.shapeOfDefined source params methods (.struct fields))
      ⟨.struct params fields methods, needsOfFields site.own fields⟩ := by
  rw [← List.filter_eq_self.mpr hexported] at hs
  refine (returns_ofExcept hs).bind ?_
  rw [List.filter_eq_self.mpr hexported]
  exact returns_pure _

theorem Site.returns_shapeOfOther {params : List TypeParam} {methods : List DeclaredMethod}
    {type : GoType} (hi : ∀ body, type ≠ .interface body) (ht : ∀ fields, type ≠ .struct fields)
    (hs : type.settle site = .ok type) :
    Returns source (site.shapeOfDefined source params methods type)
      ⟨.named params type false methods, type.needs site.own⟩ := by
  cases type with
  | interface body => exact absurd rfl (hi body)
  | struct fields => exact absurd rfl (ht fields)
  | _ => exact (returns_ofExcept hs).bind (returns_pure _)

/-- Settling makes no interface and no struct of another type. -/
theorem GoType.kind_of_settle {t t' : GoType} (h : t.settle site = .ok t')
    (hi : ∀ body, t ≠ .interface body) (ht : ∀ fields, t ≠ .struct fields) :
    (∀ body, t' ≠ .interface body) ∧ ∀ fields, t' ≠ .struct fields := by
  rw [eq_mapLengths_of_settle h]
  cases t with
  | interface body => exact absurd rfl (hi body)
  | struct fields => exact absurd rfl (ht fields)
  | _ => simp [mapLengths]

theorem returns_constantType_basic {package : PackageScope} {b : ValueBinding} {kind : ConstantKind}
    (ht : b.type = none) (hi : b.init = some (.basic kind)) :
    Returns source (constantType source site stepLimit package b) (none, kind) := by
  rw [stepLimit, constantType, ht, hi]
  exact returns_pure _

theorem returns_constantType_typed {package : PackageScope} {b : ValueBinding} {type : GoType}
    {kind : ConstantKind} (ht : b.type = some type)
    (hk : Returns source (constantKind source site stepLimit type) kind) :
    Returns source (constantType source site stepLimit package b) (some type, kind) := by
  rw [stepLimit, constantType, ht]
  exact hk.bind (returns_pure _)

theorem Site.returns_shapeOfConstant {b : ValueBinding} {type : Option GoType} {kind : ConstantKind}
    (hb : b.constant = true)
    (hk : Returns source (constantType source site stepLimit site.target b) (type, kind))
    (hs : ∀ t ∈ type, t.settle site = .ok t) :
    ∃ d, Returns source (site.shapeOfValue source b) d ∧
      d.shape = .value type true (some kind) := by
  unfold shapeOfValue
  rw [if_pos hb]
  cases type with
  | none => exact ⟨_, hk.bind (returns_pure _), rfl⟩
  | some type => exact ⟨_, hk.bind ((returns_ofExcept (hs type rfl)).bind (returns_pure _)), rfl⟩

theorem Site.returns_shapeOfVariable {b : ValueBinding} {type : GoType} (hb : b.constant = false)
    (ht : b.type = some type) (hs : type.settle site = .ok type) :
    ∃ d, Returns source (site.shapeOfValue source b) d ∧
      d.shape = .value (some type) false none := by
  have hv : Returns source (variableType source site stepLimit site.target b) type := by
    rw [stepLimit, variableType, ht]
    exact returns_pure type
  unfold shapeOfValue
  rw [if_neg (by simp [hb])]
  exact ⟨_, hv.bind ((returns_ofExcept hs).bind (returns_pure _)), rfl⟩

end Shapes

/-- The package `s` restates the plan `p` of `target`, and can be put in its place: the packages
that the plan imports do not lead back, declarations are regular, and the interfaces of the plan are
ordered. -/
structure PackageScope.Replaces (s : PackageScope) (source : Source) (target : PackageScope)
    (p : StubPlan) : Prop where
  consistent : source.Consistent
  target_eq : source target.importPath = .ok target
  regular : ∀ path q, source path = .ok q → q.Regular
  acyclic : ∀ path, p.imports.contains path = true → ¬ source.Leads target.importPath path
  ordered : ∀ r ∈ p.records, ∀ params body, r.shape = .interface params body → body.Ordered
  completes : p.Completes source target
  restates : s.Restates p

/-- The types that are looked through for a plan: those it declares, and those of packages that do
not lead back to its own. -/
def StubPlan.Keeps (source : Source) (own : String) (p : StubPlan) (path name : String) : Prop :=
  path = own ∧ (∃ r ∈ p.records, r.name = name) ∨ path ≠ own ∧ ¬ source.Leads own path

namespace PackageScope.Replaces

variable {s target : PackageScope} {source : Source} {p : StubPlan} {r : Record}

theorem importPath_eq (h : s.Replaces source target p) : s.importPath = target.importPath :=
  h.restates.importPath.trans h.completes.package

theorem consistent_replacing (h : s.Replaces source target p) :
    (source.replacing target.importPath s).Consistent :=
  h.consistent.replacing h.importPath_eq

theorem eq_of_name (h : s.Replaces source target p) {r' : Record} (hr : r ∈ p.records)
    (hr' : r' ∈ p.records) (hname : r'.name = r.name) : r' = r :=
  List.inj_on_of_nodup_map h.completes.nodup hr' hr hname

theorem types_get? (h : s.Replaces source target p) (hr : r ∈ p.records) :
    s.types.get? r.name = r.shape.typeDecl? r.name := by
  refine Option.ext fun decl => (h.restates.types r.name decl).trans ?_
  constructor
  · rintro ⟨r', hr', hname, hdecl⟩
    rwa [h.eq_of_name hr hr' hname] at hdecl
  · exact fun hdecl => ⟨r, hr, rfl, hdecl⟩

theorem funcs_get? (h : s.Replaces source target p) (hr : r ∈ p.records) :
    s.funcs.get? r.name = r.shape.functionDecl? r.name := by
  refine Option.ext fun decl => (h.restates.funcs r.name decl).trans ?_
  constructor
  · rintro ⟨r', hr', hname, hdecl⟩
    rwa [h.eq_of_name hr hr' hname] at hdecl
  · exact fun hdecl => ⟨r, hr, rfl, hdecl⟩

theorem exists_typeDecl (h : s.Replaces source target p) (hr : r ∈ p.records) {decl : TypeDecl}
    (hdecl : target.types.get? r.name = some decl) :
    ∃ decl', s.types.get? r.name = some decl' ∧ decl'.isAlias = decl.isAlias ∧
      decl'.type.head = decl.type.head ∧
      ∀ next nextName, decl.type.head = .named next nextName → decl'.type ∈ r.shape.types := by
  obtain ⟨withMethods, c, d, -, hd, hshape⟩ := h.completes.drafted r hr
  rw [h.types_get? hr, hshape]
  exact hd.exists_typeDecl hdecl

/-- A named type that a record has is looked through. -/
theorem keeps_of_head (h : s.Replaces source target p) (hr : r ∈ p.records) {t : GoType}
    (ht : t ∈ r.shape.types) {path name : String} (hhead : t.head = .named path name) :
    p.Keeps source target.importPath path name := by
  obtain ⟨args, rfl⟩ := GoType.eq_named_of_head hhead
  by_cases hpath : path = target.importPath
  · subst hpath
    exact Or.inl ⟨rfl, h.completes.closed r hr name ⟨_, ht, args, .here⟩⟩
  · exact Or.inr ⟨hpath, h.acyclic path (h.completes.imported r hr path hpath _ ht
      (GoType.usesPackage_of_head rfl))⟩

theorem redeclared (h : s.Replaces source target p) (symbol : String) :
    Redeclared source ⟨target, symbol⟩ (source.replacing target.importPath s) ⟨s, symbol⟩
      (p.Keeps source target.importPath) := by
  rintro path name q decl (⟨rfl, r, hr, rfl⟩ | ⟨hpath, hleads⟩) hq hdecl
  · rw [Site.packageOf, if_pos rfl] at hq
    cases hq
    obtain ⟨decl', hdecl', halias, hhead, hmem⟩ := h.exists_typeDecl hr hdecl
    refine ⟨(h.regular _ _ h.target_eq).types hdecl, fun next nextName hnext => ?_, s, decl',
      if_pos h.importPath_eq.symm, hdecl', halias, hhead⟩
    exact h.keeps_of_head hr (hmem next nextName hnext) (hhead.trans hnext)
  · rw [Site.packageOf, if_neg hpath] at hq
    have hother : q.importPath ≠ target.importPath := fun hown => hleads (.here hq hown)
    refine ⟨(h.regular _ _ hq).types hdecl, fun next nextName hnext => ?_, q, decl, ?_,
      hdecl, rfl, rfl⟩
    · have hthrough : ¬ source.Leads target.importPath next :=
        fun hback => hleads (.through hq hdecl (GoType.usesPackage_of_head hnext) hback)
      refine Or.inr ⟨?_, hthrough⟩
      rintro rfl
      exact hthrough (.here h.target_eq rfl)
    · rw [Site.packageOf, if_neg (h.importPath_eq ▸ hpath)]
      exact Source.replacing_other hq hother

/-- What was settled for a record is settled still. -/
theorem settled (h : s.Replaces source target p) (hr : r ∈ p.records) :
    ∀ t ∈ r.shape.types, t.Settled s := by
  obtain ⟨withMethods, c, d, -, hd, hshape⟩ := h.completes.drafted r hr
  intro t ht u hu
  have hold := hd.settled t (hshape ▸ ht) u hu
  cases u with
  | named path name args =>
    simp only [GoType.SettledHere, h.importPath_eq] at hold ⊢
    split
    next hown =>
      rw [if_pos hown] at hold
      subst hown
      obtain ⟨decl, hdecl⟩ := Dict.contains_iff.mp hold
      obtain ⟨r', hr', rfl⟩ := h.completes.closed r hr name ⟨t, ht, args, hu⟩
      obtain ⟨decl', hdecl', -⟩ := h.exists_typeDecl hr' hdecl
      exact Dict.contains_iff.mpr ⟨decl', hdecl'⟩
    next hown => rwa [if_neg hown] at hold
  | array length elem =>
    cases length with
    | constant package name =>
      simp only [GoType.SettledHere, ArrayLength.Settled] at hold ⊢
      rwa [h.importPath_eq]
    | _ => exact hold
  | _ => exact hold

theorem settle_eq (h : s.Replaces source target p) (hr : r ∈ p.records) (symbol : String) :
    ∀ t ∈ r.shape.types, t.settle ⟨s, symbol⟩ = .ok t := by
  intro t ht
  apply GoType.settle_of_settled
  exact h.settled hr t ht

theorem exportedMethods_eq (h : s.Replaces source target p) (hr : r ∈ p.records) :
    s.exportedMethods r.name = r.shape.methodDecls r.name := by
  obtain ⟨withMethods, c, d, -, hd, hshape⟩ := h.completes.drafted r hr
  obtain ⟨hsorted, hexported⟩ := hd.methods_sorted
  rw [← hshape] at hsorted hexported
  have hall : ∀ m ∈ r.shape.methodDecls r.name, Name.isExported m.name = true := by
    simpa [Shape.methodDecls] using hexported
  have hpairwise : (r.shape.methodDecls r.name).Pairwise fun a b =>
      decide (a.name ≤ b.name) = true := by
    simpa [Shape.methodDecls, List.pairwise_map] using hsorted
  rw [PackageScope.exportedMethods, h.restates.methods r hr, List.filter_eq_self.mpr hall,
    List.mergeSort_of_pairwise hpairwise]

theorem methodRecords_eq (h : s.Replaces source target p) (hr : r ∈ p.records)
    (withMethods : Bool) :
    (⟨s, r.name⟩ : Site).methodRecords
        (if withMethods then s.exportedMethods r.name else []) =
      .ok (if withMethods then r.shape.methods else []) := by
  cases withMethods with
  | false => rfl
  | true =>
    rw [if_pos rfl, if_pos rfl, h.exportedMethods_eq hr]
    refine Site.methodRecords_self fun m hm => Signature.settle_self fun t ht => ?_
    exact h.settle_eq hr r.name t (Shape.mem_types_of_mem_methods hm ht)

/-- A named type of a record behind which there is no interface has none behind it still. -/
theorem returns_behind_none (h : s.Replaces source target p) (hr : r ∈ p.records)
    {symbol path name : String} {args args' : List GoType} {q : PackageScope} {c c' : Cache}
    (ht : .named path name args ∈ r.shape.types)
    (hq : (⟨target, symbol⟩ : Site).packageOf source path = .ok q) (hc : Agrees source c)
    (hy : (interfaceBehind source ⟨target, symbol⟩ stepLimit q name args').Yields c none c') :
    ∃ q', (⟨s, symbol⟩ : Site).packageOf (source.replacing target.importPath s) path = .ok q' ∧
      Returns (source.replacing target.importPath s)
        (interfaceBehind (source.replacing target.importPath s) ⟨s, symbol⟩ stepLimit q' name args)
        none := by
  obtain ⟨q', hq', hreturns⟩ := (h.redeclared symbol).returns_behind h.consistent
    h.consistent_replacing (h.keeps_of_head hr ht rfl) hq hc hy
  exact ⟨q', hq', hreturns args⟩

theorem regular_packageOf (h : s.Replaces source target p) {symbol path : String}
    {q : PackageScope} (hq : (⟨target, symbol⟩ : Site).packageOf source path = .ok q) :
    q.Regular := by
  unfold Site.packageOf at hq
  split at hq
  · cases hq
    exact h.regular _ _ h.target_eq
  · exact h.regular path q hq

/-- The interface of a record, read again from its members, has the method set it was. -/
theorem returns_methodSet (h : s.Replaces source target p) (hr : r ∈ p.records)
    {params : List TypeParam} {body flat settled : InterfaceBody} {decl : TypeDecl} {c c' : Cache}
    (hshape : r.shape = .interface params settled)
    (hdecl : target.types.get? r.name = some decl) (hbody : decl.type = .interface body)
    (hc : Agrees source c)
    (hf : (methodSet source ⟨target, r.name⟩ stepLimit target body).Yields c flat c')
    (hs : flat.settle ⟨target, r.name⟩ = .ok settled) :
    Returns (source.replacing target.importPath s)
      (methodSet (source.replacing target.importPath s) ⟨s, r.name⟩ stepLimit s settled.reread)
      settled := by
  have hunembeddable (t : GoType) (ht : t ∈ body.typeSets) : t.isEmbeddable = false :=
    ((h.regular _ _ h.target_eq).typeSets hdecl hbody ht).1
  have hsifted : Sifted source ⟨target, r.name⟩ flat.typeSets :=
    sifted_of_methodSet h.consistent (fun _ _ hq => h.regular_packageOf hq) Site.packageOf_own hc
      hunembeddable hf
  have hflat := (flat_of_methodSet h.consistent hc hf).settle hs
  refine returns_methodSet_reread h.consistent_replacing hflat
    (h.ordered r hr params settled hshape) fun t ht hembeddable => ?_
  obtain ⟨path, name, args, q, args', c₁, c₂, rfl, hq, hc₁, hbehind⟩ :=
    hsifted.settle hs t ht hembeddable
  have hmem : .named path name args ∈ r.shape.types := by
    rw [hshape]
    exact List.mem_append_right _ (List.mem_append_right _ (List.mem_append_right _ ht))
  obtain ⟨q', hq', hreturns⟩ := h.returns_behind_none hr hmem hq hc₁ hbehind
  exact ⟨path, name, args, q', rfl, hq', hreturns⟩

/-- The kind of a constant is found again at the type that its record has. -/
theorem returns_constantKind (h : s.Replaces source target p) (hr : r ∈ p.records)
    {package : PackageScope} {decl : ValueBinding} {depth : Nat} {type settled : GoType}
    {kind : ConstantKind} {c c' : Cache} (hc : Agrees source c)
    (hk : (constantType source ⟨target, r.name⟩ depth package decl).Yields c (some type, kind) c')
    (hs : type.settle ⟨target, r.name⟩ = .ok settled) (hmem : settled ∈ r.shape.types) :
    Returns (source.replacing target.importPath s)
      (constantKind (source.replacing target.importPath s) ⟨s, r.name⟩ stepLimit settled) kind := by
  obtain ⟨c₁, c₂, hc₁, hkind⟩ := constantKind_of_constantType h.consistent hc hk
  have hhead : settled.head = type.head := GoType.head_settle hs
  have hkept (path name : String) (hname : type.head = .named path name) :=
    h.keeps_of_head hr hmem (hhead.trans hname)
  exact (h.redeclared r.name).returns_constantKind h.consistent h.consistent_replacing hhead hkept
    hc₁ hkind

/-- A symbol of the plan has a draft again, of the shape that its record has. -/
theorem returns_draft (h : s.Replaces source target p) (hr : r ∈ p.records) (withMethods : Bool) :
    ∃ d, Returns (source.replacing target.importPath s)
        ((⟨s, r.name⟩ : Site).draft (source.replacing target.importPath s) withMethods) d ∧
      d.shape = if withMethods then r.shape else r.shape.withoutMethods := by
  obtain ⟨made, c, d, hc, hd, hshape⟩ := h.completes.drafted r hr
  have htype := h.types_get? hr
  have hfunc := h.funcs_get? hr
  have hsettle := h.settle_eq hr r.name
  have hmethods := h.methodRecords_eq hr withMethods
  have hvalue := h.restates.values r hr
  rw [hshape] at htype hfunc hsettle hmethods hvalue ⊢
  unfold Site.draft
  cases hd with
  | ofAlias hd ha hp hu =>
    simp only [Shape.types, methodTypes, List.flatMap_nil, List.nil_append, List.forall_mem_append,
      List.forall_mem_singleton] at hsettle
    simp only [htype, Shape.typeDecl?]
    obtain ⟨d, hreturns, hd⟩ := Site.returns_shapeOfAlias ⟨r.name, _, true, _⟩ rfl
      (settleParams_self hsettle.1) hsettle.2
    refine ⟨d, hreturns, hd.trans ?_⟩
    cases withMethods <;> rfl
  | ofInterface hd ha ht hp hm hf hs =>
    simp only [Shape.types, List.forall_mem_append] at hsettle
    simp only [htype, Shape.typeDecl?]
    have hset := h.returns_methodSet hr hshape hd ht hc hf hs
    obtain ⟨d, hreturns, hd⟩ := Site.returns_shapeOfType ⟨r.name, _, false, _⟩ rfl
      (settleParams_self hsettle.1) hmethods
      (Site.returns_shapeOfInterface hset (InterfaceBody.settle_self hsettle.2))
    refine ⟨d, hreturns, hd.trans ?_⟩
    cases withMethods <;> rfl
  | ofStruct hd ha ht hp hm hs =>
    simp only [Shape.types, List.forall_mem_append] at hsettle
    simp only [htype, Shape.typeDecl?]
    obtain ⟨d, hreturns, hd⟩ := Site.returns_shapeOfType ⟨r.name, _, false, _⟩ rfl
      (settleParams_self hsettle.1) hmethods
      (Site.returns_shapeOfStruct (exported_of_settleFields hs) (settleFields_self hsettle.2.2))
    refine ⟨d, hreturns, hd.trans ?_⟩
    cases withMethods <;> rfl
  | ofOther hd ha hi ht hp hm hu =>
    simp only [Shape.types, List.forall_mem_append, List.forall_mem_singleton] at hsettle
    simp only [htype, Shape.typeDecl?]
    obtain ⟨hi', ht'⟩ := GoType.kind_of_settle hu hi ht
    obtain ⟨d, hreturns, hd⟩ := Site.returns_shapeOfType ⟨r.name, _, false, _⟩ rfl
      (settleParams_self hsettle.1) hmethods (Site.returns_shapeOfOther hi' ht' hsettle.2.2)
    refine ⟨d, hreturns, hd.trans ?_⟩
    cases withMethods <;> rfl
  | @ofFunction decl params signature hn hd hp hs =>
    simp only [Shape.types, List.forall_mem_append] at hsettle
    simp only [htype, hfunc, Shape.typeDecl?, Shape.functionDecl?]
    refine ⟨_, returns_ofExcept (Except.bind_eq_ok.mpr ⟨params, settleParams_self hsettle.1,
      Except.bind_eq_ok.mpr ⟨signature, Signature.settle_self hsettle.2, rfl⟩⟩), ?_⟩
    cases withMethods <;> rfl
  | ofUntyped hn hf hd hc hk =>
    obtain ⟨b, hb, hconstant, htypeless, hbasic⟩ := hvalue _ _ _ rfl
    obtain ⟨kind, hkind, hinit⟩ := hbasic rfl
    cases hkind
    simp only [htype, hfunc, hb, Shape.typeDecl?, Shape.functionDecl?]
    have hnone : ∀ t ∈ (none : Option GoType), t.settle ⟨s, r.name⟩ = .ok t := by simp
    obtain ⟨d, hreturns, hd⟩ :=
      Site.returns_shapeOfConstant hconstant (returns_constantType_basic htypeless hinit) hnone
    refine ⟨d, hreturns, hd.trans ?_⟩
    cases withMethods <;> rfl
  | ofConstant hn hf hd hc' hk hs =>
    obtain ⟨b, hb, hconstant, htyped, -⟩ := hvalue _ _ _ rfl
    simp only [htype, hfunc, hb, Shape.typeDecl?, Shape.functionDecl?]
    simp only [Shape.types, Option.toList_some, List.forall_mem_singleton] at hsettle
    have hkind := h.returns_constantKind hr hc hk hs (by simp [hshape, Shape.types])
    obtain ⟨d, hreturns, hd⟩ := Site.returns_shapeOfConstant hconstant
      (returns_constantType_typed htyped hkind) (by simpa using hsettle)
    refine ⟨d, hreturns, hd.trans ?_⟩
    cases withMethods <;> rfl
  | ofVariable hn hf hd hc hk hs =>
    obtain ⟨b, hb, hconstant, htyped, -⟩ := hvalue _ _ _ rfl
    simp only [htype, hfunc, hb, Shape.typeDecl?, Shape.functionDecl?]
    simp only [Shape.types, Option.toList_some, List.forall_mem_singleton] at hsettle
    obtain ⟨d, hreturns, hd⟩ := Site.returns_shapeOfVariable hconstant htyped hsettle
    refine ⟨d, hreturns, hd.trans ?_⟩
    cases withMethods <;> rfl

end PackageScope.Replaces

end GoStub
