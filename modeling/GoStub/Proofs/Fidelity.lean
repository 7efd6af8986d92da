import GoStub.Proofs.Promotion

/-! The records of a plan against the declarations of its package. A record shows its symbol as it
is declared: fields that are not exported are left out, interfaces are written out flat, and array
lengths that are constants of the package are integers. Nothing else is changed. -/

namespace GoStub

namespace PackageScope

/-- A type parameter with the array lengths in its constraint written out. -/
noncomputable def inlineParam (p : PackageScope) (param : TypeParam) : TypeParam :=
  ⟨param.name, param.constraint.mapLengths p.inlineLength⟩

/-- A field with the array lengths in its type written out. -/
noncomputable def inlineField (p : PackageScope) (f : Field) : Field :=
  ⟨f.name, f.type.mapLengths p.inlineLength, f.embedded, f.tag⟩

/-- The methods shown with a type: none, or all that are exported. -/
def ShowsMethods (p : PackageScope) (name : String) (methods : List DeclaredMethod) : Prop :=
  ∃ declared : List MethodDecl,
    (declared = [] ∨
      declared.Perm ((p.methodsOf name).filter fun m => Name.isExported m.name)) ∧
    methods = declared.map p.inlineMethod

end PackageScope

/-- The shape shows what the package declares under a name. An interface is shown by its method set,
as that comes out with the packages in `c` loaded. -/
def Shape.Shows (source : Source) (p : PackageScope) (c : Cache) (name : String) : Shape → Prop
  | .function params signature => ∃ decl, p.funcs.get? name = some decl ∧
      params = decl.params.map p.inlineParam ∧
      signature = decl.signature.mapLengths p.inlineLength
  | .interface params body => ∃ decl declared flat c', p.types.get? name = some decl ∧
      decl.isAlias = false ∧ decl.type = .interface declared ∧
      params = decl.params.map p.inlineParam ∧
      (methodSet source ⟨p, name⟩ stepLimit p declared).Yields c flat c' ∧
      body = flat.mapLengths p.inlineLength
  | .struct params fields methods => ∃ decl declared, p.types.get? name = some decl ∧
      decl.isAlias = false ∧ decl.type = .struct declared ∧
      params = decl.params.map p.inlineParam ∧
      fields = (declared.filter fun f => Name.isExported f.name).map p.inlineField ∧
      p.ShowsMethods name methods
  | .named params underlying isAlias methods => ∃ decl, p.types.get? name = some decl ∧
      isAlias = decl.isAlias ∧
      (isAlias = false →
        (∀ body, decl.type ≠ .interface body) ∧ ∀ fields, decl.type ≠ .struct fields) ∧
      params = decl.params.map p.inlineParam ∧
      underlying = decl.type.mapLengths p.inlineLength ∧ p.ShowsMethods name methods
  | .value type constant _ => ∃ decl, p.values.get? name = some decl ∧ constant = decl.constant ∧
      ∀ t, decl.type = some t → type = some (t.mapLengths p.inlineLength)

variable {source : Source} {site : Site} {withMethods : Bool} {d : Draft} {c c' : Cache}

theorem inlineParams_of_settle {params params' : List TypeParam}
    (h : settleParams site params = .ok params') :
    params' = params.map site.target.inlineParam := by
  apply eq_map_of_forall₂ (settleParams_ok h)
  rintro param _ ⟨name, constraint⟩ ⟨hc, rfl⟩
  have hconstraint : constraint = _ := GoType.eq_mapLengths_of_settle hc
  rw [PackageScope.inlineParam, hconstraint]

theorem inlineFields_of_settle {fields fields' : List Field}
    (h : settleFields site fields = .ok fields') :
    fields' = fields.map site.target.inlineField := by
  apply eq_map_of_forall₂ (settleFields_ok h)
  rintro f _ f' ⟨ht, hf'⟩
  rw [hf', GoType.eq_mapLengths_of_settle ht, PackageScope.inlineField]

theorem inlineBody_of_settle {b b' : InterfaceBody} (h : b.settle site = .ok b') :
    b' = b.mapLengths site.target.inlineLength :=
  GoType.mapLengths_of_body h fun _ _ _ => GoType.eq_mapLengths_of_settle

theorem showsMethods_of_methodRecords {methods : List DeclaredMethod}
    (h : site.methodRecords (site.methodsToKeep withMethods) = .ok methods) :
    site.target.ShowsMethods site.symbol methods := by
  refine ⟨site.methodsToKeep withMethods, ?_, Site.methodRecords_eq h⟩
  unfold Site.methodsToKeep
  split
  · exact Or.inr (site.target.exportedMethods_perm site.symbol)
  · exact Or.inl rfl

/-- A constant that is declared with a type has it. -/
theorem constantType_of_declared {depth : Nat} {package : PackageScope} {decl : ValueBinding}
    {t : GoType} {type : Option GoType} {kind : ConstantKind} (ht : decl.type = some t)
    (h : (constantType source site depth package decl).Yields c (type, kind) c') :
    type = some t := by
  cases depth with
  | zero => exact absurd h Lookup.not_yields_fail
  | succ depth =>
    simp only [constantType, ht] at h
    obtain ⟨kind', c₁, -, h⟩ := Lookup.yields_bind.mp h
    exact (congrArg Prod.fst (Lookup.yields_pure.mp h).1).symm

/-- A variable that is declared with a type has it. -/
theorem variableType_of_declared {depth : Nat} {package : PackageScope} {decl : ValueBinding}
    {t type : GoType} (ht : decl.type = some t)
    (h : (variableType source site depth package decl).Yields c type c') : type = t := by
  cases depth with
  | zero => exact absurd h Lookup.not_yields_fail
  | succ depth =>
    simp only [variableType, ht] at h
    exact (Lookup.yields_pure.mp h).1.symm

theorem Site.Drafted.shows (h : site.Drafted source withMethods c d) :
    d.shape.Shows source site.target c site.symbol := by
  cases h with
  | @ofAlias decl params underlying hd ha hp hu =>
    exact ⟨decl, hd, ha.symm, fun h => absurd h (by simp), inlineParams_of_settle hp,
      GoType.eq_mapLengths_of_settle hu, [], Or.inl rfl, rfl⟩
  | @ofInterface decl params methods body flat settled c' hd ha ht hp hm hf hs =>
    exact ⟨decl, body, flat, c', hd, ha, ht, inlineParams_of_settle hp, hf,
      inlineBody_of_settle hs⟩
  | @ofStruct decl params methods fields settled hd ha ht hp hm hs =>
    exact ⟨decl, fields, hd, ha, ht, inlineParams_of_settle hp, inlineFields_of_settle hs,
      showsMethods_of_methodRecords hm⟩
  | @ofOther decl params methods underlying hd ha hi ht hp hm hu =>
    exact ⟨decl, hd, ha.symm, fun _ => ⟨hi, ht⟩, inlineParams_of_settle hp,
      GoType.eq_mapLengths_of_settle hu, showsMethods_of_methodRecords hm⟩
  | @ofFunction decl params signature hn hd hp hs =>
    exact ⟨decl, hd, inlineParams_of_settle hp, GoType.eq_mapLengths_of_settleSignature hs⟩
  | @ofUntyped decl kind c' hn hf hd hc hk =>
    exact ⟨decl, hd, hc.symm, fun t ht => absurd (constantType_of_declared ht hk) (by simp)⟩
  | @ofConstant decl kind type settled c' hn hf hd hc hk hs =>
    refine ⟨decl, hd, hc.symm, fun t ht => ?_⟩
    obtain rfl := Option.some.inj (constantType_of_declared ht hk)
    rw [GoType.eq_mapLengths_of_settle hs]
  | @ofVariable decl type settled c' hn hf hd hc hk hs =>
    refine ⟨decl, hd, hc.symm, fun t ht => ?_⟩
    obtain rfl := variableType_of_declared ht hk
    rw [GoType.eq_mapLengths_of_settle hs]

/-- The packages that can be loaded once some symbols of the subject are drafted. -/
inductive Subject.Reached (t : Subject) (c : Cache) : Cache → Prop
  | start : Reached t c c
  | next {name : String} {withMethods : Bool} {d : Draft} {c₁ c₂ : Cache} (h : Reached t c c₁)
      (hd : ((t.siteOf name).draft t.source withMethods).Yields c₁ d c₂) : Reached t c c₂

theorem Subject.Reached.agrees {t : Subject} {c₁ : Cache} (h : t.Reached c c₁)
    (hs : t.source.Consistent) (hc : Lookup.Agrees t.source c) : Lookup.Agrees t.source c₁ := by
  induction h with
  | start => exact hc
  | next _ hd ih => exact (Site.steady_draft hs).agrees ih hd

/-- A record shows its symbol at some moment of the plan; with a consistent source, also as it is
before anything else is loaded. -/
theorem Subject.Made.shows {t : Subject} {r : Record} (h : t.Made (t.Reached c) withMethods r) :
    ∃ c₁, t.Reached c c₁ ∧ (t.source.Consistent → Lookup.Agrees t.source c → c₁ = c) ∧
      r.shape.Shows t.source t.target c₁ r.name := by
  obtain ⟨c₁, d, c₂, hreached, hd, hr⟩ := h
  have hshape : r.shape = d.shape := congrArg Record.shape hr
  rw [hshape]
  by_cases hagrees : t.source.Consistent ∧ Lookup.Agrees t.source c
  · obtain ⟨hs, hc⟩ := hagrees
    obtain ⟨c₃, hd⟩ := (Site.steady_draft hs).transfer (hreached.agrees hs hc) hc hd
    exact ⟨c, .start, fun _ _ => rfl, (Site.drafted_of_draft hd).shows⟩
  · exact ⟨c₁, hreached, fun hs hc => absurd ⟨hs, hc⟩ hagrees, (Site.drafted_of_draft hd).shows⟩

theorem Subject.Made.settled {P : Cache → Prop} {t : Subject} {r : Record}
    (h : t.Made P withMethods r) : ∀ u ∈ r.shape.types, u.Settled t.target := by
  obtain ⟨c₁, d, hd, hshape⟩ := h.drafted
  rw [hshape]
  exact hd.settled

/-- Every record of a plan shows its symbol as the package declares it, and no constant of the
package is left as an array length. -/
theorem record_shows_declaration {request : Request} {target : PackageScope} {p : StubPlan}
    (h : (planFrom source request target).Yields c p c') :
    ∀ r ∈ p.records, r.package = target.importPath ∧
      (∃ c₁, (Subject.ofRequest source request target).Reached c c₁ ∧
        (source.Consistent → Lookup.Agrees source c → c₁ = c) ∧
        r.shape.Shows source target c₁ r.name) ∧
      ∀ t ∈ r.shape.types, ∀ length elem, (GoType.array length elem).Occurs t →
        ∀ name, length ≠ .constant target.importPath name := by
  intro r hr
  obtain ⟨first, done, w, hledger, -, -, -, hp⟩ :=
    Subject.planFrom_ledger (P := (Subject.ofRequest source request target).Reached c) rfl .start
      (fun hc hd => .next hc hd) h
  have hrecords : p.records = first ++ done.values := by rw [hp]
  obtain ⟨withMethods, hmade⟩ := hledger.made (hrecords ▸ hr)
  refine ⟨?_, hmade.shows, fun t ht length elem hoccurs name hlength => ?_⟩
  · obtain ⟨_, _, _, -, -, hrecord⟩ := hmade
    exact congrArg Record.package hrecord
  · subst hlength
    exact (hmade.settled t ht _ hoccurs).1 rfl

theorem shop_inlineLength : shop.inlineLength (.constant "example.com/shop" "Max") = .literal "4" :=
  PackageScope.inlineLength_own (.plain rfl rfl rfl)

/-- The length `Max` of the items of a `Store` is an integer in its record. -/
theorem shop_store_shows_declaration :
    ∃ p c', (planFrom shopSource (.ofNames "example.com/shop" [] ["Open"]) shop).Yields
        .empty p c' ∧
      ∃ r ∈ p.records, r.name = "Store" ∧ ∃ methods, r.shape = .struct [] [
        ⟨"Base", .pointer (.plain "example.com/shop" "Base"), true, none⟩,
        ⟨"Items", .array (.literal "4") (.plain "example.com/shop" "Item"), false, none⟩,
        ⟨"Opened", .plain "time" "Time", false, none⟩] methods := by
  have hrun : (((planFrom shopSource (.ofNames "example.com/shop" [] ["Open"]) shop).run
      .empty).1.toOption.map fun p => decide (∃ r ∈ p.records, r.name = "Store")) = some true := by
    decide +kernel
  obtain ⟨p, c', h, hview⟩ := Lookup.exists_yields hrun
  obtain ⟨r, hr, hname⟩ := of_decide_eq_true hview
  obtain ⟨-, ⟨c₁, -, -, hshows⟩, -⟩ := record_shows_declaration h r hr
  refine ⟨p, c', h, r, hr, hname, ?_⟩
  rw [hname] at hshows
  cases hshape : r.shape with
  | struct params fields methods =>
    rw [hshape] at hshows
    obtain ⟨decl, declared, hd, -, ht, rfl, rfl, -⟩ := hshows
    cases hd
    cases ht
    refine ⟨methods, ?_⟩
    rw [← shop_inlineLength]
    rfl
  | interface params body =>
    rw [hshape] at hshows
    obtain ⟨decl, declared, flat, c₂, hd, -, ht, -⟩ := hshows
    cases hd
    cases ht
  | named params underlying isAlias methods =>
    rw [hshape] at hshows
    obtain ⟨decl, hd, rfl, hother, -⟩ := hshows
    cases hd
    exact absurd rfl ((hother rfl).2 _)
  | function params signature | value type constant basic =>
    rw [hshape] at hshows
    obtain ⟨decl, hd, -⟩ := hshows
    cases hd

end GoStub
