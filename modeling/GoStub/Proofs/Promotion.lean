import GoStub.Proofs.Closure
import Mathlib.Data.List.Nodup

/-! Methods of embedded types: however an embedded type is first met, its record ends up with its
exported methods, and so do the records of requested types. -/

namespace GoStub

theorem PackageScope.exportedMethods_perm (p : PackageScope) (type : String) :
    (p.exportedMethods type).Perm ((p.methodsOf type).filter fun m => Name.isExported m.name) :=
  List.mergeSort_perm _ _

theorem PackageScope.exportedMethods_sorted (p : PackageScope) (type : String) :
    (p.exportedMethods type).Pairwise fun a b => a.name ≤ b.name := by
  have htrans (a b d : MethodDecl) (hab : decide (a.name ≤ b.name) = true)
      (hbd : decide (b.name ≤ d.name) = true) : decide (a.name ≤ d.name) = true :=
    decide_eq_true (le_trans (of_decide_eq_true hab) (of_decide_eq_true hbd))
  have htotal (a b : MethodDecl) :
      (decide (a.name ≤ b.name) || decide (b.name ≤ a.name)) = true := by
    rcases le_total a.name b.name with h | h
    · rw [decide_eq_true h, Bool.true_or]
    · rw [decide_eq_true h, Bool.or_true]
  exact (List.pairwise_mergeSort htrans htotal _).imp fun h => of_decide_eq_true h

namespace Subject

variable {P : Cache → Prop} {first : List Record} {done : Dict Record} {w : Progress} {r : Record}
  {source : Source} {request : Request} {target : PackageScope} {name : String}

/-- When the list is empty, the records of requested and of embedded types have been made with
methods. -/
theorem Ledger.made_with_methods (h : (ofRequest source request target).Ledger P first done w)
    (hw : w.pending = []) (hname : r.name ∈ request.names ∨ r.name ∈ w.embedded)
    (hr : r ∈ first ++ done.values) : (ofRequest source request target).Made P true r := by
  rcases h.mem_records.mp hr with hr | ⟨n, hr⟩
  · exact h.requested r hr
  · obtain ⟨rfl, -, -, withMethods, hmade, -, hfrom⟩ := h.auxiliary n r hr
    have hdone : done.contains r.name = true := Dict.contains_iff.mpr ⟨r, hr⟩
    rcases hname with hname | hname
    · exact absurd hname (h.not_mem_names hdone)
    · have hmethods := hfrom hname
      simp only [hw, List.not_mem_nil, or_false] at hmethods
      exact hmethods ▸ hmade

/-- When the list is empty, every type that is embedded somewhere is known to be. -/
theorem Ledger.embedded_of_embeds (h : (ofRequest source request target).Ledger P first done w)
    (hr : r ∈ first ++ done.values) {f : Field} (hf : r.shape.Embeds f)
    (ht : f.type.RefersTo target.importPath name) : name ∈ w.embedded :=
  h.met r (h.mem_records.mp hr) _ (Shape.needs_promoted_iff.mpr ⟨f, hf, ht⟩)

/-- When the list is empty, every type that some record mentions has a record. -/
theorem Ledger.exists_record_of_mentioned
    (h : (ofRequest source request target).Ledger P first done w) (hw : w.pending = [])
    (hnames : first.map (·.name) = request.names) (hr : r ∈ first ++ done.values)
    (hm : r.shape.Mentions target.importPath name) :
    ∃ r' ∈ first ++ done.values, r'.name = name := by
  by_cases hreq : name ∈ request.names
  · obtain ⟨r', hr', hn⟩ := List.mem_map.mp (hnames ▸ hreq)
    exact ⟨r', List.mem_append_left _ hr', hn⟩
  · have hdone := h.contains_of_mentioned hw hr hm hreq
    obtain ⟨r', hr'⟩ := Dict.contains_iff.mp hdone
    exact ⟨r', h.mem_records.mpr (Or.inr ⟨name, hr'⟩), (h.auxiliary name r' hr').name_eq⟩

/-- When the list is empty, every requested name and every type that is embedded somewhere has a
record. -/
theorem Ledger.exists_record (h : (ofRequest source request target).Ledger P first done w)
    (hw : w.pending = []) (hnames : first.map (·.name) = request.names)
    (hname : name ∈ request.names ∨ ∃ r ∈ first ++ done.values, ∃ f, r.shape.Embeds f ∧
      f.type.RefersTo target.importPath name) :
    ∃ r ∈ first ++ done.values, r.name = name := by
  rcases hname with hreq | ⟨r, hr, f, hf, ht⟩
  · obtain ⟨r, hr, hn⟩ := List.mem_map.mp (hnames ▸ hreq)
    exact ⟨r, List.mem_append_left _ hr, hn⟩
  · have hm := Shape.needs_declared_of_promoted (Shape.needs_promoted_iff.mpr ⟨f, hf, ht⟩)
    exact h.exists_record_of_mentioned hw hnames hr (Shape.needs_declared_iff.mp hm)

end Subject

/-- A defined type that is no interface, if it is requested or some record embeds it or a pointer to
it, has a record, and just one unless the request repeats a name; the methods of the record are the
exported methods of the type in the order of their names, with array lengths written out. -/
theorem record_has_exported_methods {source : Source} {request : Request} {target : PackageScope}
    {p : StubPlan} {c c' : Cache} {name : String} {decl : TypeDecl}
    (h : (planFrom source request target).Yields c p c')
    (hdecl : target.types.get? name = some decl) (halias : decl.isAlias = false)
    (hface : ∀ body, decl.type ≠ .interface body)
    (hname : name ∈ request.names ∨ ∃ r ∈ p.records, ∃ f, r.shape.Embeds f ∧
      f.type.RefersTo target.importPath name) :
    (∃ r ∈ p.records, r.name = name) ∧
      (request.names.Nodup → ∃! r, r ∈ p.records ∧ r.name = name) ∧
      ∀ r ∈ p.records, r.name = name → ∃ methods : List MethodDecl,
        methods.Perm (((target.methods.get? name).getD []).filter fun m =>
          Name.isExported m.name) ∧
        methods.Pairwise (fun a b => a.name ≤ b.name) ∧
        r.shape.methods = methods.map target.inlineMethod := by
  obtain ⟨first, done, w, hledger, hw, hnames, -, hp⟩ :=
    Subject.planFrom_ledger (P := fun _ => True) rfl trivial (fun _ _ => trivial) h
  have hrecords : p.records = first ++ done.values := by rw [hp]
  rw [hrecords] at hname ⊢
  have hexists := hledger.exists_record hw hnames hname
  refine ⟨hexists, fun hnodup => ?_, fun r hr hn => ?_⟩
  · obtain ⟨r, hr, hn⟩ := hexists
    have hunique := hledger.nodup_names hnames hnodup
    exact ⟨r, ⟨hr, hn⟩, fun r' hr' =>
      List.inj_on_of_nodup_map hunique hr'.1 hr (hr'.2.trans hn.symm)⟩
  · subst hn
    have hreach : r.name ∈ request.names ∨ r.name ∈ w.embedded := by
      rcases hname with hname | ⟨r', hr', f, hf, ht⟩
      · exact Or.inl hname
      · exact Or.inr (hledger.embedded_of_embeds hr' hf ht)
    obtain ⟨c₁, d, hd, hshape⟩ := (hledger.made_with_methods hw hreach hr).drafted
    refine ⟨target.exportedMethods r.name, target.exportedMethods_perm r.name,
      target.exportedMethods_sorted r.name, ?_⟩
    rw [hshape]
    exact hd.methods_eq hdecl halias hface

/-- `Base` is met first as a result of `Open` and has no methods then. -/
theorem shop_base_has_exported_methods :
    ∃ p c', (planFrom shopSource (.ofNames "example.com/shop" [] ["Open"]) shop).Yields
        .empty p c' ∧
      (∃! r, r ∈ p.records ∧ r.name = "Base") ∧
      ∀ r ∈ p.records, r.name = "Base" → ∃ methods : List MethodDecl,
        methods.Perm (((shop.methods.get? "Base").getD []).filter fun m =>
          Name.isExported m.name) ∧
        methods.Pairwise (fun a b => a.name ≤ b.name) ∧
        r.shape.methods = methods.map shop.inlineMethod := by
  have hrun : (((planFrom shopSource (.ofNames "example.com/shop" [] ["Open"]) shop).run
      .empty).1.toOption.map fun p =>
        decide (∃ r ∈ p.records, r.shape.Needs "example.com/shop" (.promoted "Base"))) =
        some true := by
    decide +kernel
  obtain ⟨p, c', h, hview⟩ := Lookup.exists_yields hrun
  obtain ⟨r, hr, hneeds⟩ := of_decide_eq_true hview
  have hembeds := Shape.needs_promoted_iff.mp hneeds
  have hdecl : shop.types.get? "Base" = some ⟨"Base", [], false, .struct []⟩ := rfl
  obtain ⟨-, hunique, hmethods⟩ := record_has_exported_methods h hdecl rfl
    (fun _ hbody => by cases hbody) (Or.inr ⟨r, hr, hembeds⟩)
  exact ⟨p, c', h, hunique (Request.nodup_names _ _ _), hmethods⟩

end GoStub
