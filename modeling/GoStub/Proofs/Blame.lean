import GoStub.Package.Loader
import GoStub.Proofs.Cycles
import GoStub.Proofs.Fidelity

/-! Which symbol a failed plan is blamed on. A requested name that is not declared comes before all
else. Whatever else stands in the way, also far off in another package, is reported of the symbol
whose record was being made: a requested one, or a type that was pulled in by one. -/

namespace GoStub

namespace Lookup

variable {α β : Type}

/-- The look-up fails with faults of the symbol at `site`, and with those of the source. -/
def FailsIn (source : Source) (site : Site) (x : Lookup α) : Prop :=
  ∀ c e c', x.run c = (.error e, c') → e.RaisedAt site ∨ ∃ path, source path = .error e

variable {source : Source} {site : Site}

theorem FailsIn.bind {x : Lookup α} {f : α → Lookup β} (hx : FailsIn source site x)
    (hf : ∀ a, FailsIn source site (f a)) : FailsIn source site (x >>= f) := by
  intro c e c' h
  rcases run_bind_eq_error.mp h with h | ⟨a, c₁, -, h⟩
  · exact hx c e c' h
  · exact hf a c₁ e c' h

theorem failsIn_package (path : String) : FailsIn source site (package source path) := by
  intro c e c' h
  cases hcached : c.get? path with
  | some p =>
    rw [run_package_of_cached hcached] at h
    cases h
  | none =>
    cases hp : source path with
    | error e' =>
      rw [run_package_of_error hcached hp] at h
      cases h
      exact Or.inr ⟨path, hp⟩
    | ok p =>
      rw [run_package_of_ok hcached hp] at h
      cases h

theorem compositional_failsIn (source : Source) (site : Site) :
    Compositional source site fun _ x => FailsIn source site x where
  ofExcept he := by
    intro c e c' h
    cases h
    exact Or.inl (he e rfl)
  bind hx hf := hx.bind hf
  package := failsIn_package

end Lookup

/-- All a source fails with is that it cannot load a package. -/
def Source.ReportsLoads (source : Source) : Prop :=
  ∀ path e, source path = .error e → ∃ package fault, e = .load package fault

/-- Every loader is such a source. -/
theorem Loader.reportsLoads_index (w : World) (loader : Loader) :
    Source.ReportsLoads (loader.index w) := by
  intro path e h
  unfold index load at h
  cases hfind : loader.find w path with
  | error fault =>
    rw [hfind] at h
    cases h
    exact ⟨path, fault, rfl⟩
  | ok files =>
    rw [hfind] at h
    change PackageScope.ofFiles w.files files = .error e at h
    unfold PackageScope.ofFiles at h
    split at h
    next fault _ =>
      cases h
      exact ⟨_, fault, rfl⟩
    next =>
      split at h
      next =>
        cases h
        exact ⟨_, _, rfl⟩
      next => cases h

namespace Subject

variable {t : Subject} {names : List String} {isRequested withMethods : Bool} {w : Progress}
  {name : String} {d : Draft} {c c₁ c₂ : Cache} {e : StubFault}

/-- The names that come up when records are made for some: these names, and the types of the package
that a draft of such a name needs. -/
inductive PulledIn (t : Subject) (names : List String) (c : Cache) : String → Prop
  | named {name : String} (h : name ∈ names) : PulledIn t names c name
  | needed {name next : String} {withMethods : Bool} {d : Draft} {c₁ c₂ : Cache}
      (h : PulledIn t names c name) (hc : t.Reached c c₁)
      (hd : ((t.siteOf name).draft t.source withMethods).Yields c₁ d c₂)
      (hn : Need.declared next ∈ d.needs) : PulledIn t names c next

/-- At some moment of the plan the symbol cannot be drafted: that fails with `e` and leaves the
packages in `c₂`. -/
def Blamed (t : Subject) (c : Cache) (e : StubFault) (c₂ : Cache) (name : String) : Prop :=
  ∃ withMethods c₁, t.Reached c c₁ ∧
    ((t.siteOf name).draft t.source withMethods).run c₁ = (.error e, c₂)

/-- All that is pending was pulled in. -/
structure Traced (t : Subject) (names : List String) (c : Cache) (w : Progress) (c₁ : Cache) :
    Prop where
  reached : t.Reached c c₁
  pending : ∀ n ∈ w.pending, t.PulledIn names c n

theorem traced_start : t.Traced names c t.start c :=
  ⟨.start, by simp [start]⟩

theorem Traced.after (h : t.Traced names c w c₁) (hname : t.PulledIn names c name)
    (hd : ((t.siteOf name).draft t.source withMethods).Yields c₁ d c₂) :
    t.Traced names c (t.after w d) c₂ := by
  refine ⟨.next h.reached hd, fun n hn => ?_⟩
  rcases Progress.mem_pending_meetAll.mp hn with hn | ⟨hn, -⟩ | ⟨hn, -⟩
  · exact h.pending n hn
  · exact .needed hname h.reached hd hn
  · -- an embedded type is needed as any other, besides being promoted
    exact .needed hname h.reached hd ((Site.drafted_of_draft hd).declared_of_promoted hn)

theorem Traced.takeFirst {rest : NameSet} (h : t.Traced names c w c₁)
    (hp : w.pending = name :: rest) : t.Traced names c (w.takeFirst name rest) c₁ :=
  ⟨h.reached, fun n hn => h.pending n (hp ▸ List.mem_cons_of_mem name hn)⟩

/-- A record fails as its draft does. -/
theorem blamed_of_record (hc : t.Reached c c₁)
    (h : (t.record isRequested w name).run c₁ = (.error e, c₂)) : t.Blamed c e c₂ name := by
  rcases Lookup.run_bind_eq_error.mp h with h | ⟨d, c', -, h⟩
  · exact ⟨_, c₁, hc, h⟩
  · exact absurd h Lookup.run_pure_ne_error

/-- If the records of some names fail, one of the names is to blame. -/
theorem exists_blamed_requested {more : List String} (hsub : more ⊆ names)
    (hw : t.Traced names c w c₁)
    (h : (t.requestedRecords w more).run c₁ = (.error e, c₂)) :
    ∃ name ∈ names, t.Blamed c e c₂ name := by
  induction more generalizing w c₁ with
  | nil => exact absurd h Lookup.run_pure_ne_error
  | cons name more ih =>
    obtain ⟨hname, hmore⟩ := List.cons_subset.mp hsub
    rcases Lookup.run_bind_eq_error.mp h with h | ⟨⟨r, w'⟩, c₃, hr, h⟩
    · exact ⟨name, hname, blamed_of_record hw.reached h⟩
    · obtain ⟨d, hd, -, rfl⟩ := record_yields_iff.mp hr
      rcases Lookup.run_bind_eq_error.mp h with h | ⟨_, _, -, h⟩
      · exact ih hmore (hw.after (.named hname) hd) h
      · exact absurd h Lookup.run_pure_ne_error

theorem traced_of_requestedRecords {records : List Record}
    (h : (t.requestedRecords t.start names).Yields c (records, w) c₁) :
    t.Traced names c w c₁ :=
  (@requestedRecords_run t _ _ _ _ (fun _ w c₁ => t.Traced names c w c₁) names
    (fun hw hn hd => hw.after (.named hn) hd) [] records traced_start tidy_start h).1

/-- If the loop over the pending types fails, a type that was pulled in is to blame. -/
theorem Loop.exists_blamed {done : Dict Record} {taken : List String}
    {result : Except StubFault (Dict Record × Progress) × Cache}
    (h : t.Loop done w c₁ taken result) (hw : w.Tidy t.target)
    (htraced : t.Traced names c w c₁) (hresult : result = (.error e, c₂)) :
    ∃ name, t.target.types.contains name = true ∧ t.PulledIn names c name ∧
      t.Blamed c e c₂ name := by
  induction h with
  | done hp => cases hresult
  | failed hp hr =>
    cases hresult
    have hfirst := hp ▸ List.mem_cons_self
    exact ⟨_, hw.known _ hfirst, htraced.pending _ hfirst,
      blamed_of_record htraced.reached hr⟩
  | turn hp hr _ ih =>
    obtain ⟨d, hd, -, rfl⟩ := record_yields_iff.mp hr
    have hfirst := htraced.pending _ (hp ▸ List.mem_cons_self)
    exact ih (tidy_of_turn hw hp hr).1 ((htraced.takeFirst hp).after hfirst hd) hresult

/-- What the blamed symbol is reported with names the symbol, unless the source reported it. -/
theorem Blamed.raisedAt (h : t.Blamed c e c₂ name) :
    e.RaisedAt (t.siteOf name) ∨ ∃ path, t.source path = .error e := by
  obtain ⟨withMethods, c₁, -, hrun⟩ := h
  exact Site.holds_draft (Lookup.compositional_failsIn t.source (t.siteOf name)) c₁ e c₂ hrun

end Subject

/-- A plan of declared names that fails is blamed on one of them or on a type pulled in by one. -/
theorem Planning.exists_blamed {source : Source} {request : Request} {target : PackageScope}
    {c c' : Cache} {taken : List String} {result : Except StubFault StubPlan × Cache}
    {e : StubFault} (h : Planning source request target c taken result)
    (hnames : request.names.find? (fun n => !target.contains n) = none)
    (hresult : result = (.error e, c')) :
    ∃ name, (name ∈ request.names ∨ target.types.contains name = true ∧
        (Subject.ofRequest source request target).PulledIn request.names c name) ∧
      (Subject.ofRequest source request target).Blamed c e c' name := by
  cases h with
  | missing h => simp [hnames] at h
  | refused h ht hr =>
    subst ht
    cases hresult
    obtain ⟨name, hname, hblamed⟩ :=
      Subject.exists_blamed_requested (List.Subset.refl _) Subject.traced_start hr
    exact ⟨name, Or.inl hname, hblamed⟩
  | failed h ht hr hl =>
    subst ht
    cases hresult
    obtain ⟨name, hknown, hpulled, hblamed⟩ := hl.exists_blamed
      (Subject.tidy_of_requestedRecords hr) (Subject.traced_of_requestedRecords hr) rfl
    exact ⟨name, Or.inr ⟨hknown, hpulled⟩, hblamed⟩
  | finished h ht hr hl => cases hresult

/-- A requested name that is not declared is reported, the first of them, before anything is loaded
or looked at. If all are declared and the plan fails at an obstacle, the symbol reported is a
requested one or a type of the package pulled in by one, and it is the symbol whose record was being
made, wherever the obstacle lies. Sources need only keep to reporting that they cannot load a
package, as every loader does. -/
theorem fault_names_symbol_being_made (source : Source) (request : Request)
    (target : PackageScope) (c : Cache) :
    (∀ before name after, request.names = before ++ name :: after →
      (∀ n ∈ before, target.contains n = true) → target.contains name = false →
      (planFrom source request target).run c = (.error (.missing target.importPath name), c)) ∧
    ((∀ n ∈ request.names, target.contains n = true) → source.ReportsLoads →
      ∀ package symbol obstacle c',
        (planFrom source request target).run c = (.error (.render package symbol obstacle), c') →
        package = target.importPath ∧
        (symbol ∈ request.names ∨ target.types.contains symbol = true ∧
          (Subject.ofRequest source request target).PulledIn request.names c symbol) ∧
        ∃ withMethods c₁, (Subject.ofRequest source request target).Reached c c₁ ∧
          (Site.draft source ⟨target, symbol⟩ withMethods).run c₁ =
            (.error (.render package symbol obstacle), c')) ∧
    ∀ w loader, Source.ReportsLoads (Loader.index w loader) := by
  refine ⟨fun before name after hnames hbefore hname => ?_,
    fun hnames hs package symbol obstacle c' hrun => ?_, Loader.reportsLoads_index⟩
  · have hfirst : request.names.find? (fun n => !target.contains n) = some name := by
      rw [hnames, List.find?_append, List.find?_eq_none.mpr (by simpa using hbefore)]
      simp [hname]
    exact (Planning.missing hfirst).run_eq
  · obtain ⟨taken, result, hplanning⟩ := exists_planning source request target c
    have hnone : request.names.find? (fun n => !target.contains n) = none :=
      List.find?_eq_none.mpr (by simpa using hnames)
    obtain ⟨name, hpulled, hblamed⟩ :=
      hplanning.exists_blamed hnone (hplanning.run_eq.symm.trans hrun)
    rcases hblamed.raisedAt with hraised | ⟨path, hpath⟩
    · cases hraised
      exact ⟨rfl, hpulled, hblamed⟩
    · obtain ⟨_, _, hload⟩ := hs path _ hpath
      cases hload

/-- A package whose function `Enter` leads to an interface that embeds a door of `maze`. -/
def porch : PackageScope where
  importPath := "example.com/porch"
  name := "porch"
  dir := ⟨"porch"⟩
  moduleDir := none
  types := ⟨[("Step", ⟨"Step", [], false,
    .interface ⟨[], [.plain "example.com/maze" "Door"], []⟩⟩)]⟩
  funcs := ⟨[("Enter", ⟨"Enter", [], ⟨[], false, [.plain "example.com/porch" "Step"]⟩⟩)]⟩
  values := .empty
  methods := .empty
  importNames := .empty

/-- The step cannot be made because of the doors of another package, and is what is reported. -/
theorem porch_fault_names_symbol_being_made :
    (planFrom mazeSource (.ofNames "example.com/porch" ["Step"] ["Enter", "Exit", "Ring"])
        porch).run .empty = (.error (.missing "example.com/porch" "Exit"), .empty) ∧
      (∀ n ∈ (Request.ofNames "example.com/porch" [] ["Enter"]).names, porch.contains n = true) ∧
      mazeSource.ReportsLoads ∧
      ∃ c', (planFrom mazeSource (.ofNames "example.com/porch" [] ["Enter"]) porch).run .empty =
          (.error (.render "example.com/porch" "Step" .deepEmbedding), c') ∧
        porch.types.contains "Step" = true ∧
        (Subject.ofRequest mazeSource (.ofNames "example.com/porch" [] ["Enter"]) porch).PulledIn
          ["Enter"] .empty "Step" := by
  have hnames : ∀ n ∈ (Request.ofNames "example.com/porch" [] ["Enter"]).names,
      porch.contains n = true := by
    decide
  have hloads : mazeSource.ReportsLoads := by
    intro path e h
    unfold mazeSource at h
    split at h
    next => cases h
    next =>
      cases h
      exact ⟨path, _, rfl⟩
  have hfault : ((planFrom mazeSource (.ofNames "example.com/porch" [] ["Enter"]) porch).run
      .empty).1.map (fun _ => ()) = .error (.render "example.com/porch" "Step" .deepEmbedding) := by
    decide +kernel
  refine ⟨?_, hnames, hloads, ?_⟩
  · exact (fault_names_symbol_being_made mazeSource _ porch .empty).1 ["Step", "Enter"] "Exit"
      ["Ring"] rfl (by decide) rfl
  · rcases hrun : (planFrom mazeSource (.ofNames "example.com/porch" [] ["Enter"]) porch).run
      .empty with ⟨e | p, c'⟩
    · rw [hrun] at hfault
      cases hfault
      obtain ⟨-, hmade, -⟩ := fault_names_symbol_being_made mazeSource _ porch .empty
      obtain ⟨-, hsymbol, -⟩ := hmade hnames hloads _ _ _ c' hrun
      exact ⟨c', rfl, hsymbol.resolve_left (by decide)⟩
    · rw [hrun] at hfault
      cases hfault

end GoStub
