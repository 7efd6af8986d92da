import GoStub.Proofs.Ledger

/-! What a plan comes to, said without its worklist: the drafts a request wants are those of the
requested symbols, and those that the needs of a wanted draft ask for. With a consistent source a
plan is made exactly if all of them can be, whatever the order they are come by, and its records and
imports are theirs. -/

namespace GoStub

namespace Subject

open Lookup

variable {t : Subject} {names : List String} {withMethods : Bool} {name n : String} {d : Draft}
  {first : List Record} {done : Dict Record} {w w' : Progress} {c c' : Cache}

/-- The draft of a symbol when no package is loaded yet. -/
def outcome (t : Subject) (withMethods : Bool) (name : String) : Except StubFault Draft :=
  (((t.siteOf name).draft t.source withMethods).run .empty).1

theorem outcome_of_yields (hs : t.source.Consistent) (hc : Agrees t.source c)
    (h : ((t.siteOf name).draft t.source withMethods).Yields c d c') :
    t.outcome withMethods name = .ok d := by
  obtain ⟨c₁, h₁⟩ := (Site.steady_draft hs).transfer hc (agrees_empty t.source) h
  rw [outcome, h₁]

theorem Made.outcome {r : Record} (h : t.Made (Agrees t.source) withMethods r)
    (hs : t.source.Consistent) :
    ∃ d, t.outcome withMethods r.name = .ok d ∧ r = t.recordOf r.requested r.name d := by
  obtain ⟨c, d, c', hc, hd, hr⟩ := h
  exact ⟨d, outcome_of_yields hs hc hd, hr⟩

theorem yields_of_outcome (h : t.outcome withMethods name = .ok d) :
    ∃ c', ((t.siteOf name).draft t.source withMethods).Yields .empty d c' :=
  ⟨_, Prod.ext h rfl⟩

theorem exists_yields_of_outcome (hs : t.source.Consistent) (hc : Agrees t.source c)
    (h : t.outcome withMethods name = .ok d) :
    ∃ c', ((t.siteOf name).draft t.source withMethods).Yields c d c' := by
  obtain ⟨c₁, h₁⟩ := yields_of_outcome h
  exact (Site.steady_draft hs).transfer (agrees_empty t.source) hc h₁

theorem outcome_without_methods (h : t.outcome true name = .ok d) :
    ∃ d₀, t.outcome false name = .ok d₀ ∧ d₀.needs ⊆ d.needs := by
  obtain ⟨c₁, h₁⟩ := yields_of_outcome h
  obtain ⟨d₀, c₀, h₀, hsub, -⟩ := Site.draft_without_methods h₁
  exact ⟨d₀, congrArg Prod.fst h₀, hsub⟩

theorem needs_subset_of_outcome {more : Bool} {d' : Draft}
    (hmore : withMethods = true → more = true) (h : t.outcome withMethods name = .ok d)
    (h' : t.outcome more name = .ok d') : d.needs ⊆ d'.needs := by
  cases withMethods with
  | true =>
    rw [hmore rfl, h] at h'
    cases h'
    exact List.Subset.refl _
  | false =>
    cases more with
    | false =>
      rw [h] at h'
      cases h'
      exact List.Subset.refl _
    | true =>
      obtain ⟨d₀, h₀, hsub⟩ := outcome_without_methods h'
      cases h.symm.trans h₀
      exact hsub

theorem declared_of_promoted (h : t.outcome withMethods name = .ok d)
    (hn : Need.promoted n ∈ d.needs) : Need.declared n ∈ d.needs := by
  obtain ⟨c₁, h₁⟩ := yields_of_outcome h
  exact (Site.drafted_of_draft h₁).declared_of_promoted hn

/-- The drafts that are wanted for some names, with methods or without: those of the names, and
those that the needs of a wanted draft ask for. -/
inductive Wants (t : Subject) (names : List String) : Bool → String → Prop
  | requested {name : String} (h : name ∈ names) : Wants t names true name
  | declared {withMethods : Bool} {name next : String} {d : Draft}
      (hw : Wants t names withMethods name) (hd : t.outcome withMethods name = .ok d)
      (h : Need.declared next ∈ d.needs) : Wants t names false next
  | promoted {withMethods : Bool} {name next : String} {d : Draft}
      (hw : Wants t names withMethods name) (hd : t.outcome withMethods name = .ok d)
      (h : Need.promoted next ∈ d.needs) : Wants t names true next

/-- A wanted draft refers to this package. -/
def WantsPath (t : Subject) (names : List String) (path : String) : Prop :=
  ∃ withMethods name d, t.Wants names withMethods name ∧ t.outcome withMethods name = .ok d ∧
    Need.imported path ∈ d.needs

/-- All drafts that are wanted can be made. -/
def Feasible (t : Subject) (names : List String) : Prop :=
  ∀ withMethods name, t.Wants names withMethods name → ∃ d, t.outcome withMethods name = .ok d

theorem Wants.mono {names' : List String} (hsub : names ⊆ names')
    (h : t.Wants names withMethods name) : t.Wants names' withMethods name := by
  induction h with
  | requested h => exact .requested (hsub h)
  | declared _ hd h ih => exact .declared ih hd h
  | promoted _ hd h ih => exact .promoted ih hd h

/-- All that is listed is wanted. -/
structure Grounded (t : Subject) (names : List String) (done : Dict Record) (w : Progress) :
    Prop where
  pending : ∀ n ∈ w.pending, t.Wants names false n
  embedded : ∀ n ∈ w.embedded, t.Wants names true n
  done : ∀ n, done.contains n = true → t.Wants names false n
  imports : ∀ path, w.imports.contains path = true → t.WantsPath names path

theorem grounded_start : t.Grounded names .empty ⟨.empty, t.requested, [], []⟩ where
  pending n hn := by cases hn
  embedded n hn := by cases hn
  done n hn := by simp at hn
  imports path hpath := by simp [ImportTable.contains, ImportTable.empty] at hpath

/-- The needs of a wanted draft add what is wanted. -/
theorem Grounded.after (h : t.Grounded names done w) (hw : t.Wants names withMethods name)
    (hd : t.outcome withMethods name = .ok d) : t.Grounded names done (t.after w d) where
  pending n hn := by
    rcases Progress.mem_pending_meetAll.mp hn with hn | ⟨hn, -⟩ | ⟨hn, -⟩
    · exact h.pending n hn
    · exact .declared hw hd hn
    · exact .declared hw hd (declared_of_promoted hd hn)
  embedded n hn := by
    rcases Progress.mem_embedded_meetAll.mp hn with hn | hn
    · exact h.embedded n hn
    · exact .promoted hw hd hn
  done := h.done
  imports path hpath := by
    rcases Progress.imports_contains_meetAll.mp hpath with hpath | hpath
    · exact h.imports path hpath
    · exact ⟨withMethods, name, d, hw, hd, hpath⟩

theorem Grounded.takeFirst {rest : NameSet} (h : t.Grounded names done w)
    (hw : w.pending = name :: rest) (r : Record) :
    t.Grounded names (done.insert name r) (w.takeFirst name rest) where
  pending n hn := h.pending n (hw ▸ List.mem_cons_of_mem name hn)
  embedded := h.embedded
  done n hn := by
    rcases (Dict.contains_insert done name r n).mp hn with rfl | hn
    · exact h.pending n (hw ▸ List.mem_cons_self)
    · exact h.done n hn
  imports := h.imports

/-- The type that is taken up is wanted the way it is made. -/
theorem Grounded.wants_first {rest : NameSet} (h : t.Grounded names done w)
    (hw : w.pending = name :: rest) : t.Wants names (w.embedded.contains name) name := by
  cases he : w.embedded.contains name with
  | false => exact h.pending name (hw ▸ List.mem_cons_self)
  | true => exact h.embedded name (List.contains_iff_mem.mp he)

theorem exists_requestedRecords (hs : t.source.Consistent) (hf : t.Feasible names)
    {part : List String} (hpart : part ⊆ names) (hw : t.Grounded names .empty w)
    (hc : Agrees t.source c) :
    ∃ records w' c', (t.requestedRecords w part).Yields c (records, w') c' ∧
      t.Grounded names .empty w' ∧ Agrees t.source c' := by
  induction part generalizing w c with
  | nil => exact ⟨[], w, c, yields_pure.mpr ⟨rfl, rfl⟩, hw, hc⟩
  | cons name rest ih =>
    obtain ⟨hname, hrest⟩ := List.cons_subset.mp hpart
    have hwants : t.Wants names true name := .requested hname
    obtain ⟨d, hd⟩ := hf true name hwants
    obtain ⟨c₁, hdraft⟩ := exists_yields_of_outcome hs hc hd
    have hrecord : (t.record true w name).Yields c (t.recordOf true name d, t.after w d) c₁ :=
      record_yields_iff.mpr ⟨d, hdraft, rfl, rfl⟩
    obtain ⟨records, w', c', hrecords, hw', hc'⟩ :=
      ih hrest (hw.after hwants hd) ((Site.steady_draft hs).agrees hc hdraft)
    refine ⟨t.recordOf true name d :: records, w', c', ?_, hw', hc'⟩
    exact yields_bind.mpr ⟨_, c₁, hrecord, yields_bind.mpr ⟨_, c', hrecords,
      yields_pure.mpr ⟨rfl, rfl⟩⟩⟩

theorem exists_auxiliaryRecords (hs : t.source.Consistent) (hf : t.Feasible names) (fuel : Nat)
    (hw : t.Grounded names done w) (hc : Agrees t.source c) :
    ∃ done' w' c', (t.auxiliaryRecords fuel done w).Yields c (done', w') c' := by
  induction fuel generalizing done w c with
  | zero => exact ⟨done, w, c, yields_pure.mpr ⟨rfl, rfl⟩⟩
  | succ fuel ih =>
    unfold auxiliaryRecords
    split
    next => exact ⟨done, w, c, yields_pure.mpr ⟨rfl, rfl⟩⟩
    next name rest hp =>
      have hwants := hw.wants_first hp
      obtain ⟨d, hd⟩ := hf _ name hwants
      obtain ⟨c₁, hdraft⟩ := exists_yields_of_outcome hs hc hd
      have hrecord : (t.record false (w.takeFirst name rest) name).Yields c
          (t.recordOf false name d, t.after (w.takeFirst name rest) d) c₁ :=
        record_yields_iff.mpr ⟨d, hdraft, rfl, rfl⟩
      obtain ⟨done', w', c', hrest⟩ :=
        ih ((hw.takeFirst hp (t.recordOf false name d)).after hwants hd)
          ((Site.steady_draft hs).agrees hc hdraft)
      exact ⟨done', w', c', yields_bind.mpr ⟨_, c₁, hrecord, hrest⟩⟩

/-- A plan is made if the package has the names and all drafts they want can be made. -/
theorem exists_planFrom {source : Source} {request : Request} {target : PackageScope}
    (hs : source.Consistent) (hc : Agrees source c)
    (hknown : ∀ n ∈ request.names, target.contains n = true)
    (hf : (ofRequest source request target).Feasible request.names) :
    ∃ p c', (planFrom source request target).Yields c p c' := by
  unfold planFrom
  split
  next name hfind =>
    have hname := hknown name (List.mem_of_find?_eq_some hfind)
    simpa [hname] using List.find?_some hfind
  next =>
    obtain ⟨first, w₁, c₁, hfirst, hw₁, hc₁⟩ :=
      exists_requestedRecords hs hf (List.Subset.refl _) grounded_start hc
    obtain ⟨done, w₂, c₂, hdone⟩ :=
      exists_auxiliaryRecords hs hf (2 * target.types.size + 1) hw₁ hc₁
    exact ⟨_, c₂, yields_bind.mpr ⟨_, c₁, hfirst, yields_bind.mpr ⟨_, c₂, hdone,
      yields_pure.mpr ⟨rfl, rfl⟩⟩⟩⟩

/-- A draft can be made and its needs are met. -/
def Serves (t : Subject) (w : Progress) (withMethods : Bool) (name : String) : Prop :=
  ∃ d, t.outcome withMethods name = .ok d ∧ ∀ need ∈ d.needs, w.Met need

theorem Serves.without_methods (h : t.Serves w true name) : t.Serves w false name := by
  obtain ⟨d, hd, hmet⟩ := h
  obtain ⟨d₀, hd₀, hsub⟩ := outcome_without_methods hd
  exact ⟨d₀, hd₀, fun need hneed => hmet need (hsub hneed)⟩

theorem Serves.after (h : t.Serves w withMethods name) :
    t.Serves (t.after w d) withMethods name := by
  obtain ⟨d', hd', hmet⟩ := h
  exact ⟨d', hd', fun need hneed => (hmet need hneed).meetAll⟩

theorem Serves.takeFirst {rest : NameSet} (hw : w.pending = n :: rest)
    (h : t.Serves w withMethods name) : t.Serves (w.takeFirst n rest) withMethods name := by
  obtain ⟨d', hd', hmet⟩ := h
  exact ⟨d', hd', fun need hneed => (hmet need hneed).takeFirst hw⟩

theorem serves_after (hd : t.outcome withMethods name = .ok d) :
    t.Serves (t.after w d) withMethods name :=
  ⟨d, hd, fun _ hneed => Progress.met_of_mem hneed⟩

/-- The needs of the drafts made so far are met. A type met as embedded was drafted with its
methods, or is about to be. -/
structure Served (t : Subject) (first : List Record) (done : Dict Record) (w : Progress) :
    Prop where
  requested : ∀ r ∈ first, t.Serves w true r.name
  auxiliary : ∀ n, done.contains n = true → t.Serves w false n
  embedded : ∀ n, done.contains n = true → n ∈ w.embedded → n ∉ w.pending → t.Serves w true n

theorem served_start : t.Served [] .empty ⟨.empty, t.requested, [], []⟩ where
  requested r hr := by cases hr
  auxiliary n hn := by simp at hn
  embedded n hn := by simp at hn

theorem Served.addRequested (h : t.Served first .empty w) (hd : t.outcome true name = .ok d) :
    t.Served (first ++ [t.recordOf true name d]) .empty (t.after w d) where
  requested := by
    rw [List.forall_mem_append, List.forall_mem_singleton]
    exact ⟨fun r hr => (h.requested r hr).after, serves_after hd⟩
  auxiliary n hn := by simp at hn
  embedded n hn := by simp at hn

theorem Served.addAuxiliary {rest : NameSet} {r : Record} (h : t.Served first done w)
    (hfresh : ∀ n, n = name ∨ done.contains n = true → n ∉ t.requested)
    (hw : w.pending = name :: rest)
    (hd : t.outcome (w.embedded.contains name) name = .ok d) :
    t.Served first (done.insert name r) (t.after (w.takeFirst name rest) d) where
  requested r hr := ((h.requested r hr).takeFirst hw).after
  auxiliary n hn := by
    rcases (Dict.contains_insert done name r n).mp hn with rfl | hn
    · cases he : w.embedded.contains n with
      | false => exact serves_after (he ▸ hd)
      | true => exact (serves_after (he ▸ hd)).without_methods
    · exact ((h.auxiliary n hn).takeFirst hw).after
  embedded n hn he hp := by
    have hin := (Dict.contains_insert done name r n).mp hn
    -- had it been met as embedded just now, it would be on the list
    have hold : n ∈ w.embedded := by
      by_contra hnew
      have hmet := (Progress.mem_embedded_meetAll.mp he).resolve_left hnew
      exact hp (Progress.mem_pending_meetAll.mpr (Or.inr (Or.inr ⟨hmet, hnew, hfresh n hin⟩)))
    by_cases hname : n = name
    · subst hname
      rw [List.contains_iff_mem.mpr hold] at hd
      exact serves_after hd
    · have hout : n ∉ w.pending := by
        intro hmem
        rw [hw, List.mem_cons] at hmem
        exact hp (Progress.mem_pending_meetAll.mpr (Or.inl (hmem.resolve_left hname)))
      exact ((h.embedded n (hin.resolve_left hname) hold hout).takeFirst hw).after

/-- What holds at every moment of a plan for these names. -/
structure Kept (t : Subject) (names : List String) (first : List Record) (done : Dict Record)
    (w : Progress) (c : Cache) : Prop where
  agrees : Agrees t.source c
  ledger : t.Ledger (Agrees t.source) first done w
  grounded : t.Grounded names done w
  served : t.Served first done w
  sorted : w.imports.names.Sorted

theorem kept_start (hc : Agrees t.source c) :
    t.Kept names [] .empty ⟨.empty, t.requested, [], []⟩ c :=
  ⟨hc, ledger_start, grounded_start, served_start, Dict.sorted_empty⟩

theorem Kept.addRequested (h : t.Kept names first .empty w c) (hs : t.source.Consistent)
    (hname : name ∈ names) (hd : ((t.siteOf name).draft t.source true).Yields c d c') :
    t.Kept names (first ++ [t.recordOf true name d]) .empty (t.after w d) c' := by
  have houtcome := outcome_of_yields hs h.agrees hd
  exact ⟨(Site.steady_draft hs).agrees h.agrees hd, h.ledger.addRequested h.agrees hd,
    h.grounded.after (.requested hname) houtcome, h.served.addRequested houtcome,
    Progress.sorted_imports_meetAll h.sorted⟩

theorem Kept.addAuxiliary {rest : NameSet} (h : t.Kept names first done w c)
    (hs : t.source.Consistent) (htidy : w.Tidy t.target) (hw : w.pending = name :: rest)
    (hd : ((t.siteOf name).draft t.source (w.embedded.contains name)).Yields c d c') :
    t.Kept names first (done.insert name (t.recordOf false name d))
      (t.after (w.takeFirst name rest) d) c' := by
  have houtcome := outcome_of_yields hs h.agrees hd
  have hfresh (n : String) (hn : n = name ∨ done.contains n = true) : n ∉ t.requested := by
    rcases hn with rfl | hn
    · exact h.ledger.fresh n (hw ▸ List.mem_cons_self)
    · obtain ⟨r, hr⟩ := Dict.contains_iff.mp hn
      exact (h.ledger.auxiliary n r hr).not_requested.2
  exact ⟨(Site.steady_draft hs).agrees h.agrees hd, h.ledger.addAuxiliary h.agrees htidy hw hd,
    (h.grounded.takeFirst hw _).after (h.grounded.wants_first hw) houtcome,
    h.served.addAuxiliary hfresh hw houtcome, Progress.sorted_imports_meetAll h.sorted⟩

/-- What holds when a plan is done: nothing is left on the list. -/
structure Finished (t : Subject) (names : List String) (first : List Record) (done : Dict Record)
    (w : Progress) (c : Cache) : Prop extends Kept t names first done w c where
  empty : w.pending = []
  names_eq : first.map (·.name) = names
  all_requested : ∀ r ∈ first, r.requested = true
  requested_iff : ∀ n, n ∈ t.requested ↔ n ∈ names ∧ t.target.types.contains n = true

theorem planFrom_finished {source : Source} {request : Request} {target : PackageScope}
    {p : StubPlan} (ht : t = ofRequest source request target) (hs : source.Consistent)
    (hc : Agrees source c) (h : (planFrom source request target).Yields c p c') :
    ∃ first done w, t.Finished request.names first done w c' ∧
      p = ⟨target.importPath, target.name, first ++ done.values,
        w.imports.renameApart ((first ++ done.values).map (·.name))⟩ := by
  subst ht
  obtain ⟨first, done, w, hkept, hempty, hnames, hreq, hp⟩ := planFrom_run
    (motive := (ofRequest source request target).Kept request.names) rfl (kept_start hc)
    (fun hi hn hd => hi.addRequested hs hn hd)
    (fun hi htidy hw hd => hi.addAuxiliary hs htidy hw hd) h
  exact ⟨first, done, w, ⟨hkept, hempty, hnames, hreq, fun _ => mem_requested_iff⟩, hp⟩

namespace Finished

variable {r : Record}

theorem mem_names_or_done (h : t.Finished names first done w c) (hmet : w.Met (.declared n)) :
    n ∈ names ∨ done.contains n = true := by
  simp only [Progress.Met, h.empty, List.not_mem_nil, or_false] at hmet
  exact ((h.ledger.listed n).mp hmet).imp_left fun hn => ((h.requested_iff n).mp hn).1

/-- All drafts that are wanted have been made. -/
theorem serves (h : t.Finished names first done w c) (hwants : t.Wants names withMethods name) :
    t.Serves w withMethods name := by
  have hfirst (n : String) (hn : n ∈ names) : t.Serves w true n := by
    rw [← h.names_eq] at hn
    obtain ⟨r, hr, rfl⟩ := List.mem_map.mp hn
    exact h.served.requested r hr
  induction hwants with
  | requested hn => exact hfirst _ hn
  | declared _ hd hneed ih =>
    obtain ⟨d, hd', hmet⟩ := ih
    cases hd.symm.trans hd'
    rcases h.mem_names_or_done (hmet _ hneed) with hn | hn
    · exact (hfirst _ hn).without_methods
    · exact h.served.auxiliary _ hn
  | promoted _ hd hneed ih =>
    obtain ⟨d, hd', hmet⟩ := ih
    cases hd.symm.trans hd'
    rcases h.mem_names_or_done (hmet _ (declared_of_promoted hd hneed)) with hn | hn
    · exact hfirst _ hn
    · exact h.served.embedded _ hn (hmet _ hneed) (by simp [h.empty])

theorem feasible (h : t.Finished names first done w c) : t.Feasible names := by
  intro withMethods name hwants
  obtain ⟨d, hd, -⟩ := h.serves hwants
  exact ⟨d, hd⟩

/-- The needs of a wanted draft are met. -/
theorem met (h : t.Finished names first done w c) (hwants : t.Wants names withMethods name)
    (hd : t.outcome withMethods name = .ok d) {need : Need} (hneed : need ∈ d.needs) :
    w.Met need := by
  obtain ⟨d', hd', hmet⟩ := h.serves hwants
  cases hd.symm.trans hd'
  exact hmet need hneed

theorem embedded_of_wants (h : t.Finished names first done w c) (hn : n ∉ names)
    (hwants : t.Wants names true n) : n ∈ w.embedded := by
  cases hwants with
  | requested hmem => exact absurd hmem hn
  | promoted hw hd hneed => exact h.met hw hd hneed

theorem done_of_wants (h : t.Finished names first done w c) (hn : n ∉ names)
    (hwants : t.Wants names withMethods n) : done.contains n = true := by
  cases hwants with
  | requested hmem => exact absurd hmem hn
  | declared hw hd hneed => exact (h.mem_names_or_done (h.met hw hd hneed)).resolve_left hn
  | promoted hw hd hneed =>
    have hmet := h.met hw hd (declared_of_promoted hd hneed)
    exact (h.mem_names_or_done hmet).resolve_left hn

theorem imports_contains_iff (h : t.Finished names first done w c) {path : String} :
    w.imports.contains path = true ↔ t.WantsPath names path := by
  constructor
  · exact h.grounded.imports path
  · rintro ⟨withMethods, name, d, hw, hd, hneed⟩
    exact h.met hw hd hneed

theorem mem_first_iff (h : t.Finished names first done w c) (hs : t.source.Consistent) :
    r ∈ first ↔ ∃ n ∈ names, ∃ d, t.outcome true n = .ok d ∧ r = t.recordOf true n d := by
  have hmade {r : Record} (hr : r ∈ first) :
      ∃ d, t.outcome true r.name = .ok d ∧ r = t.recordOf true r.name d := by
    obtain ⟨d, hd, heq⟩ := (h.ledger.requested r hr).outcome hs
    rw [h.all_requested r hr] at heq
    exact ⟨d, hd, heq⟩
  constructor
  · intro hr
    exact ⟨r.name, h.names_eq ▸ List.mem_map_of_mem hr, hmade hr⟩
  · rintro ⟨n, hn, d, hd, rfl⟩
    rw [← h.names_eq] at hn
    obtain ⟨r, hr, rfl⟩ := List.mem_map.mp hn
    obtain ⟨d', hd', heq⟩ := hmade hr
    cases hd.symm.trans hd'
    exact heq ▸ hr

/-- A type that was not requested has its record, with methods just if these are wanted. -/
theorem record_of_done (h : t.Finished names first done w c) (hs : t.source.Consistent)
    (hr : done.get? n = some r) : n ∉ names ∧ ∃ withMethods d,
      (withMethods = true ↔ t.Wants names true n) ∧ t.outcome withMethods n = .ok d ∧
        r = t.recordOf false n d := by
  have haux := h.ledger.auxiliary n r hr
  have hn : n ∉ names := fun hmem =>
    haux.not_requested.2 ((h.requested_iff n).mpr ⟨hmem, haux.known⟩)
  obtain ⟨withMethods, hmade, hto, hfrom⟩ := haux.made
  obtain ⟨d, hd, heq⟩ := hmade.outcome hs
  rw [haux.name_eq, haux.not_requested.1] at heq
  refine ⟨hn, withMethods, d, ⟨?_, ?_⟩, haux.name_eq ▸ hd, heq⟩
  · intro hm
    exact h.grounded.embedded n (hto hm)
  · intro hwants
    exact (hfrom (h.embedded_of_wants hn hwants)).resolve_right (by simp [h.empty])

/-- A wanted draft has a record, made of a draft with the same needs or more. -/
theorem exists_record_of_wants (h : t.Finished names first done w c) (hs : t.source.Consistent)
    (hwants : t.Wants names withMethods n) (hd : t.outcome withMethods n = .ok d) :
    ∃ r ∈ first ++ done.values, ∃ more d', t.outcome more n = .ok d' ∧ r.shape = d'.shape ∧
      d.needs ⊆ d'.needs := by
  by_cases hn : n ∈ names
  · obtain ⟨d', hd'⟩ := h.feasible true n (.requested hn)
    refine ⟨t.recordOf true n d', List.mem_append_left _ ((h.mem_first_iff hs).mpr
      ⟨n, hn, d', hd', rfl⟩), true, d', hd', rfl, needs_subset_of_outcome (fun _ => rfl) hd hd'⟩
  · obtain ⟨r, hr⟩ := Dict.contains_iff.mp (h.done_of_wants hn hwants)
    obtain ⟨-, more, d', hiff, hd', rfl⟩ := h.record_of_done hs hr
    have hmore (hm : withMethods = true) : more = true := hiff.mpr (hm ▸ hwants)
    exact ⟨_, List.mem_append_right _ (h.ledger.sorted.mem_values_iff.mpr ⟨n, hr⟩), more, d', hd',
      rfl, needs_subset_of_outcome hmore hd hd'⟩

theorem mem_values_iff (h : t.Finished names first done w c) (hs : t.source.Consistent) :
    r ∈ done.values ↔ ∃ n withMethods d, n ∉ names ∧ t.Wants names false n ∧
      (withMethods = true ↔ t.Wants names true n) ∧ t.outcome withMethods n = .ok d ∧
        r = t.recordOf false n d := by
  rw [h.ledger.sorted.mem_values_iff]
  constructor
  · rintro ⟨n, hr⟩
    obtain ⟨hn, withMethods, d, hrecord⟩ := h.record_of_done hs hr
    exact ⟨n, withMethods, d, hn, h.grounded.done n (Dict.contains_iff.mpr ⟨r, hr⟩), hrecord⟩
  · rintro ⟨n, withMethods, d, hn, hwants, hiff, hd, rfl⟩
    obtain ⟨r, hr⟩ := Dict.contains_iff.mp (h.done_of_wants hn hwants)
    obtain ⟨-, withMethods', d', hiff', hd', rfl⟩ := h.record_of_done hs hr
    obtain rfl : withMethods = withMethods' := Bool.eq_iff_iff.mpr (hiff.trans hiff'.symm)
    cases hd.symm.trans hd'
    exact ⟨n, hr⟩

end Finished

end Subject

end GoStub
