import GoStub.Proofs.Worklist

/-! Making a plan ends. The loop over the pending types is described with no bound on its turns;
started from any plan it comes to an end, takes up each type of the package at most twice, and ends
as the loop with a bound does. -/

namespace GoStub

theorem Progress.visitsLeft_takeUp {target : PackageScope} {w : Progress} {name : String}
    {rest : NameSet} (hw : w.Tidy target) (hp : w.pending = name :: rest) (n : String) :
    (w.takeFirst name rest).visitsLeft n + [name].count n ≤ w.visitsLeft n := by
  by_cases hn : n = name
  · subst hn
    have hsorted := hw.sorted
    rw [hp] at hsorted
    have hrest : n ∉ rest := fun h => lt_irrefl n ((List.pairwise_cons.mp hsorted).1 n h)
    have hlt := visitsLeft_takeFirst_lt hp hrest
    rw [List.count_singleton_self]
    omega
  · rw [List.count_eq_zero.mpr (by simpa using hn)]
    exact visitsLeft_takeFirst_le hp

namespace Subject

/-- The loop over the pending types, with as many turns as it takes. Every turn takes up the first
pending name and makes its record; `names` are the names taken up, in turn. -/
inductive Loop (t : Subject) : Dict Record → Progress → Cache → List String →
    Except StubFault (Dict Record × Progress) × Cache → Prop
  | done {done : Dict Record} {w : Progress} {c : Cache} (hp : w.pending = []) :
      Loop t done w c [] (.ok (done, w), c)
  | failed {done : Dict Record} {w : Progress} {c c' : Cache} {name : String} {rest : NameSet}
      {e : StubFault} (hp : w.pending = name :: rest)
      (hr : (t.record false (w.takeFirst name rest) name).run c = (.error e, c')) :
      Loop t done w c [name] (.error e, c')
  | turn {done : Dict Record} {w w' : Progress} {c c' : Cache} {name : String} {rest : NameSet}
      {r : Record} {names : List String}
      {result : Except StubFault (Dict Record × Progress) × Cache}
      (hp : w.pending = name :: rest)
      (hr : (t.record false (w.takeFirst name rest) name).Yields c (r, w') c')
      (h : Loop t (done.insert name r) w' c' names result) :
      Loop t done w c (name :: names) result

variable {t : Subject} {done : Dict Record} {w w' : Progress} {c c' : Cache} {name : String}
  {rest : NameSet} {r : Record} {names : List String}
  {result : Except StubFault (Dict Record × Progress) × Cache}

/-- What a turn leaves: a tidy state, with one visit fewer to the type that was taken up and no more
to any other. -/
theorem tidy_of_turn (hw : w.Tidy t.target) (hp : w.pending = name :: rest)
    (hr : (t.record false (w.takeFirst name rest) name).Yields c (r, w') c') :
    w'.Tidy t.target ∧ w'.potential t.target < w.potential t.target ∧
      ∀ n, w'.visitsLeft n + [name].count n ≤ w.visitsLeft n := by
  obtain ⟨d, hd, -, rfl⟩ := record_yields_iff.mp hr
  refine ⟨tidy_after (hw.takeFirst hp) hd, Progress.potential_lt hw hp, fun n => ?_⟩
  have hmeet : (t.after (w.takeFirst name rest) d).visitsLeft n ≤
      (w.takeFirst name rest).visitsLeft n := Progress.visitsLeft_meetAll_le
  have htake := Progress.visitsLeft_takeUp hw hp n
  omega

namespace Loop

theorem count_le (h : t.Loop done w c names result) (hw : w.Tidy t.target) (n : String) :
    names.count n ≤ w.visitsLeft n := by
  induction h with
  | done hp => simp
  | failed hp hr =>
    have htake := Progress.visitsLeft_takeUp hw hp n
    omega
  | turn hp hr _ ih =>
    obtain ⟨hw', -, hvisits⟩ := tidy_of_turn hw hp hr
    have hrest := ih hw'
    have hfirst := hvisits n
    rw [← List.singleton_append, List.count_append]
    omega

theorem length_le (h : t.Loop done w c names result) (hw : w.Tidy t.target) :
    names.length ≤ w.potential t.target := by
  induction h with
  | done hp => simp
  | @failed done w c c' name rest e hp hr =>
    have hlt : ((w.takeFirst name rest).meetAll t.target t.requested []).potential t.target <
        w.potential t.target := Progress.potential_lt hw hp
    rw [List.length_singleton]
    omega
  | turn hp hr _ ih =>
    obtain ⟨hw', hlt, -⟩ := tidy_of_turn hw hp hr
    have hrest := ih hw'
    rw [List.length_cons]
    omega

theorem known (h : t.Loop done w c names result) (hw : w.Tidy t.target) :
    ∀ n ∈ names, t.target.types.contains n = true := by
  have hfirst {w : Progress} {name : String} {rest : NameSet} (hw : w.Tidy t.target)
      (hp : w.pending = name :: rest) : t.target.types.contains name = true :=
    hw.known name (hp ▸ List.mem_cons_self)
  induction h with
  | done hp => simp
  | failed hp hr => exact List.forall_mem_singleton.mpr (hfirst hw hp)
  | turn hp hr _ ih => exact List.forall_mem_cons.mpr ⟨hfirst hw hp, ih (tidy_of_turn hw hp hr).1⟩

/-- A bound that allows for the turns of the loop changes nothing. -/
theorem run_eq (h : t.Loop done w c names result) {fuel : Nat} (hfuel : names.length ≤ fuel) :
    (t.auxiliaryRecords fuel done w).run c = result := by
  induction h generalizing fuel with
  | done hp =>
    cases fuel with
    | zero => rfl
    | succ fuel =>
      rw [auxiliaryRecords, hp]
      rfl
  | failed hp hr =>
    cases fuel with
    | zero => simp at hfuel
    | succ fuel =>
      rw [auxiliaryRecords, hp]
      exact Lookup.run_bind_of_error hr
  | turn hp hr _ ih =>
    cases fuel with
    | zero => simp at hfuel
    | succ fuel =>
      rw [auxiliaryRecords, hp]
      exact hr.run_bind.trans (ih (Nat.le_of_succ_le_succ hfuel))

end Loop

/-- From a tidy state the loop comes to an end: every turn uses up a visit. -/
theorem exists_loop (hw : w.Tidy t.target) : ∃ names result, t.Loop done w c names result := by
  induction hn : w.potential t.target using Nat.strong_induction_on generalizing done w c with
  | _ n ih =>
    cases hp : w.pending with
    | nil => exact ⟨[], _, .done hp⟩
    | cons name rest =>
      rcases hr : (t.record false (w.takeFirst name rest) name).run c with ⟨_ | ⟨r, w'⟩, c'⟩
      next e => exact ⟨[name], _, .failed hp hr⟩
      next =>
        obtain ⟨hw', hlt, -⟩ := tidy_of_turn hw hp hr
        obtain ⟨names, result, hloop⟩ := ih _ (hn ▸ hlt) hw' rfl
        exact ⟨name :: names, result, .turn hp hr hloop⟩

/-- The state in which a plan is begun. -/
def start (t : Subject) : Progress :=
  ⟨.empty, t.requested, [], []⟩

theorem tidy_start : t.start.Tidy t.target :=
  ⟨.nil, by simp [start]⟩

theorem tidy_of_requestedRecords {records : List Record}
    (h : (t.requestedRecords t.start names).Yields c (records, w) c') : w.Tidy t.target := by
  obtain ⟨-, hw, -⟩ := requestedRecords_run
    (motive := fun records _ _ => ∀ r ∈ records, r.requested = true)
    (fun hrecords _ _ => List.forall_mem_append.mpr ⟨hrecords, List.forall_mem_singleton.mpr rfl⟩)
    (List.forall_mem_nil _) tidy_start h
  exact hw

end Subject

/-- Making a plan with no bound on the turns of its loop; the names are those its loop takes up. -/
inductive Planning (source : Source) (request : Request) (target : PackageScope) (c : Cache) :
    List String → Except StubFault StubPlan × Cache → Prop
  | missing {name : String} (h : request.names.find? (fun n => !target.contains n) = some name) :
      Planning source request target c [] (.error (.missing target.importPath name), c)
  | refused {t : Subject} {e : StubFault} {c₁ : Cache}
      (h : request.names.find? (fun n => !target.contains n) = none)
      (ht : t = .ofRequest source request target)
      (hr : (t.requestedRecords t.start request.names).run c = (.error e, c₁)) :
      Planning source request target c [] (.error e, c₁)
  | failed {t : Subject} {first : List Record} {w : Progress} {names : List String} {e : StubFault}
      {c₁ c₂ : Cache} (h : request.names.find? (fun n => !target.contains n) = none)
      (ht : t = .ofRequest source request target)
      (hr : (t.requestedRecords t.start request.names).Yields c (first, w) c₁)
      (hl : t.Loop .empty w c₁ names (.error e, c₂)) :
      Planning source request target c names (.error e, c₂)
  | finished {t : Subject} {first : List Record} {done : Dict Record} {w w' : Progress}
      {names : List String} {c₁ c₂ : Cache}
      (h : request.names.find? (fun n => !target.contains n) = none)
      (ht : t = .ofRequest source request target)
      (hr : (t.requestedRecords t.start request.names).Yields c (first, w) c₁)
      (hl : t.Loop .empty w c₁ names (.ok (done, w'), c₂)) :
      Planning source request target c names (.ok ⟨target.importPath, target.name,
        first ++ done.values, w'.imports.renameApart ((first ++ done.values).map (·.name))⟩, c₂)

namespace Planning

variable {source : Source} {request : Request} {target : PackageScope} {c : Cache}
  {names : List String} {result : Except StubFault StubPlan × Cache}

theorem bounds (h : Planning source request target c names result) :
    (∀ n ∈ names, target.types.contains n = true) ∧ (∀ n, names.count n ≤ 2) ∧
      names.length ≤ 2 * target.types.size := by
  have hloop {t : Subject} {first : List Record} {w : Progress} {c₁ : Cache}
      {ended : Except StubFault (Dict Record × Progress) × Cache}
      (ht : t = .ofRequest source request target)
      (hr : (t.requestedRecords t.start request.names).Yields c (first, w) c₁)
      (hl : t.Loop .empty w c₁ names ended) :
      (∀ n ∈ names, target.types.contains n = true) ∧ (∀ n, names.count n ≤ 2) ∧
        names.length ≤ 2 * target.types.size := by
    have htidy := Subject.tidy_of_requestedRecords hr
    subst ht
    exact ⟨hl.known htidy, fun n => (hl.count_le htidy n).trans Progress.visitsLeft_le_two,
      (hl.length_le htidy).trans Progress.potential_le⟩
  cases h with
  | missing h | refused h ht hr => simp
  | failed h ht hr hl | finished h ht hr hl => exact hloop ht hr hl

/-- Without a bound on its loop a plan comes out as it does with it. -/
theorem run_eq (h : Planning source request target c names result) :
    (planFrom source request target).run c = result := by
  have hfuel := Nat.le_succ_of_le h.bounds.2.2
  unfold planFrom
  cases h with
  | missing h =>
    rw [h]
    rfl
  | refused h ht hr =>
    subst ht
    rw [h]
    exact Lookup.run_bind_of_error hr
  | failed h ht hr hl =>
    subst ht
    rw [h]
    exact hr.run_bind.trans (Lookup.run_bind_of_error (hl.run_eq hfuel))
  | finished h ht hr hl =>
    subst ht
    rw [h]
    exact hr.run_bind.trans (Lookup.Yields.run_bind (hl.run_eq hfuel))

end Planning

/-- Making a plan comes to an end, with no bound on its loop. -/
theorem exists_planning (source : Source) (request : Request) (target : PackageScope) (c : Cache) :
    ∃ names result, Planning source request target c names result := by
  cases h : request.names.find? (fun n => !target.contains n) with
  | some name => exact ⟨[], _, .missing h⟩
  | none =>
    let t : Subject := .ofRequest source request target
    rcases hr : (t.requestedRecords t.start request.names).run c with ⟨_ | ⟨first, w⟩, c₁⟩
    next e => exact ⟨[], _, .refused h rfl hr⟩
    next =>
      have hends : ∃ names ended, t.Loop .empty w c₁ names ended :=
        Subject.exists_loop (Subject.tidy_of_requestedRecords hr)
      obtain ⟨names, ⟨ended, c₂⟩, hloop⟩ := hends
      cases ended with
      | error e => exact ⟨names, _, .failed h rfl hr hloop⟩
      | ok ended => exact ⟨names, _, .finished h rfl hr hloop⟩

end GoStub
