import GoStub.Proofs.Dict
import GoStub.Proofs.Draft
import Mathlib

/-! The worklist of a plan. Meeting needs only adds; a type of the package enters the list at most
twice, so the list runs empty; and what one record preserves, a whole plan preserves. -/

namespace GoStub

namespace ImportTable

theorem contains_insert {s : ImportTable} {path path' : String} {hint : Option String} :
    (s.insert path hint).contains path' = true ↔ path' = path ∨ s.contains path' = true := by
  unfold insert
  split
  next h =>
    constructor
    · exact Or.inr
    · rintro (rfl | h')
      · exact h
      · exact h'
  next => exact Dict.contains_insert s.names path _ path'

theorem contains_renameAt {s : ImportTable} {declared : List String} {path path' : String} :
    (s.renameAt declared path).contains path' = true ↔ s.contains path' = true := by
  unfold renameAt
  split
  · exact Iff.rfl
  next current hc =>
    split
    · have hpath : s.names.contains path = true := Dict.contains_iff.mpr ⟨current, hc⟩
      have herase : (s.names.erase path).contains path' = true ↔
          path' ≠ path ∧ s.names.contains path' = true := by
        unfold Dict.contains
        rw [Dict.get?_erase]
        by_cases hp : path' = path <;> simp [hp]
      unfold contains
      rw [Dict.contains_insert, herase]
      by_cases hp : path' = path
      · simp [hp, hpath]
      · simp [hp]
    · exact Iff.rfl

/-- Renaming loses no path and adds none. -/
theorem contains_renameApart {s : ImportTable} {declared : List String} {path : String} :
    (s.renameApart declared).contains path = true ↔ s.contains path = true := by
  have hfold (paths : List String) (s : ImportTable) :
      (paths.foldl (renameAt declared) s).contains path = true ↔ s.contains path = true := by
    induction paths generalizing s with
    | nil => exact Iff.rfl
    | cons p rest ih => rw [List.foldl_cons, ih, contains_renameAt]
  exact hfold s.paths s

theorem sorted_insert {s : ImportTable} (h : s.names.Sorted) (path : String)
    (hint : Option String) : (s.insert path hint).names.Sorted := by
  unfold insert
  split
  · exact h
  · exact h.insert path _

/-- Renaming leaves the paths in order. -/
theorem sorted_renameApart {s : ImportTable} (h : s.names.Sorted) (declared : List String) :
    (s.renameApart declared).names.Sorted := by
  have hstep (s : ImportTable) (path : String) (h : s.names.Sorted) :
      (s.renameAt declared path).names.Sorted := by
    unfold renameAt
    split
    · exact h
    · split
      · exact (h.erase path).insert path _
      · exact h
  have hfold (paths : List String) (s : ImportTable) (h : s.names.Sorted) :
      (paths.foldl (renameAt declared) s).names.Sorted := by
    induction paths generalizing s with
    | nil => exact h
    | cons p rest ih => exact ih _ (hstep s p h)
  exact hfold s.paths s h

end ImportTable

namespace Progress

variable {target : PackageScope} {requested : NameSet} {w : Progress} {need : Need}
  {needs : List Need} {name : String}

@[simp] theorem listed_meet : (w.meet target requested need).listed = w.listed := by
  cases need <;> unfold meet <;> dsimp only <;> try split
  all_goals rfl

theorem mem_embedded_meet :
    name ∈ (w.meet target requested need).embedded ↔ name ∈ w.embedded ∨ need = .promoted name := by
  cases need with
  | declared n =>
    simp only [meet]
    split <;> simp
  | imported path => simp [meet]
  | promoted n =>
    simp only [meet, List.contains_iff_mem, Need.promoted.injEq]
    split
    next h =>
      constructor
      · exact Or.inl
      · rintro (h' | rfl)
        · exact h'
        · exact h
    next => rw [NameSet.mem_add, or_comm, eq_comm]

theorem imports_contains_meet {path : String} :
    (w.meet target requested need).imports.contains path = true ↔
      w.imports.contains path = true ∨ need = .imported path := by
  cases need with
  | declared n =>
    simp only [meet]
    split <;> simp
  | imported p =>
    simp only [meet, ImportTable.contains_insert, Need.imported.injEq]
    rw [or_comm]
    exact or_congr_right eq_comm
  | promoted n =>
    simp only [meet]
    split <;> simp

/-- A type enters the list when it is named and not listed, or embedded for the first time and not
requested. -/
theorem mem_pending_meet :
    name ∈ (w.meet target requested need).pending ↔ name ∈ w.pending ∨
      (need = .declared name ∧ name ∉ w.listed) ∨
      (need = .promoted name ∧ name ∉ w.embedded ∧ name ∉ requested) := by
  cases need with
  | declared n =>
    simp only [meet, List.contains_iff_mem, Need.declared.injEq, reduceCtorEq, false_and, or_false]
    split
    next h =>
      constructor
      · exact Or.inl
      · rintro (h' | ⟨rfl, h'⟩)
        · exact h'
        · exact absurd h h'
    next h =>
      rw [NameSet.mem_add]
      constructor
      · rintro (rfl | h')
        · exact Or.inr ⟨rfl, h⟩
        · exact Or.inl h'
      · rintro (h' | ⟨rfl, -⟩)
        · exact Or.inr h'
        · exact Or.inl rfl
  | imported path => simp [meet]
  | promoted n =>
    simp only [meet, List.contains_iff_mem, Need.promoted.injEq, reduceCtorEq, false_and, false_or]
    split
    next h =>
      constructor
      · exact Or.inl
      · rintro (h' | ⟨rfl, h', -⟩)
        · exact h'
        · exact absurd h h'
    next h =>
      split
      next hr =>
        constructor
        · exact Or.inl
        · rintro (h' | ⟨rfl, -, h'⟩)
          · exact h'
          · exact absurd hr h'
      next hr =>
        rw [NameSet.mem_add]
        constructor
        · rintro (rfl | h')
          · exact Or.inr ⟨rfl, h, hr⟩
          · exact Or.inl h'
        · rintro (h' | ⟨rfl, -⟩)
          · exact Or.inr h'
          · exact Or.inl rfl

@[simp] theorem listed_meetAll : (w.meetAll target requested needs).listed = w.listed := by
  unfold meetAll
  induction needs generalizing w with
  | nil => rfl
  | cons need needs ih => rw [List.foldl_cons, ih, listed_meet]

theorem mem_embedded_meetAll :
    name ∈ (w.meetAll target requested needs).embedded ↔
      name ∈ w.embedded ∨ Need.promoted name ∈ needs := by
  unfold meetAll
  induction needs generalizing w with
  | nil => simp
  | cons need needs ih =>
    rw [List.foldl_cons, ih, mem_embedded_meet, List.mem_cons, or_assoc]
    exact or_congr_right (or_congr_left eq_comm)

theorem imports_contains_meetAll {path : String} :
    (w.meetAll target requested needs).imports.contains path = true ↔
      w.imports.contains path = true ∨ Need.imported path ∈ needs := by
  unfold meetAll
  induction needs generalizing w with
  | nil => simp
  | cons need needs ih =>
    rw [List.foldl_cons, ih, imports_contains_meet, List.mem_cons, or_assoc]
    exact or_congr_right (or_congr_left eq_comm)

theorem sorted_imports_meetAll (h : w.imports.names.Sorted) :
    (w.meetAll target requested needs).imports.names.Sorted := by
  have hstep (w : Progress) (need : Need) (h : w.imports.names.Sorted) :
      (w.meet target requested need).imports.names.Sorted := by
    cases need with
    | imported path => exact ImportTable.sorted_insert h path _
    | declared n | promoted n =>
      simp only [meet]
      split <;> exact h
  unfold meetAll
  induction needs generalizing w with
  | nil => exact h
  | cons need needs ih => exact ih (hstep w need h)

/-- The list after some needs. A type may be embedded more than once among them; the first time
counts. -/
theorem mem_pending_meetAll :
    name ∈ (w.meetAll target requested needs).pending ↔ name ∈ w.pending ∨
      (Need.declared name ∈ needs ∧ name ∉ w.listed) ∨
      (Need.promoted name ∈ needs ∧ name ∉ w.embedded ∧ name ∉ requested) := by
  unfold meetAll
  induction needs generalizing w with
  | nil => simp
  | cons need needs ih =>
    rw [List.foldl_cons, ih, mem_pending_meet, listed_meet, mem_embedded_meet]
    simp only [List.mem_cons, not_or]
    constructor
    · rintro ((h | ⟨rfl, h⟩ | ⟨rfl, h⟩) | ⟨hn, h⟩ | ⟨hn, ⟨h, -⟩, hr⟩)
      · exact Or.inl h
      · exact Or.inr (Or.inl ⟨Or.inl rfl, h⟩)
      · exact Or.inr (Or.inr ⟨Or.inl rfl, h⟩)
      · exact Or.inr (Or.inl ⟨Or.inr hn, h⟩)
      · exact Or.inr (Or.inr ⟨Or.inr hn, h, hr⟩)
    · rintro (h | ⟨rfl | hn, h⟩ | ⟨hn, h, hr⟩)
      · exact Or.inl (Or.inl h)
      · exact Or.inl (Or.inr (Or.inl ⟨rfl, h⟩))
      · exact Or.inr (Or.inl ⟨hn, h⟩)
      · by_cases he : need = .promoted name
        · exact Or.inl (Or.inr (Or.inr ⟨he, h, hr⟩))
        · rcases hn with rfl | hn
          · exact absurd rfl he
          · exact Or.inr (Or.inr ⟨hn, ⟨h, he⟩, hr⟩)

/-- The list is in order and holds types of the package. -/
structure Tidy (target : PackageScope) (w : Progress) : Prop where
  sorted : w.pending.Pairwise (· < ·)
  known : ∀ name ∈ w.pending, target.types.contains name = true

theorem sorted_pending_meet (h : w.pending.Pairwise (· < ·)) :
    (w.meet target requested need).pending.Pairwise (· < ·) := by
  cases need with
  | declared n =>
    simp only [meet]
    split
    · exact h
    · exact NameSet.sorted_add h n
  | imported path => exact h
  | promoted n =>
    simp only [meet]
    split
    · exact h
    · split
      · exact h
      · exact NameSet.sorted_add h n

theorem Tidy.meetAll (h : w.Tidy target)
    (hd : ∀ name, Need.declared name ∈ needs → target.types.contains name = true)
    (hp : ∀ name, Need.promoted name ∈ needs → Need.declared name ∈ needs) :
    (w.meetAll target requested needs).Tidy target := by
  constructor
  · have hsorted : ∀ (needs : List Need) (w : Progress), w.pending.Pairwise (· < ·) →
        (needs.foldl (meet target requested) w).pending.Pairwise (· < ·) := by
      intro needs
      induction needs with
      | nil => exact fun w h => h
      | cons need needs ih => exact fun w h => ih _ (sorted_pending_meet h)
    exact hsorted needs w h.sorted
  · intro name hn
    rcases mem_pending_meetAll.mp hn with hn | ⟨hn, -⟩ | ⟨hn, -⟩
    · exact h.known name hn
    · exact hd name hn
    · exact hd name (hp name hn)

/-- The state when the first type of the list is taken up. -/
def takeFirst (w : Progress) (name : String) (rest : NameSet) : Progress :=
  { w with pending := rest, listed := NameSet.add name w.listed }

theorem Tidy.takeFirst {rest : NameSet} (h : w.Tidy target) (hw : w.pending = name :: rest) :
    (w.takeFirst name rest).Tidy target := by
  have hs := h.sorted
  rw [hw] at hs
  exact ⟨(List.pairwise_cons.mp hs).2, fun n hn => h.known n (hw ▸ List.mem_cons_of_mem _ hn)⟩

/-- How often a type may still be taken up: once to be embedded, and once as long as it is on the
list or not yet listed. -/
def visitsLeft (w : Progress) (name : String) : Nat :=
  (if name ∈ w.embedded then 0 else 1) +
    if name ∈ w.listed ∧ name ∉ w.pending then 0 else 1

theorem visitsLeft_le_two : w.visitsLeft name ≤ 2 := by
  unfold visitsLeft
  split <;> split <;> omega

theorem visitsLeft_meet_le :
    (w.meet target requested need).visitsLeft name ≤ w.visitsLeft name := by
  unfold visitsLeft
  rw [listed_meet]
  simp only [mem_embedded_meet, mem_pending_meet]
  by_cases he : name ∈ w.embedded
  · by_cases hl : name ∈ w.listed <;> by_cases hp : name ∈ w.pending <;> simp [he, hl, hp]
  · by_cases hq : need = .promoted name
    · simp only [he, hq, or_true, ↓reduceIte, zero_add]
      split <;> omega
    · by_cases hl : name ∈ w.listed <;> by_cases hp : name ∈ w.pending <;> simp [he, hl, hp, hq]

theorem visitsLeft_meetAll_le :
    (w.meetAll target requested needs).visitsLeft name ≤ w.visitsLeft name := by
  unfold meetAll
  induction needs generalizing w with
  | nil => exact le_rfl
  | cons need needs ih => exact ih.trans visitsLeft_meet_le

theorem visitsLeft_takeFirst_le {rest : NameSet} {n : String} (hw : w.pending = name :: rest) :
    (w.takeFirst name rest).visitsLeft n ≤ w.visitsLeft n := by
  apply Nat.add_le_add_left
  simp only [takeFirst, NameSet.mem_add, hw, List.mem_cons, not_or]
  by_cases hn : n = name
  · rw [if_neg fun h : n ∈ w.listed ∧ n ≠ name ∧ n ∉ rest => h.2.1 hn]
    split <;> omega
  · simp [hn]

theorem visitsLeft_takeFirst_lt {rest : NameSet} (hw : w.pending = name :: rest)
    (hr : name ∉ rest) : (w.takeFirst name rest).visitsLeft name < w.visitsLeft name := by
  unfold visitsLeft takeFirst
  simp [NameSet.mem_add, hw, hr]

/-- The number of types still to be taken up is at most this. -/
def potential (target : PackageScope) (w : Progress) : Nat :=
  (target.types.keys.map w.visitsLeft).sum

theorem potential_le : w.potential target ≤ 2 * target.types.size := by
  have hsum (names : List String) : (names.map w.visitsLeft).sum ≤ 2 * names.length := by
    induction names with
    | nil => simp
    | cons n names ih =>
      have hn : w.visitsLeft n ≤ 2 := visitsLeft_le_two
      rw [List.map_cons, List.sum_cons, List.length_cons]
      omega
  have hlen : target.types.keys.length = target.types.size := List.length_map _
  exact hlen ▸ hsum target.types.keys

/-- Taking up a type and meeting its needs brings the end nearer. -/
theorem potential_lt {rest : NameSet} (h : w.Tidy target) (hw : w.pending = name :: rest) :
    ((w.takeFirst name rest).meetAll target requested needs).potential target <
      w.potential target := by
  have hs := h.sorted
  rw [hw] at hs
  have hr : name ∉ rest := fun hn => lt_irrefl name ((List.pairwise_cons.mp hs).1 name hn)
  apply List.sum_lt_sum
  · intro n _
    exact visitsLeft_meetAll_le.trans (visitsLeft_takeFirst_le hw)
  · refine ⟨name, ?_, lt_of_le_of_lt visitsLeft_meetAll_le (visitsLeft_takeFirst_lt hw hr)⟩
    exact Dict.mem_keys_iff.mpr (h.known name (hw ▸ List.mem_cons_self))

end Progress

namespace Subject

/-- The packages, the target and the requested types of a plan. -/
def ofRequest (source : Source) (request : Request) (target : PackageScope) : Subject :=
  ⟨source, target, NameSet.ofNames (request.names.filter target.types.contains)⟩

theorem mem_requested_iff {source : Source} {request : Request} {target : PackageScope}
    {name : String} : name ∈ (ofRequest source request target).requested ↔
      name ∈ request.names ∧ target.types.contains name = true := by
  rw [ofRequest, NameSet.mem_ofNames, List.mem_filter]

variable {t : Subject} {isRequested : Bool} {w w' : Progress} {name : String} {r : Record}
  {d : Draft} {c c' : Cache}

def siteOf (t : Subject) (name : String) : Site :=
  ⟨t.target, name⟩

/-- The record of a draft. -/
def recordOf (t : Subject) (isRequested : Bool) (name : String) (d : Draft) : Record :=
  ⟨name, t.target.importPath, isRequested, d.shape⟩

/-- The state after a draft. -/
def after (t : Subject) (w : Progress) (d : Draft) : Progress :=
  w.meetAll t.target t.requested d.needs

open Lookup in
theorem record_yields_iff :
    (t.record isRequested w name).Yields c (r, w') c' ↔
      ∃ d, ((t.siteOf name).draft t.source
          (isRequested || w.embedded.contains name)).Yields c d c' ∧
        r = t.recordOf isRequested name d ∧ w' = t.after w d := by
  unfold record
  rw [yields_bind]
  constructor
  · rintro ⟨d, c₁, hd, h⟩
    obtain ⟨h, rfl⟩ := yields_pure.mp h
    cases h
    exact ⟨d, hd, rfl, rfl⟩
  · rintro ⟨d, hd, rfl, rfl⟩
    exact ⟨d, c', hd, yields_pure.mpr ⟨rfl, rfl⟩⟩

theorem tidy_after (hw : w.Tidy t.target)
    (hd : ((t.siteOf name).draft t.source isRequested).Yields c d c') :
    (t.after w d).Tidy t.target := by
  have hdrafted := Site.drafted_of_draft hd
  exact hw.meetAll (fun _ => hdrafted.declared_known) (fun _ => hdrafted.declared_of_promoted)

/-- What every requested record preserves holds after all of them. -/
theorem requestedRecords_run {motive : List Record → Progress → Cache → Prop} {names : List String}
    (step : ∀ {first w c name d c'}, motive first w c → name ∈ names →
      ((t.siteOf name).draft t.source true).Yields c d c' →
      motive (first ++ [t.recordOf true name d]) (t.after w d) c')
    {first records : List Record} (hi : motive first w c) (hw : w.Tidy t.target)
    (h : (t.requestedRecords w names).Yields c (records, w') c') :
    motive (first ++ records) w' c' ∧ w'.Tidy t.target ∧ records.map (·.name) = names ∧
      ∀ r ∈ records, r.requested = true := by
  induction names generalizing first w c records with
  | nil =>
    obtain ⟨h, rfl⟩ := Lookup.yields_pure.mp h
    cases h
    exact ⟨by rwa [List.append_nil], hw, rfl, by simp⟩
  | cons name names ih =>
    obtain ⟨⟨r, w₁⟩, c₁, hr, h⟩ := Lookup.yields_bind.mp h
    obtain ⟨⟨rest, w₂⟩, c₂, hrest, h⟩ := Lookup.yields_bind.mp h
    obtain ⟨h, rfl⟩ := Lookup.yields_pure.mp h
    cases h
    obtain ⟨d, hd, rfl, rfl⟩ := record_yields_iff.mp hr
    rw [Bool.true_or] at hd
    have hi₁ := step hi List.mem_cons_self hd
    obtain ⟨hi', hw', hnames, hreq⟩ :=
      ih (fun hi hn => step hi (List.mem_cons_of_mem _ hn)) hi₁ (tidy_after hw hd) hrest
    refine ⟨by simpa using hi', hw', by simp [hnames, recordOf], ?_⟩
    exact List.forall_mem_cons.mpr ⟨rfl, hreq⟩

/-- What every auxiliary record preserves holds when the list has run empty, and with enough fuel it
does run empty. -/
theorem auxiliaryRecords_run {motive : Dict Record → Progress → Cache → Prop}
    (step : ∀ {done w c name rest d c'}, motive done w c → w.Tidy t.target →
      w.pending = name :: rest →
      ((t.siteOf name).draft t.source (w.embedded.contains name)).Yields c d c' →
      motive (done.insert name (t.recordOf false name d)) (t.after (w.takeFirst name rest) d) c')
    {fuel : Nat} {done done' : Dict Record} (hi : motive done w c) (hw : w.Tidy t.target)
    (hfuel : w.potential t.target < fuel)
    (h : (t.auxiliaryRecords fuel done w).Yields c (done', w') c') :
    motive done' w' c' ∧ w'.pending = [] := by
  induction fuel generalizing done w c with
  | zero => omega
  | succ fuel ih =>
    unfold auxiliaryRecords at h
    split at h
    next hp =>
      obtain ⟨h, rfl⟩ := Lookup.yields_pure.mp h
      cases h
      exact ⟨hi, hp⟩
    next name rest hp =>
      obtain ⟨⟨r, w₁⟩, c₁, hr, h⟩ := Lookup.yields_bind.mp h
      obtain ⟨d, hd, rfl, rfl⟩ := record_yields_iff.mp hr
      rw [Bool.false_or] at hd
      have hlt : (t.after (w.takeFirst name rest) d).potential t.target < w.potential t.target :=
        Progress.potential_lt hw hp
      exact ih (step hi hw hp hd) (tidy_after (hw.takeFirst hp) hd) (by omega) h

/-- What every record of a plan preserves holds of the records the plan ends with. -/
theorem planFrom_run {source : Source} {request : Request} {target : PackageScope} {p : StubPlan}
    {motive : List Record → Dict Record → Progress → Cache → Prop}
    (ht : t = ofRequest source request target)
    (start : motive [] .empty ⟨.empty, t.requested, [], []⟩ c)
    (requested : ∀ {first w c name d c'}, motive first .empty w c → name ∈ request.names →
      ((t.siteOf name).draft t.source true).Yields c d c' →
      motive (first ++ [t.recordOf true name d]) .empty (t.after w d) c')
    (auxiliary : ∀ {first done w c name rest d c'}, motive first done w c → w.Tidy t.target →
      w.pending = name :: rest →
      ((t.siteOf name).draft t.source (w.embedded.contains name)).Yields c d c' →
      motive first (done.insert name (t.recordOf false name d))
        (t.after (w.takeFirst name rest) d) c')
    (h : (planFrom source request target).Yields c p c') :
    ∃ first done w, motive first done w c' ∧ w.pending = [] ∧
      first.map (·.name) = request.names ∧ (∀ r ∈ first, r.requested = true) ∧
      p = ⟨target.importPath, target.name, first ++ done.values,
        w.imports.renameApart ((first ++ done.values).map (·.name))⟩ := by
  subst ht
  unfold planFrom at h
  split at h
  next => exact absurd h Lookup.not_yields_fail
  next =>
    obtain ⟨⟨first, w₁⟩, c₁, hfirst, h⟩ := Lookup.yields_bind.mp h
    obtain ⟨⟨done, w₂⟩, c₂, hdone, h⟩ := Lookup.yields_bind.mp h
    obtain ⟨rfl, rfl⟩ := Lookup.yields_pure.mp h
    have htidy : (⟨.empty, (ofRequest source request target).requested, [], []⟩ : Progress).Tidy
        target := ⟨.nil, by simp⟩
    obtain ⟨hi, hw, hnames, hreq⟩ := requestedRecords_run
      (motive := fun first w c => motive first .empty w c) requested start htidy hfirst
    rw [List.nil_append] at hi
    have hfuel : w₁.potential target < 2 * target.types.size + 1 :=
      Nat.lt_succ_of_le Progress.potential_le
    obtain ⟨hi, hempty⟩ := auxiliaryRecords_run
      (motive := fun done w c => motive first done w c) auxiliary hi hw hfuel hdone
    exact ⟨first, done, w₂, hi, hempty, hnames, hreq, rfl⟩

end Subject

end GoStub
