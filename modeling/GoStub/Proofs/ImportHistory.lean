import GoStub.Proofs.FreeNames

/-! Import tables over any history. Whatever paths are added and whatever declared names avoided, in
whatever order, every path that was added has a local name of its own; and each change leaves all
names alone but those it is about. -/

namespace GoStub

namespace ImportTable

variable {s : ImportTable} {path other name : String} {declared : List String}

/-- The search for a free name ends at the first candidate that is free. -/
theorem freeName_eq_first_candidate (taken : List String) (base : String) :
    ∃ n, freeName taken base = candidate base n ∧ candidate base n ∉ taken ∧
      ∀ m < n, candidate base m ∈ taken := by
  have hsearch : freeName taken base = (((List.range (taken.length + 1)).find?
      fun n => !taken.contains (candidate base n)).map (candidate base)).getD base := by
    rw [freeName, List.find?_map]
    rfl
  cases hfind : (List.range (taken.length + 1)).find?
      fun n => !taken.contains (candidate base n) with
  | none =>
    -- not even the base itself would be free
    have hfree : base ∉ taken := by
      have hfree := freeName_not_mem taken base
      rwa [hsearch, hfind] at hfree
    have htaken := List.find?_eq_none.mp hfind 0 (by simp)
    simp [candidate, hfree] at htaken
  | some n =>
    obtain ⟨hn, -, hbefore⟩ := List.find?_range_eq_some.mp hfind
    refine ⟨n, by rw [hsearch, hfind]; rfl, by simpa using hn, fun m hm => ?_⟩
    simpa using hbefore m hm

/-- A change of a table: a path is added, or names that are declared are given up. -/
inductive Change
  | insert (path : String) (hint : Option String)
  | renameApart (declared : List String)

def change (s : ImportTable) : Change → ImportTable
  | .insert path hint => s.insert path hint
  | .renameApart declared => s.renameApart declared

/-- The table after some changes of the empty one, the first change first. -/
def afterChanges (changes : List Change) : ImportTable :=
  changes.foldl change empty

/-- What every change preserves holds after any number of them. -/
theorem afterChanges_induction {motive : ImportTable → Prop} (start : motive empty)
    (step : ∀ {s} (change : Change), motive s → motive (s.change change)) (changes : List Change) :
    motive (afterChanges changes) := by
  have hfold (changes : List Change) (s : ImportTable) (h : motive s) :
      motive (changes.foldl change s) := by
    induction changes generalizing s with
    | nil => exact h
    | cons first rest ih => exact ih _ (step first h)
  exact hfold changes empty start

theorem distinct_afterChanges (changes : List Change) : (afterChanges changes).Distinct := by
  refine afterChanges_induction distinct_empty (fun change h => ?_) changes
  cases change with
  | insert path hint => exact h.insert path hint
  | renameApart declared => exact h.renameApart declared

theorem sorted_afterChanges (changes : List Change) : (afterChanges changes).names.Sorted := by
  refine afterChanges_induction (motive := fun s => s.names.Sorted) Dict.sorted_empty
    (fun change h => ?_) changes
  cases change with
  | insert path hint => exact sorted_insert h path hint
  | renameApart declared => exact sorted_renameApart h declared

/-- The paths of a table are those that were added. -/
theorem contains_afterChanges (changes : List Change) :
    (afterChanges changes).contains path = true ↔ ∃ hint, Change.insert path hint ∈ changes := by
  have hfold (changes : List Change) (s : ImportTable) :
      (changes.foldl change s).contains path = true ↔
        s.contains path = true ∨ ∃ hint, Change.insert path hint ∈ changes := by
    induction changes generalizing s with
    | nil => simp
    | cons first rest ih =>
      rw [List.foldl_cons, ih]
      cases first with
      | insert path' hint =>
        rw [change, contains_insert]
        simp only [List.mem_cons, Change.insert.injEq, exists_or, exists_and_left, exists_eq,
          and_true]
        tauto
      | renameApart declared =>
        rw [change, contains_renameApart]
        simp
  refine (hfold changes empty).trans (or_iff_right ?_)
  simp [contains, empty]

theorem insert_of_contains (h : s.contains path = true) (hint : Option String) :
    s.insert path hint = s := by
  rw [insert, if_pos h]

theorem localName?_insert_self (h : s.contains path = false) (hint : Option String) :
    (s.insert path hint).localName? path =
      some (freeName s.names.values (hint.getD (Name.ofImportPath path))) := by
  simp [insert, h, localName?]

theorem localName?_insert_of_ne (hne : other ≠ path) (hint : Option String) :
    (s.insert path hint).localName? other = s.localName? other := by
  unfold insert
  split
  · rfl
  · rw [localName?, Dict.get?_insert, if_neg hne, localName?]

/-- A name that is not declared is kept. -/
theorem localName?_renameApart (h : s.localName? path = some name) (hname : name ∉ declared) :
    (s.renameApart declared).localName? path = some name := by
  have hstep (s : ImportTable) (other : String) (h : s.localName? path = some name) :
      (s.renameAt declared other).localName? path = some name := by
    unfold renameAt
    split
    · exact h
    next current hcurrent =>
      split
      next hdeclared =>
        have hne : path ≠ other := by
          rintro rfl
          cases h.symm.trans hcurrent
          exact hname (List.contains_iff_mem.mp hdeclared)
        rwa [localName?, Dict.get?_insert, if_neg hne, Dict.get?_erase, if_neg hne]
      next => exact h
  have hfold (paths : List String) (s : ImportTable) (h : s.localName? path = some name) :
      (paths.foldl (renameAt declared) s).localName? path = some name := by
    induction paths generalizing s with
    | nil => exact h
    | cons first paths ih => exact ih _ (hstep s first h)
  exact hfold s.paths s h

theorem paths_renameApart (h : s.names.Sorted) (declared : List String) :
    (s.renameApart declared).paths = s.paths := by
  refine NameSet.eq_of_mem_iff (sorted_renameApart h declared) h fun path => ?_
  rw [paths, paths, Dict.mem_keys_iff, Dict.mem_keys_iff]
  exact contains_renameApart

/-- Whatever changes a table has gone through: the paths added so far are those that have a local
name, and no two have the same. Adding a path that is there changes nothing; a new path gets a name
that no other has, its hint or default name if that is free, and the names of the others stay.
Avoiding declared names leaves none of them, keeps the paths and keeps every other name. And the
search for a free name ends, at the first one. -/
theorem localNames_afterChanges (changes : List Change) :
    let s := afterChanges changes
    (∀ path, (∃ name, s.localName? path = some name) ↔
      ∃ hint, Change.insert path hint ∈ changes) ∧
    (∀ path path' name, s.localName? path = some name → s.localName? path' = some name →
      path = path') ∧
    (∀ path name hint, s.localName? path = some name →
      s.insert path hint = s ∧ (s.insert path hint).localName? path = some name) ∧
    (∀ path hint, s.localName? path = none →
      (∀ other ≠ path, (s.insert path hint).localName? other = s.localName? other) ∧
      (∃ name, (s.insert path hint).localName? path = some name ∧
        ∀ other, s.localName? other ≠ some name) ∧
      ((∀ other, s.localName? other ≠ some (hint.getD (Name.ofImportPath path))) →
        (s.insert path hint).localName? path = some (hint.getD (Name.ofImportPath path)))) ∧
    (∀ declared,
      (∀ path name, (s.renameApart declared).localName? path = some name → name ∉ declared) ∧
      (s.renameApart declared).paths = s.paths ∧
      ∀ path name, s.localName? path = some name → name ∉ declared →
        (s.renameApart declared).localName? path = some name) ∧
    ∀ taken base, ∃ n, freeName taken base = candidate base n ∧ candidate base n ∉ taken ∧
      ∀ m < n, candidate base m ∈ taken := by
  intro s
  have hsorted : s.names.Sorted := sorted_afterChanges changes
  have hmem {name : String} : name ∈ s.names.values ↔ ∃ path, s.localName? path = some name :=
    hsorted.mem_values_iff
  refine ⟨fun path => Dict.contains_iff.symm.trans (contains_afterChanges changes),
    distinct_afterChanges changes, fun path name hint hname => ?_, fun path hint hnone => ?_,
    fun declared => ⟨apart_renameApart s declared, paths_renameApart hsorted declared,
      fun path name => localName?_renameApart⟩, freeName_eq_first_candidate⟩
  · have hsame : s.insert path hint = s :=
      insert_of_contains (Dict.contains_iff.mpr ⟨name, hname⟩) hint
    exact ⟨hsame, hsame.symm ▸ hname⟩
  · have hnew : s.contains path = false :=
      Option.isSome_eq_false_iff.mpr (Option.isNone_iff_eq_none.mpr hnone)
    refine ⟨fun other hne => localName?_insert_of_ne hne hint,
      ⟨_, localName?_insert_self hnew hint, fun other hother => ?_⟩, fun hfree => ?_⟩
    · exact freeName_not_mem _ _ (hmem.mpr ⟨other, hother⟩)
    · have hbase : hint.getD (Name.ofImportPath path) ∉ s.names.values := by
        intro htaken
        obtain ⟨other, hother⟩ := hmem.mp htaken
        exact hfree other hother
      rw [localName?_insert_self hnew, freeName_of_not_mem hbase]

/-- `errors2` goes to the second package of that name; the first keeps its own under any hint. -/
example : (afterChanges [.insert "github.com/a/errors" none, .insert "errors" none,
    .insert "github.com/a/errors" (some "other")]).names.entries =
      [("errors", "errors2"), ("github.com/a/errors", "errors")] := by
  decide +kernel

end ImportTable

end GoStub
