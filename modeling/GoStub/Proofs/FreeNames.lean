import GoStub.Proofs.LocalNames

/-! The local names of a plan's imports are distinct and apart from the names the plan declares. A
package whose sources call its imports by such names has them kept: the table of its plan is then
these names, whatever the order the imports are met in. -/

namespace GoStub

theorem Dict.ext_of_get? {α : Type} {d₁ d₂ : Dict α} (h₁ : d₁.Sorted) (h₂ : d₂.Sorted)
    (h : ∀ key, d₁.get? key = d₂.get? key) : d₁ = d₂ := by
  have hentries : d₁.entries = d₂.entries := by
    have hmem (entry : String × α) : entry ∈ d₁.entries ↔ entry ∈ d₂.entries := by
      rw [← Prod.mk.eta (p := entry), h₁.mem_entries_iff, h₂.mem_entries_iff, h]
    exact eq_of_sorted_of_mem_iff h₁ h₂ hmem
  cases d₁
  cases d₂
  exact congrArg Dict.mk hentries

namespace ImportTable

theorem candidate_injective {base : String} {m n : Nat} (h : candidate base m = candidate base n) :
    m = n := by
  have hne (k : Nat) : base ≠ base ++ toString (k + 2) := by
    intro heq
    have hlen := congrArg (·.toList.length) heq
    have hdigits : 0 < (toString (k + 2)).toList.length := by
      rw [Nat.toString_eq_ofList_toDigits, String.toList_ofList]
      exact Nat.length_toDigits_pos
    simp only [String.toList_append, List.length_append] at hlen
    omega
  cases m with
  | zero =>
    cases n with
    | zero => rfl
    | succ n => exact absurd h (hne n)
  | succ m =>
    cases n with
    | zero => exact absurd h.symm (hne m)
    | succ n =>
      have hlist := congrArg String.toList h
      simp only [candidate, String.toList_append] at hlist
      have hdigits := List.append_cancel_left hlist
      have hnum := congrArg (fun ds => Nat.ofDigitChars 10 ds 0) hdigits
      simp only [Nat.toString_eq_ofList_toDigits, String.toList_ofList,
        Nat.ofDigitChars_ten_toDigits] at hnum
      omega

/-- Of one candidate more than there are taken names, one is free. -/
theorem freeName_not_mem (taken : List String) (base : String) : freeName taken base ∉ taken := by
  simp only [freeName]
  cases hfind : ((List.range (taken.length + 1)).map (candidate base)).find?
      fun n => !taken.contains n with
  | some name =>
    have hfree := List.find?_some hfind
    simpa using hfree
  | none =>
    have hall : (List.range (taken.length + 1)).map (candidate base) ⊆ taken := by
      intro name hname
      simpa using List.find?_eq_none.mp hfind name hname
    have hnodup : ((List.range (taken.length + 1)).map (candidate base)).Nodup :=
      List.nodup_range.map fun _ _ => candidate_injective
    have hlen := (hnodup.subperm hall).length_le
    simp at hlen

theorem freeName_of_not_mem {taken : List String} {base : String} (h : base ∉ taken) :
    freeName taken base = base := by
  simp [freeName, List.range_succ_eq_map, candidate, h]

variable {s t : ImportTable} {path name : String} {declared : List String}

/-- No two paths have the same local name. -/
def Distinct (s : ImportTable) : Prop :=
  ∀ path path' name, s.localName? path = some name → s.localName? path' = some name → path = path'

/-- No local name is declared. -/
def Apart (declared : List String) (s : ImportTable) : Prop :=
  ∀ path name, s.localName? path = some name → name ∉ declared

theorem distinct_empty : Distinct empty := by
  intro path path' name h
  cases h

theorem mem_values_of_localName? (h : s.localName? path = some name) : name ∈ s.names.values :=
  List.mem_map.mpr ⟨(path, name), Dict.mem_entries_of_get? h, rfl⟩

theorem Distinct.erase (h : s.Distinct) (path : String) : Distinct ⟨s.names.erase path⟩ := by
  intro path₁ path₂ name h₁ h₂
  rw [localName?, Dict.get?_erase] at h₁ h₂
  split at h₁
  · cases h₁
  · split at h₂
    · cases h₂
    · exact h path₁ path₂ name h₁ h₂

/-- A path added under a name that no other path has. -/
theorem Distinct.add (h : s.Distinct) (hname : name ∉ s.names.values) :
    Distinct ⟨s.names.insert path name⟩ := by
  intro path₁ path₂ n h₁ h₂
  rw [localName?, Dict.get?_insert] at h₁ h₂
  split at h₁
  next heq₁ =>
    split at h₂
    next heq₂ => exact heq₁.trans heq₂.symm
    next =>
      cases h₁
      exact absurd (mem_values_of_localName? (s := s) h₂) hname
  next =>
    split at h₂
    next =>
      cases h₂
      exact absurd (mem_values_of_localName? (s := s) h₁) hname
    next => exact h path₁ path₂ n h₁ h₂

theorem Distinct.insert (h : s.Distinct) (path : String) (hint : Option String) :
    (s.insert path hint).Distinct := by
  unfold ImportTable.insert
  split
  · exact h
  · exact h.add (freeName_not_mem _ _)

theorem Distinct.renameAt (h : s.Distinct) (declared : List String) (path : String) :
    (s.renameAt declared path).Distinct := by
  unfold ImportTable.renameAt
  split
  · exact h
  · split
    · refine (h.erase path).add fun hmem => ?_
      exact freeName_not_mem _ _ (List.mem_append_left _ hmem)
    · exact h

theorem Distinct.renameApart (h : s.Distinct) (declared : List String) :
    (s.renameApart declared).Distinct := by
  have hfold (paths : List String) (s : ImportTable) (h : s.Distinct) :
      (paths.foldl (ImportTable.renameAt declared) s).Distinct := by
    induction paths generalizing s with
    | nil => exact h
    | cons path paths ih => exact ih _ (h.renameAt declared path)
  exact hfold s.paths s h

/-- After a path has been looked at its name is not declared, and the others are as they were. -/
theorem localName?_renameAt {path' : String}
    (h : (s.renameAt declared path).localName? path' = some name) :
    path' ≠ path ∧ s.localName? path' = some name ∨ path' = path ∧ name ∉ declared := by
  unfold ImportTable.renameAt at h
  by_cases hpath : path' = path
  · subst hpath
    refine Or.inr ⟨rfl, ?_⟩
    split at h
    next hnone =>
      rw [hnone] at h
      cases h
    next current hcurrent =>
      split at h
      next =>
        rw [localName?, Dict.get?_insert, if_pos rfl] at h
        cases h
        exact fun hmem => freeName_not_mem _ _ (List.mem_append_right _ hmem)
      next hout =>
        cases hcurrent.symm.trans h
        simpa using hout
  · refine Or.inl ⟨hpath, ?_⟩
    split at h
    · exact h
    · split at h
      · rwa [localName?, Dict.get?_insert, if_neg hpath, Dict.get?_erase, if_neg hpath] at h
      · exact h

theorem apart_renameApart (s : ImportTable) (declared : List String) :
    (s.renameApart declared).Apart declared := by
  -- the paths still to come are the only ones whose names may be declared
  have hfold (paths : List String) (s : ImportTable)
      (h : ∀ path name, s.localName? path = some name → path ∈ paths ∨ name ∉ declared) :
      (paths.foldl (renameAt declared) s).Apart declared := by
    induction paths generalizing s with
    | nil =>
      intro path name hname
      exact (h path name hname).resolve_left List.not_mem_nil
    | cons first paths ih =>
      refine ih _ fun path name hname => ?_
      rcases localName?_renameAt hname with ⟨hne, hold⟩ | ⟨-, hout⟩
      · exact (h path name hold).imp_left fun hmem => (List.mem_cons.mp hmem).resolve_left hne
      · exact Or.inr hout
  refine hfold s.paths s fun path name hname => Or.inl ?_
  exact Dict.mem_keys_iff.mpr (Dict.contains_iff.mpr ⟨name, hname⟩)

theorem renameApart_of_apart (h : s.Apart declared) : s.renameApart declared = s := by
  have hstep (path : String) : s.renameAt declared path = s := by
    unfold renameAt
    split
    · rfl
    next current hcurrent =>
      rw [if_neg]
      simpa using h path current hcurrent
  have hfold (paths : List String) : paths.foldl (renameAt declared) s = s := by
    induction paths with
    | nil => rfl
    | cons path paths ih => rw [List.foldl_cons, hstep, ih]
  exact hfold s.paths

/-- A path that is added under the name another table has for it gets that name. -/
theorem localName?_insert_of_names (hs : s.names.Sorted) (ht : t.Distinct)
    (h : ∀ path name, s.localName? path = some name → t.localName? path = some name)
    (hint : t.localName? path = some name) {path' name' : String}
    (h' : (s.insert path (some name)).localName? path' = some name') :
    t.localName? path' = some name' := by
  unfold ImportTable.insert at h'
  split at h'
  · exact h path' name' h'
  next hnew =>
    have hfree : name ∉ s.names.values := by
      intro hmem
      obtain ⟨other, hother⟩ := hs.mem_values_iff.mp hmem
      cases ht _ _ name (h other name hother) hint
      exact hnew (Dict.contains_iff.mpr ⟨name, hother⟩)
    rw [localName?, Dict.get?_insert] at h'
    split at h'
    next heq =>
      cases h'
      rw [Option.getD_some, freeName_of_not_mem hfree, heq]
      exact hint
    next => exact h path' name' h'

end ImportTable

namespace Progress

variable {target : PackageScope} {requested : NameSet} {w : Progress} {imports : ImportTable}

theorem distinct_meetAll (h : w.imports.Distinct) (needs : List Need) :
    (w.meetAll target requested needs).imports.Distinct := by
  have hstep (w : Progress) (need : Need) (h : w.imports.Distinct) :
      (w.meet target requested need).imports.Distinct := by
    cases need with
    | imported path => exact h.insert path _
    | declared n | promoted n =>
      simp only [meet]
      split <;> exact h
  unfold meetAll
  induction needs generalizing w with
  | nil => exact h
  | cons need needs ih => exact ih (hstep w need h)

/-- If the packages met are among those of a table, they have the names they have there. -/
structure NamedAs (imports : ImportTable) (w : Progress) : Prop where
  sorted : w.imports.names.Sorted
  named : (∀ path, w.imports.contains path = true → imports.contains path = true) →
    ∀ path name, w.imports.localName? path = some name → imports.localName? path = some name

theorem NamedAs.meet (hd : imports.Distinct)
    (hhints : ∀ path name, imports.localName? path = some name →
      target.importNames.get? path = some name)
    (h : w.NamedAs imports) (need : Need) : (w.meet target requested need).NamedAs imports := by
  cases need with
  | declared n | promoted n =>
    simp only [Progress.meet]
    split
    · exact h
    · exact ⟨h.sorted, h.named⟩
  | imported path =>
    refine ⟨ImportTable.sorted_insert h.sorted path _, fun hall => ?_⟩
    have hcontains (path' : String) (hpath' : path' = path ∨ w.imports.contains path' = true) :
        imports.contains path' = true :=
      hall path' (ImportTable.contains_insert.mpr hpath')
    obtain ⟨name, hname⟩ := Dict.contains_iff.mp (hcontains path (Or.inl rfl))
    have hnames := h.named fun path' hpath' => hcontains path' (Or.inr hpath')
    intro path' name' h'
    simp only [Progress.meet, hhints path name hname] at h'
    exact ImportTable.localName?_insert_of_names h.sorted hd hnames hname h'

theorem NamedAs.meetAll (hd : imports.Distinct)
    (hhints : ∀ path name, imports.localName? path = some name →
      target.importNames.get? path = some name)
    (h : w.NamedAs imports) (needs : List Need) :
    (w.meetAll target requested needs).NamedAs imports := by
  unfold Progress.meetAll
  induction needs generalizing w with
  | nil => exact h
  | cons need needs ih => exact ih (h.meet hd hhints need)

end Progress

variable {source : Source} {request : Request} {target : PackageScope} {p : StubPlan} {c c' : Cache}

theorem distinct_of_planFrom (h : (planFrom source request target).Yields c p c') :
    p.imports.Distinct := by
  obtain ⟨first, done, w, hw, -, -, -, rfl⟩ := Subject.planFrom_run
    (motive := fun _ _ w _ => w.imports.Distinct) rfl ImportTable.distinct_empty
    (fun hw _ _ => Progress.distinct_meetAll hw _)
    (fun {_ _ w _ name rest _ _} hw _ _ _ =>
      Progress.distinct_meetAll (w := w.takeFirst name rest) hw _) h
  exact hw.renameApart _

theorem apart_of_planFrom (h : (planFrom source request target).Yields c p c') :
    p.imports.Apart (p.records.map (·.name)) := by
  obtain ⟨first, done, w, -, -, -, -, rfl⟩ := Subject.planFrom_run
    (motive := fun _ _ _ _ => True) rfl trivial (fun _ _ _ => trivial)
    (fun _ _ _ _ => trivial) h
  exact ImportTable.apart_renameApart _ _

/-- A package that calls its imports by distinct names, apart from those its plan declares, has its
plan call them so. -/
theorem imports_of_planFrom_eq {imports : ImportTable} (hsorted : imports.names.Sorted)
    (hd : imports.Distinct)
    (hhints : ∀ path name, imports.localName? path = some name →
      target.importNames.get? path = some name)
    (h : (planFrom source request target).Yields c p c')
    (hpaths : ∀ path, p.imports.contains path = true ↔ imports.contains path = true)
    (hapart : imports.Apart (p.records.map (·.name))) : p.imports = imports := by
  have hstart : (⟨.empty, (Subject.ofRequest source request target).requested, [], []⟩ :
      Progress).NamedAs imports :=
    ⟨Dict.sorted_empty, fun _ path name hname => by cases hname⟩
  obtain ⟨first, done, w, hw, -, -, -, rfl⟩ := Subject.planFrom_run
    (motive := fun _ _ w _ => w.NamedAs imports) rfl hstart
    (fun hw _ _ => hw.meetAll hd hhints _)
    (fun {_ _ w _ name rest _ _} hw _ _ _ =>
      Progress.NamedAs.meetAll (w := w.takeFirst name rest) hd hhints ⟨hw.sorted, hw.named⟩ _) h
  have hcontains (path : String) :
      w.imports.contains path = true ↔ imports.contains path = true :=
    ImportTable.contains_renameApart.symm.trans (hpaths path)
  have hnames := hw.named fun path => (hcontains path).mp
  have heq : w.imports = imports := by
    have hdict : w.imports.names = imports.names := by
      refine Dict.ext_of_get? hw.sorted hsorted fun path => ?_
      cases hname : w.imports.names.get? path with
      | some name => exact (hnames path name hname).symm
      | none =>
        cases hname' : imports.names.get? path with
        | none => rfl
        | some name =>
          obtain ⟨other, hother⟩ :=
            Dict.contains_iff.mp ((hcontains path).mpr (Dict.contains_iff.mpr ⟨name, hname'⟩))
          cases hname.symm.trans hother
    exact congrArg ImportTable.mk hdict
  rw [heq]
  exact ImportTable.renameApart_of_apart hapart

end GoStub
