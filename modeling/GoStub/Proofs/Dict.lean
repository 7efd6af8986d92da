import GoStub.Dict
import Mathlib.Data.String.Basic

/-! Dictionaries and name sets through their look-ups. No law of a look-up needs the order of the
entries; the laws of listed entries do. -/

namespace GoStub

namespace Dict

variable {α β : Type}

private theorem lookup_cons_ite (k key : String) (value : α) (rest : List (String × α)) :
    ((key, value) :: rest).lookup k = if k = key then some value else rest.lookup k := by
  rw [List.lookup_cons]
  by_cases hk : k = key
  · simp [hk]
  · simp [beq_eq_false_iff_ne.mpr hk, hk]

theorem lookup_insertEntry (key : String) (value : α) (entries : List (String × α))
    (k : String) :
    (insertEntry key value entries).lookup k =
      if k = key then some value else entries.lookup k := by
  induction entries with
  | nil => simp only [insertEntry, lookup_cons_ite]
  | cons e rest ih =>
    obtain ⟨k', v'⟩ := e
    unfold insertEntry
    by_cases hlt : key < k'
    · rw [if_pos hlt, lookup_cons_ite]
    · rw [if_neg hlt]
      by_cases heq : key = k'
      · subst heq
        rw [if_pos rfl, lookup_cons_ite, lookup_cons_ite]
        by_cases hk : k = key <;> simp only [hk, ↓reduceIte]
      · rw [if_neg heq, lookup_cons_ite, ih, lookup_cons_ite]
        by_cases hk : k = key
        · subst hk
          simp only [heq, ↓reduceIte]
        · simp only [hk, ↓reduceIte]

@[simp] theorem get?_insert (d : Dict α) (key : String) (value : α) (k : String) :
    (d.insert key value).get? k = if k = key then some value else d.get? k :=
  lookup_insertEntry key value d.entries k

@[simp] theorem get?_empty (k : String) : (empty : Dict α).get? k = none := rfl

theorem get?_of_isEmpty {d : Dict α} (h : d.isEmpty = true) (k : String) : d.get? k = none := by
  obtain ⟨entries⟩ := d
  rw [isEmpty, List.isEmpty_iff] at h
  subst h
  rfl

theorem contains_iff {d : Dict α} {k : String} :
    d.contains k = true ↔ ∃ value, d.get? k = some value :=
  Option.isSome_iff_exists

@[simp] theorem contains_empty (k : String) : (empty : Dict α).contains k = false := rfl

theorem contains_insert (d : Dict α) (key : String) (value : α) (k : String) :
    (d.insert key value).contains k = true ↔ k = key ∨ d.contains k = true := by
  unfold contains
  rw [get?_insert]
  by_cases hk : k = key <;> simp [hk]

theorem get?_erase (d : Dict α) (key k : String) :
    (d.erase key).get? k = if k = key then none else d.get? k := by
  obtain ⟨entries⟩ := d
  change (entries.filter fun e => e.1 ≠ key).lookup k = if k = key then none else entries.lookup k
  induction entries with
  | nil => simp
  | cons e rest ih =>
    obtain ⟨k', v'⟩ := e
    rw [lookup_cons_ite]
    by_cases hkey : k' = key
    · rw [List.filter_cons_of_neg (by simpa using hkey), ih, hkey]
      by_cases hk : k = key <;> simp only [hk, ↓reduceIte]
    · rw [List.filter_cons_of_pos (by simpa using hkey), lookup_cons_ite, ih]
      by_cases hk : k = k'
      · subst hk
        simp only [hkey, ↓reduceIte]
      · simp only [hk, ↓reduceIte]

theorem mem_keys_iff {d : Dict α} {k : String} : k ∈ d.keys ↔ d.contains k = true := by
  obtain ⟨entries⟩ := d
  change k ∈ entries.map (·.1) ↔ (entries.lookup k).isSome = true
  induction entries with
  | nil => simp
  | cons e rest ih =>
    obtain ⟨k', v'⟩ := e
    rw [lookup_cons_ite, List.map_cons, List.mem_cons, ih]
    by_cases hk : k = k' <;> simp [hk]

theorem mem_entries_of_get? {d : Dict α} {k : String} {value : α} (h : d.get? k = some value) :
    (k, value) ∈ d.entries := by
  obtain ⟨l₁, l₂, hentries, -⟩ := List.lookup_eq_some_iff.mp h
  rw [hentries]
  exact List.mem_append_right _ List.mem_cons_self

/-- The keys stand in increasing order, so no key stands twice. -/
def Sorted (d : Dict α) : Prop := d.keys.Pairwise (· < ·)

theorem sorted_empty : (empty : Dict α).Sorted := List.Pairwise.nil

theorem mem_map_insertEntry {key k : String} {value : α} {entries : List (String × α)}
    (h : k ∈ (insertEntry key value entries).map (·.1)) : k = key ∨ k ∈ entries.map (·.1) := by
  have hc := (mem_keys_iff (d := (⟨entries⟩ : Dict α).insert key value)).mp h
  rcases (contains_insert _ key value k).mp hc with hk | hk
  · exact Or.inl hk
  · exact Or.inr (mem_keys_iff.mpr hk)

theorem Sorted.insert {d : Dict α} (h : d.Sorted) (key : String) (value : α) :
    (d.insert key value).Sorted := by
  obtain ⟨entries⟩ := d
  change (entries.map (·.1)).Pairwise (· < ·) at h
  change ((insertEntry key value entries).map (·.1)).Pairwise (· < ·)
  induction entries with
  | nil => simp [insertEntry]
  | cons e rest ih =>
    obtain ⟨k', v'⟩ := e
    obtain ⟨hhead, htail⟩ := List.pairwise_cons.mp h
    unfold insertEntry
    by_cases hlt : key < k'
    · rw [if_pos hlt]
      refine List.pairwise_cons.mpr ⟨?_, h⟩
      intro k hk
      rcases List.mem_cons.mp hk with rfl | hk
      · exact hlt
      · exact lt_trans hlt (hhead k hk)
    · rw [if_neg hlt]
      by_cases heq : key = k'
      · subst heq
        rw [if_pos rfl]
        exact List.pairwise_cons.mpr ⟨hhead, htail⟩
      · rw [if_neg heq]
        refine List.pairwise_cons.mpr ⟨?_, ih htail⟩
        intro k hk
        rcases mem_map_insertEntry hk with rfl | hk
        · exact lt_of_le_of_ne (not_lt.mp hlt) (Ne.symm heq)
        · exact hhead k hk

theorem mem_entries_insert {d : Dict α} {key : String} {value : α} {e : String × α}
    (h : e ∈ (d.insert key value).entries) : e = (key, value) ∨ e ∈ d.entries := by
  obtain ⟨entries⟩ := d
  change e ∈ insertEntry key value entries at h
  change e = (key, value) ∨ e ∈ entries
  induction entries with
  | nil => exact Or.inl (List.mem_singleton.mp h)
  | cons head rest ih =>
    obtain ⟨k', v'⟩ := head
    unfold insertEntry at h
    split at h
    · exact List.mem_cons.mp h
    · split at h
      · rcases List.mem_cons.mp h with h | h
        · exact Or.inl h
        · exact Or.inr (List.mem_cons_of_mem _ h)
      · rcases List.mem_cons.mp h with rfl | h
        · exact Or.inr List.mem_cons_self
        · exact (ih h).imp_right (List.mem_cons_of_mem _)

/-- What is listed was put in. -/
theorem mem_entries_ofList {entries : List (String × α)} {e : String × α}
    (h : e ∈ (ofList entries).entries) : e ∈ entries := by
  have hfold (entries : List (String × α)) (d : Dict α)
      (h : e ∈ (entries.foldl (fun d e => d.insert e.1 e.2) d).entries) :
      e ∈ entries ∨ e ∈ d.entries := by
    induction entries generalizing d with
    | nil => exact Or.inr h
    | cons head rest ih =>
      rcases ih _ h with h | h
      · exact Or.inl (List.mem_cons_of_mem head h)
      · rcases mem_entries_insert h with rfl | h
        · exact Or.inl List.mem_cons_self
        · exact Or.inr h
  exact (hfold entries empty h).resolve_right List.not_mem_nil

theorem mem_entries_foldl_insertNew {γ : Type} {key : γ → String} {value : γ → α} {xs : List γ}
    {d : Dict α} {e : String × α}
    (h : e ∈ (xs.foldl (fun d x => d.insertNew (key x) (value x)) d).entries) :
    (∃ x ∈ xs, e = (key x, value x)) ∨ e ∈ d.entries := by
  induction xs generalizing d with
  | nil => exact Or.inr h
  | cons x rest ih =>
    rcases ih h with ⟨y, hy, rfl⟩ | h
    · exact Or.inl ⟨y, List.mem_cons_of_mem x hy, rfl⟩
    · dsimp only [insertNew] at h
      split at h
      · exact Or.inr h
      · exact (mem_entries_insert h).imp_left fun h => ⟨x, List.mem_cons_self, h⟩

theorem Sorted.erase {d : Dict α} (h : d.Sorted) (key : String) : (d.erase key).Sorted :=
  List.Pairwise.sublist (List.filter_sublist.map _) h

/-- With keys in order, the entries are what the look-up finds. -/
theorem Sorted.mem_entries_iff {d : Dict α} (h : d.Sorted) {k : String} {value : α} :
    (k, value) ∈ d.entries ↔ d.get? k = some value := by
  obtain ⟨entries⟩ := d
  change (entries.map (·.1)).Pairwise (· < ·) at h
  change (k, value) ∈ entries ↔ entries.lookup k = some value
  induction entries with
  | nil => simp
  | cons e rest ih =>
    obtain ⟨k', v'⟩ := e
    obtain ⟨hhead, htail⟩ := List.pairwise_cons.mp h
    rw [lookup_cons_ite, List.mem_cons, ih htail]
    by_cases hk : k = k'
    · subst hk
      have hno : rest.lookup k ≠ some value := by
        intro hfound
        have hmem := (ih htail).mpr hfound
        exact lt_irrefl k (hhead k (List.mem_map_of_mem hmem))
      simp [hno, eq_comm]
    · simp [hk]

theorem Sorted.get?_filter {d : Dict α} (h : d.Sorted) (f : String × α → Bool) (k : String) :
    (⟨d.entries.filter f⟩ : Dict α).get? k = (d.get? k).filter fun value => f (k, value) := by
  have hs : (⟨d.entries.filter f⟩ : Dict α).Sorted := h.sublist (List.filter_sublist.map _)
  ext value
  rw [← hs.mem_entries_iff, List.mem_filter, h.mem_entries_iff, Option.filter_eq_some_iff]

theorem get?_map {β : Type} (d : Dict α) (f : α → β) (k : String) :
    (d.map f).get? k = (d.get? k).map f := by
  obtain ⟨entries⟩ := d
  unfold get? map
  induction entries with
  | nil => rfl
  | cons e rest ih =>
    rw [List.map_cons, List.lookup_cons, List.lookup_cons]
    split
    · rfl
    · exact ih

theorem Sorted.map {β : Type} {d : Dict α} (h : d.Sorted) (f : α → β) : (d.map f).Sorted := by
  unfold Sorted keys Dict.map
  rw [List.map_map]
  exact h

theorem Sorted.mem_values_iff {d : Dict α} (h : d.Sorted) {value : α} :
    value ∈ d.values ↔ ∃ k, d.get? k = some value := by
  constructor
  · intro hv
    obtain ⟨⟨k, v⟩, hmem, rfl⟩ := List.mem_map.mp hv
    exact ⟨k, h.mem_entries_iff.mp hmem⟩
  · rintro ⟨k, hk⟩
    exact List.mem_map.mpr ⟨(k, value), h.mem_entries_iff.mpr hk, rfl⟩

theorem sorted_ofList (entries : List (String × α)) : (ofList entries).Sorted := by
  have hfold (d : Dict α) (hd : d.Sorted) :
      (entries.foldl (fun d e => d.insert e.1 e.2) d).Sorted := by
    induction entries generalizing d with
    | nil => exact hd
    | cons e rest ih => exact ih _ (hd.insert e.1 e.2)
  exact hfold empty sorted_empty

theorem contains_ofList {entries : List (String × α)} {k : String} :
    (ofList entries).contains k = true ↔ ∃ value, (k, value) ∈ entries := by
  have hfold (d : Dict α) : (entries.foldl (fun d e => d.insert e.1 e.2) d).contains k = true ↔
      (∃ value, (k, value) ∈ entries) ∨ d.contains k = true := by
    induction entries generalizing d with
    | nil => simp
    | cons e rest ih =>
      obtain ⟨key, value⟩ := e
      rw [List.foldl_cons, ih, contains_insert]
      simp only [List.mem_cons, Prod.mk.injEq, exists_or, exists_and_left, exists_eq, and_true]
      tauto
  simpa [ofList] using hfold empty

theorem mem_of_get?_foldl_insert {entries : List (String × α)} {d : Dict α} {k : String} {value : α}
    (h : (entries.foldl (fun d e => d.insert e.1 e.2) d).get? k = some value) :
    (k, value) ∈ entries ∨ d.get? k = some value := by
  induction entries generalizing d with
  | nil => exact Or.inr h
  | cons e rest ih =>
    rcases ih h with h | h
    · exact Or.inl (List.mem_cons_of_mem e h)
    · rw [get?_insert] at h
      split at h
      next hk =>
        cases h
        exact Or.inl (hk ▸ List.mem_cons_self)
      next => exact Or.inr h

/-- What is found was listed. -/
theorem mem_of_get?_ofList {entries : List (String × α)} {k : String} {value : α}
    (h : (ofList entries).get? k = some value) : (k, value) ∈ entries := by
  simpa using mem_of_get?_foldl_insert h

theorem get?_insertNew (d : Dict α) (key : String) (value : α) (k : String) :
    (d.insertNew key value).get? k = (d.get? k).or (if k = key then some value else none) := by
  unfold insertNew contains
  cases hd : d.get? key with
  | none =>
    by_cases hk : k = key
    · simp [hk, hd]
    · simp [hk]
  | some old =>
    by_cases hk : k = key
    · simp [hk, hd]
    · simp [hk]

theorem Sorted.insertNew {d : Dict α} (h : d.Sorted) (key : String) (value : α) :
    (d.insertNew key value).Sorted := by
  unfold Dict.insertNew
  split
  · exact h
  · exact h.insert key value

theorem get?_foldl_insertNew_entries (entries : List (String × α)) (d : Dict α) (key : String) :
    (entries.foldl (fun d e => d.insertNew e.1 e.2) d).get? key =
      (d.get? key).or (entries.lookup key) := by
  induction entries generalizing d with
  | nil => simp
  | cons e entries ih =>
    rw [List.foldl_cons, ih, get?_insertNew, Option.or_assoc, List.lookup_cons]
    by_cases h : key = e.1
    · simp [h]
    · simp [h, beq_eq_false_iff_ne.mpr h]

theorem Sorted.foldl_insertNew {d : Dict α} (h : d.Sorted) (entries : List (String × α)) :
    (entries.foldl (fun d e => d.insertNew e.1 e.2) d).Sorted := by
  induction entries generalizing d with
  | nil => exact h
  | cons e entries ih => exact ih (h.insertNew e.1 e.2)

end Dict

section InsertBy

variable {α : Type} {cmp : α → α → Ordering} {x y : α} {l : List α}

theorem mem_of_mem_insertBy (h : y ∈ insertBy cmp x l) : y = x ∨ y ∈ l := by
  induction l with
  | nil => exact Or.inl (List.mem_singleton.mp h)
  | cons z rest ih =>
    unfold insertBy at h
    split at h
    · exact List.mem_cons.mp h
    · exact Or.inr h
    · rcases List.mem_cons.mp h with rfl | h
      · exact Or.inr List.mem_cons_self
      · exact (ih h).imp_right (List.mem_cons_of_mem z)

theorem mem_insertBy_of_mem (h : y ∈ l) : y ∈ insertBy cmp x l := by
  induction l with
  | nil => cases h
  | cons z rest ih =>
    unfold insertBy
    split
    · exact List.mem_cons_of_mem x h
    · exact h
    · rcases List.mem_cons.mp h with rfl | h
      · exact List.mem_cons_self
      · exact List.mem_cons_of_mem z (ih h)

/-- An equal element is there afterwards. -/
theorem exists_mem_insertBy [Std.ReflCmp cmp] (x : α) (l : List α) :
    ∃ y ∈ insertBy cmp x l, cmp x y = .eq := by
  induction l with
  | nil => exact ⟨x, List.mem_cons_self, Std.ReflCmp.compare_self⟩
  | cons z rest ih =>
    unfold insertBy
    split
    · exact ⟨x, List.mem_cons_self, Std.ReflCmp.compare_self⟩
    next heq => exact ⟨z, List.mem_cons_self, heq⟩
    · obtain ⟨y, hy, heq⟩ := ih
      exact ⟨y, List.mem_cons_of_mem z hy, heq⟩

/-- Adding an element keeps an increasing list increasing. -/
theorem pairwise_insertBy [Std.TransCmp cmp] (h : l.Pairwise (cmp · · = .lt)) (x : α) :
    (insertBy cmp x l).Pairwise (cmp · · = .lt) := by
  induction l with
  | nil => simp [insertBy]
  | cons z rest ih =>
    obtain ⟨hhead, htail⟩ := List.pairwise_cons.mp h
    unfold insertBy
    split
    next hlt =>
      refine List.pairwise_cons.mpr ⟨fun k hk => ?_, h⟩
      rcases List.mem_cons.mp hk with rfl | hk
      · exact hlt
      · exact Std.TransCmp.lt_trans hlt (hhead k hk)
    next => exact h
    next hgt =>
      refine List.pairwise_cons.mpr ⟨fun k hk => ?_, ih htail⟩
      rcases mem_of_mem_insertBy hk with rfl | hk
      · exact Std.OrientedCmp.gt_iff_lt.mp hgt
      · exact hhead k hk

end InsertBy

namespace NameSet

theorem mem_add {x y : String} {s : NameSet} : x ∈ NameSet.add y s ↔ x = y ∨ x ∈ s := by
  constructor
  · exact mem_of_mem_insertBy
  · rintro (rfl | hx)
    · obtain ⟨z, hz, heq⟩ : ∃ z ∈ NameSet.add x s, compare x z = .eq := exists_mem_insertBy x s
      exact (Std.LawfulEqOrd.eq_of_compare heq) ▸ hz
    · exact mem_insertBy_of_mem hx

theorem mem_foldl_add {x : String} (names : List String) (s : NameSet) :
    x ∈ names.foldl (fun s x => NameSet.add x s) s ↔ x ∈ names ∨ x ∈ s := by
  induction names generalizing s with
  | nil => simp
  | cons n rest ih =>
    rw [List.foldl_cons, ih, mem_add, List.mem_cons]
    tauto

theorem mem_ofNames {x : String} {names : List String} : x ∈ NameSet.ofNames names ↔ x ∈ names := by
  unfold NameSet.ofNames
  rw [mem_foldl_add]
  simp

theorem sorted_add {s : NameSet} (h : s.Pairwise (· < ·)) (x : String) :
    (NameSet.add x s).Pairwise (· < ·) := by
  simp only [← compare_lt_iff_lt] at h ⊢
  exact pairwise_insertBy h x

theorem sorted_ofNames (names : List String) : (NameSet.ofNames names).Pairwise (· < ·) := by
  have hfold (s : NameSet) (hs : s.Pairwise (· < ·)) :
      (names.foldl (fun s x => NameSet.add x s) s).Pairwise (· < ·) := by
    induction names generalizing s with
    | nil => exact hs
    | cons n rest ih => exact ih _ (sorted_add hs n)
  exact hfold [] .nil

end NameSet

/-- Two lists in the same strict order with the same members are the same. -/
theorem eq_of_pairwise_of_mem_iff {α : Type} {r : α → α → Prop} {l₁ l₂ : List α}
    (hr : ∀ {a b}, r a b → ¬ r b a) (h₁ : l₁.Pairwise r) (h₂ : l₂.Pairwise r)
    (h : ∀ a, a ∈ l₁ ↔ a ∈ l₂) : l₁ = l₂ := by
  have hnodup {l : List α} (hl : l.Pairwise r) : l.Nodup := by
    refine hl.imp ?_
    rintro a _ haa rfl
    exact hr haa haa
  have hperm : l₁.Perm l₂ := (List.perm_ext_iff_of_nodup (hnodup h₁) (hnodup h₂)).mpr h
  exact hperm.eq_of_pairwise (fun a b _ _ hab hba => absurd hba (hr hab)) h₁ h₂

/-- Two lists in the order of their keys with the same members are the same. -/
theorem eq_of_sorted_of_mem_iff {α : Type} {f : α → String} {l₁ l₂ : List α}
    (h₁ : (l₁.map f).Pairwise (· < ·)) (h₂ : (l₂.map f).Pairwise (· < ·))
    (h : ∀ a, a ∈ l₁ ↔ a ∈ l₂) : l₁ = l₂ :=
  eq_of_pairwise_of_mem_iff lt_asymm (List.pairwise_map.mp h₁) (List.pairwise_map.mp h₂) h

theorem NameSet.eq_of_mem_iff {s₁ s₂ : NameSet} (h₁ : s₁.Pairwise (· < ·))
    (h₂ : s₂.Pairwise (· < ·)) (h : ∀ x, x ∈ s₁ ↔ x ∈ s₂) : s₁ = s₂ :=
  eq_of_pairwise_of_mem_iff lt_asymm h₁ h₂ h

/-- Repetitions may be left out before or after a selection. -/
theorem eraseDups_filter (p : String → Bool) (names : List String) :
    (names.filter p).eraseDups = names.eraseDups.filter p := by
  induction names generalizing p with
  | nil => rfl
  | cons n names ih =>
    rw [List.eraseDups_cons, ih]
    cases hn : p n with
    | true =>
      rw [List.filter_cons_of_pos hn, List.filter_cons_of_pos hn, List.eraseDups_cons,
        List.filter_filter, List.filter_filter, ih]
      simp only [Bool.and_comm]
    | false =>
      have hp : ¬ p n = true := by simp [hn]
      rw [List.filter_cons_of_neg hp, List.filter_cons_of_neg hp, List.filter_filter, ih]
      refine List.filter_congr fun x _ => ?_
      by_cases hx : x = n <;> simp [hx, hn]

theorem nodup_eraseDups (names : List String) : names.eraseDups.Nodup := by
  induction names with
  | nil => exact List.nodup_nil
  | cons n names ih =>
    rw [List.eraseDups_cons, eraseDups_filter]
    exact List.nodup_cons.mpr ⟨by simp, ih.filter _⟩

end GoStub
