import GoStub.Proofs.Worklist

/-! What holds of the records and the worklist at every moment of a plan: every record is a draft of
its symbol, every need of a record is met, and a type met as embedded has its methods or is about to
get them. -/

namespace GoStub

namespace Progress

variable {target : PackageScope} {requested : NameSet} {w : Progress} {need : Need} {name : String}

/-- A need is taken care of: a type has a record or is about to get one, a package is imported, an
embedded type is known to be embedded. -/
def Met (w : Progress) : Need → Prop
  | .declared name => name ∈ w.listed ∨ name ∈ w.pending
  | .imported path => w.imports.contains path = true
  | .promoted name => name ∈ w.embedded

theorem Met.meetAll {needs : List Need} (h : w.Met need) :
    (w.meetAll target requested needs).Met need := by
  cases need with
  | declared name =>
    rcases h with h | h
    · exact Or.inl (by rwa [listed_meetAll])
    · exact Or.inr (mem_pending_meetAll.mpr (Or.inl h))
  | imported path => exact imports_contains_meetAll.mpr (Or.inl h)
  | promoted name => exact mem_embedded_meetAll.mpr (Or.inl h)

theorem met_of_mem {needs : List Need} (h : need ∈ needs) :
    (w.meetAll target requested needs).Met need := by
  cases need with
  | declared name =>
    simp only [Met, listed_meetAll, mem_pending_meetAll]
    by_cases hl : name ∈ w.listed
    · exact Or.inl hl
    · exact Or.inr (Or.inr (Or.inl ⟨h, hl⟩))
  | imported path => exact imports_contains_meetAll.mpr (Or.inr h)
  | promoted name => exact mem_embedded_meetAll.mpr (Or.inr h)

theorem Met.takeFirst {rest : NameSet} (hw : w.pending = name :: rest) (h : w.Met need) :
    (w.takeFirst name rest).Met need := by
  cases need with
  | declared n =>
    simp only [Met, Progress.takeFirst, NameSet.mem_add]
    simp only [Met, hw, List.mem_cons] at h
    tauto
  | imported path => exact h
  | promoted n => exact h

end Progress

namespace Subject

variable {P : Cache → Prop} {t : Subject} {first : List Record} {done : Dict Record} {w : Progress}
  {name : String} {d : Draft} {c c' : Cache}

/-- A record is a draft of its symbol, made when the loaded packages had the property `P`. -/
def Made (P : Cache → Prop) (t : Subject) (withMethods : Bool) (r : Record) : Prop :=
  ∃ c d c', P c ∧ ((t.siteOf r.name).draft t.source withMethods).Yields c d c' ∧
    r = t.recordOf r.requested r.name d

theorem made_recordOf {withMethods isRequested : Bool} (hc : P c)
    (hd : ((t.siteOf name).draft t.source withMethods).Yields c d c') :
    t.Made P withMethods (t.recordOf isRequested name d) :=
  ⟨c, d, c', hc, hd, rfl⟩

theorem Made.drafted {withMethods : Bool} {r : Record} (h : t.Made P withMethods r) :
    ∃ c d, (t.siteOf r.name).Drafted t.source withMethods c d ∧ r.shape = d.shape := by
  obtain ⟨c, d, c', -, hd, hr⟩ := h
  exact ⟨c, d, Site.drafted_of_draft hd, congrArg Record.shape hr⟩

/-- An auxiliary record: one of a type that was not requested. It has its methods exactly when the
type is known to be embedded, unless it is about to be made again. -/
structure Auxiliary (P : Cache → Prop) (t : Subject) (w : Progress) (name : String) (r : Record) :
    Prop where
  name_eq : r.name = name
  not_requested : r.requested = false ∧ name ∉ t.requested
  known : t.target.types.contains name = true
  made : ∃ withMethods, t.Made P withMethods r ∧ (withMethods = true → name ∈ w.embedded) ∧
    (name ∈ w.embedded → withMethods = true ∨ name ∈ w.pending)

/-- The records made so far and the state of the worklist fit together. -/
structure Ledger (P : Cache → Prop) (t : Subject) (first : List Record) (done : Dict Record)
    (w : Progress) : Prop where
  sorted : done.Sorted
  listed : ∀ n, n ∈ w.listed ↔ n ∈ t.requested ∨ done.contains n = true
  fresh : ∀ n ∈ w.pending, n ∉ t.requested
  requested : ∀ r ∈ first, t.Made P true r
  auxiliary : ∀ n r, done.get? n = some r → t.Auxiliary P w n r
  met : ∀ r, (r ∈ first ∨ ∃ n, done.get? n = some r) →
    ∀ need, r.shape.Needs t.target.importPath need → w.Met need

theorem ledger_start : t.Ledger P [] .empty ⟨.empty, t.requested, [], []⟩ where
  sorted := Dict.sorted_empty
  listed n := by simp
  fresh n hn := by cases hn
  requested r hr := by cases hr
  auxiliary n r hr := by simp at hr
  met r hr := by simp at hr

theorem met_after {withMethods isRequested : Bool}
    (hd : ((t.siteOf name).draft t.source withMethods).Yields c d c') {need : Need}
    (hn : (t.recordOf isRequested name d).shape.Needs t.target.importPath need) :
    (t.after w d).Met need :=
  Progress.met_of_mem ((Site.drafted_of_draft hd).mem_needs_of_shape hn)

theorem fresh_after (hl : ∀ n ∈ t.requested, n ∈ w.listed) (hf : ∀ n ∈ w.pending, n ∉ t.requested) :
    ∀ n ∈ (t.after w d).pending, n ∉ t.requested := by
  intro n hn
  rcases Progress.mem_pending_meetAll.mp hn with hn | ⟨-, hn⟩ | ⟨-, -, hn⟩
  · exact hf n hn
  · exact fun hr => hn (hl n hr)
  · exact hn

theorem Ledger.addRequested (h : t.Ledger P first .empty w) (hc : P c)
    (hd : ((t.siteOf name).draft t.source true).Yields c d c') :
    t.Ledger P (first ++ [t.recordOf true name d]) .empty (t.after w d) where
  sorted := Dict.sorted_empty
  listed n := by rw [after, Progress.listed_meetAll, h.listed]
  fresh := fresh_after (fun n hn => (h.listed n).mpr (Or.inl hn)) h.fresh
  requested := by
    rw [List.forall_mem_append, List.forall_mem_singleton]
    exact ⟨h.requested, made_recordOf hc hd⟩
  auxiliary n r hr := by simp at hr
  met r hr need hn := by
    rcases hr with hr | ⟨n, hr⟩
    · rcases List.mem_append.mp hr with hr | hr
      · exact (h.met r (Or.inl hr) need hn).meetAll
      · obtain rfl := List.mem_singleton.mp hr
        exact met_after hd hn
    · simp at hr

/-- A record of another type stays as it should be when `name` is taken up: if it has just been
found to be embedded, it is on the list again. -/
theorem Auxiliary.step {n : String} {r : Record} {rest : NameSet} (h : t.Auxiliary P w n r)
    (hn : n ≠ name) (hw : w.pending = name :: rest) :
    t.Auxiliary P (t.after (w.takeFirst name rest) d) n r := by
  obtain ⟨withMethods, hmade, hto, hfrom⟩ := h.made
  refine ⟨h.name_eq, h.not_requested, h.known, withMethods, hmade, ?_, ?_⟩
  · intro hm
    exact Progress.mem_embedded_meetAll.mpr (Or.inl (hto hm))
  · intro he
    by_cases hold : n ∈ w.embedded
    · rcases hfrom hold with hm | hp
      · exact Or.inl hm
      · rw [hw, List.mem_cons] at hp
        exact Or.inr (Progress.mem_pending_meetAll.mpr (Or.inl (hp.resolve_left hn)))
    · have hnew := (Progress.mem_embedded_meetAll.mp he).resolve_left hold
      exact Or.inr (Progress.mem_pending_meetAll.mpr
        (Or.inr (Or.inr ⟨hnew, hold, h.not_requested.2⟩)))

/-- The record just made has its methods if the type was known to be embedded; if the type embeds
itself, it is on the list again. -/
theorem Auxiliary.new {rest : NameSet} (hc : P c)
    (hf : name ∉ t.requested) (hk : t.target.types.contains name = true)
    (hd : ((t.siteOf name).draft t.source (w.embedded.contains name)).Yields c d c') :
    t.Auxiliary P (t.after (w.takeFirst name rest) d) name (t.recordOf false name d) := by
  refine ⟨rfl, ⟨rfl, hf⟩, hk, w.embedded.contains name, made_recordOf hc hd, ?_, ?_⟩
  · intro hm
    exact Progress.mem_embedded_meetAll.mpr (Or.inl (List.contains_iff_mem.mp hm))
  · intro he
    by_cases hold : name ∈ w.embedded
    · exact Or.inl (List.contains_iff_mem.mpr hold)
    · have hnew := (Progress.mem_embedded_meetAll.mp he).resolve_left hold
      exact Or.inr (Progress.mem_pending_meetAll.mpr (Or.inr (Or.inr ⟨hnew, hold, hf⟩)))

theorem Ledger.addAuxiliary {rest : NameSet} (h : t.Ledger P first done w) (hc : P c)
    (htidy : w.Tidy t.target) (hw : w.pending = name :: rest)
    (hd : ((t.siteOf name).draft t.source (w.embedded.contains name)).Yields c d c') :
    t.Ledger P first (done.insert name (t.recordOf false name d))
      (t.after (w.takeFirst name rest) d) where
  sorted := h.sorted.insert name _
  listed n := by
    rw [after, Progress.listed_meetAll, Progress.takeFirst, NameSet.mem_add, h.listed,
      Dict.contains_insert]
    tauto
  fresh := by
    apply fresh_after
    · intro n hn
      exact NameSet.mem_add.mpr (Or.inr ((h.listed n).mpr (Or.inl hn)))
    · intro n hn
      exact h.fresh n (hw ▸ List.mem_cons_of_mem name hn)
  requested := h.requested
  auxiliary n r hr := by
    rw [Dict.get?_insert] at hr
    split at hr
    next hn =>
      cases hr
      subst hn
      have hmem : n ∈ w.pending := hw ▸ List.mem_cons_self
      exact .new hc (h.fresh n hmem) (htidy.known n hmem) hd
    next hn => exact (h.auxiliary n r hr).step hn hw
  met r hr need hn := by
    have hold (hr : r ∈ first ∨ ∃ n, done.get? n = some r) :
        (t.after (w.takeFirst name rest) d).Met need := ((h.met r hr need hn).takeFirst hw).meetAll
    rcases hr with hr | ⟨n, hr⟩
    · exact hold (Or.inl hr)
    · rw [Dict.get?_insert] at hr
      split at hr
      next =>
        cases hr
        exact met_after hd hn
      next => exact hold (Or.inr ⟨n, hr⟩)

theorem Ledger.mem_records (h : t.Ledger P first done w) {r : Record} :
    r ∈ first ++ done.values ↔ r ∈ first ∨ ∃ n, done.get? n = some r := by
  rw [List.mem_append, h.sorted.mem_values_iff]

/-- Every record is made, a requested one with methods. -/
theorem Ledger.made_requested (h : t.Ledger P first done w) {r : Record}
    (hr : r ∈ first ++ done.values) :
    ∃ withMethods, t.Made P withMethods r ∧ (r.requested = true → withMethods = true) := by
  rcases h.mem_records.mp hr with hr | ⟨n, hr⟩
  · exact ⟨true, h.requested r hr, fun _ => rfl⟩
  · have haux := h.auxiliary n r hr
    obtain ⟨withMethods, hmade, -⟩ := haux.made
    refine ⟨withMethods, hmade, fun hreq => ?_⟩
    simp [haux.not_requested.1] at hreq

theorem Ledger.made (h : t.Ledger P first done w) {r : Record} (hr : r ∈ first ++ done.values) :
    ∃ withMethods, t.Made P withMethods r := by
  obtain ⟨withMethods, hmade, -⟩ := h.made_requested hr
  exact ⟨withMethods, hmade⟩

/-- A plan ends with records that fit together and an empty list. -/
theorem planFrom_ledger {source : Source} {request : Request} {target : PackageScope}
    {p : StubPlan} (ht : t = ofRequest source request target) (hc : P c)
    (hP : ∀ {name withMethods c d c'}, P c →
      ((t.siteOf name).draft t.source withMethods).Yields c d c' → P c')
    (h : (planFrom source request target).Yields c p c') :
    ∃ first done w, t.Ledger P first done w ∧ w.pending = [] ∧
      first.map (·.name) = request.names ∧ (∀ r ∈ first, r.requested = true) ∧
      p = ⟨target.importPath, target.name, first ++ done.values,
        w.imports.renameApart ((first ++ done.values).map (·.name))⟩ := by
  obtain ⟨first, done, w, ⟨-, hledger⟩, hrest⟩ := planFrom_run
    (motive := fun first done w c => P c ∧ t.Ledger P first done w) ht ⟨hc, ledger_start⟩
    (fun hi _ hd => ⟨hP hi.1 hd, hi.2.addRequested hi.1 hd⟩)
    (fun hi htidy hw hd => ⟨hP hi.1 hd, hi.2.addAuxiliary hi.1 htidy hw hd⟩) h
  exact ⟨first, done, w, hledger, hrest⟩

end Subject

/-- A package in which `Base` is met as a result of `Open` before `Store` is found to embed it, and
with it an array of constant length and a type of another package. -/
def shop : PackageScope where
  importPath := "example.com/shop"
  name := "shop"
  dir := ⟨"shop"⟩
  moduleDir := none
  types := ⟨[
    ("Base", ⟨"Base", [], false, .struct []⟩),
    ("Item", ⟨"Item", [], false, .struct [⟨"Next", .pointer (own "Item"), false, none⟩]⟩),
    ("Store", ⟨"Store", [], false, .struct [
      ⟨"Base", .pointer (own "Base"), true, none⟩,
      ⟨"Items", .array (.constant "example.com/shop" "Max") (own "Item"), false, none⟩,
      ⟨"Opened", .plain "time" "Time", false, none⟩]⟩)]⟩
  funcs := ⟨[("Open", ⟨"Open", [], ⟨[], false, [own "Base", .pointer (own "Store")]⟩⟩)]⟩
  values := ⟨[("Max", ⟨"Max", true, none, some (.basic .int), some "4"⟩)]⟩
  methods := ⟨[("Base", [
    ⟨"Base", true, [], "Close", ⟨[.plain "time" "Time"], false, []⟩⟩,
    ⟨"Base", true, [], "reset", ⟨[], false, []⟩⟩])]⟩
  importNames := .empty
where own (name : String) : GoType := .plain "example.com/shop" name

/-- A source that has just `shop`. -/
def shopSource : Source := fun path =>
  if path = shop.importPath then .ok shop else .error (.load path .unmapped)

theorem consistent_shopSource : shopSource.Consistent :=
  Source.consistent_single shop _

end GoStub
