import GoStub.Proofs.Ledger

/-! The records of a plan: the requested ones in the order of the request, then the types they need
in the order of their names. With a consistent source these are exactly the types needed; without
one a record can be left over. -/

namespace GoStub

namespace StubPlan

def requested (p : StubPlan) : List Record :=
  p.records.filter (·.requested)

def auxiliary (p : StubPlan) : List Record :=
  p.records.filter (!·.requested)

end StubPlan

/-- The least set of type names of the package `own` with those that a requested record mentions
and those that the record of a name in the set mentions. -/
inductive Needed (own : String) (records : List Record) : String → Prop
  | ofRequested {r : Record} {n : String} (hr : r ∈ records) (hreq : r.requested = true)
      (hm : r.shape.Mentions own n) : Needed own records n
  | ofNeeded {r : Record} {n : String} (hr : r ∈ records) (hn : Needed own records r.name)
      (hm : r.shape.Mentions own n) : Needed own records n

theorem Needed.mentioned {own n : String} {records : List Record} (h : Needed own records n) :
    ∃ r ∈ records, r.shape.Mentions own n := by
  cases h with
  | ofRequested hr hreq hm => exact ⟨_, hr, hm⟩
  | ofNeeded hr hn hm => exact ⟨_, hr, hm⟩

/-- What is needed stays so when records come to mention more. -/
theorem Needed.mono {own n : String} {records records' : List Record}
    (h : ∀ r ∈ records, ∃ r' ∈ records', r'.name = r.name ∧ r'.requested = r.requested ∧
      r.shape.types ⊆ r'.shape.types) (hn : Needed own records n) : Needed own records' n := by
  induction hn with
  | ofRequested hr hreq hm =>
    obtain ⟨r', hr', -, hreq', hsub⟩ := h _ hr
    obtain ⟨t, ht, ho⟩ := hm
    exact .ofRequested hr' (hreq'.trans hreq) ⟨t, hsub ht, ho⟩
  | ofNeeded hr hn hm ih =>
    obtain ⟨r', hr', hname, -, hsub⟩ := h _ hr
    obtain ⟨t, ht, ho⟩ := hm
    exact .ofNeeded hr' (hname ▸ ih) ⟨t, hsub ht, ho⟩

instance {own n : String} {s : Shape} : Decidable (s.Mentions own n) :=
  decidable_of_iff _ Shape.needs_declared_iff

namespace Subject

open Lookup

variable {t : Subject} {first : List Record} {done : Dict Record} {w : Progress} {name n : String}
  {d : Draft} {c c' : Cache}

/-- Every type with a record or about to get one is needed by the records there are. -/
def Justified (t : Subject) (first : List Record) (done : Dict Record) (w : Progress) : Prop :=
  ∀ n, n ∈ w.pending ∨ done.contains n = true →
    Needed t.target.importPath (first ++ done.values) n

theorem mem_pending_after {withMethods : Bool} (hb : t.target.InterfacesBare)
    (hd : ((t.siteOf name).draft t.source withMethods).Yields c d c')
    (hn : n ∈ (t.after w d).pending) :
    n ∈ w.pending ∨ d.shape.Mentions t.target.importPath n := by
  have hdrafted := Site.drafted_of_draft hd
  have hmentions (hneed : Need.declared n ∈ d.needs) : d.shape.Mentions t.target.importPath n :=
    Shape.needs_declared_iff.mp (hdrafted.shape_needs_of_bare hb hneed)
  rcases Progress.mem_pending_meetAll.mp hn with hn | ⟨hn, -⟩ | ⟨hn, -⟩
  · exact Or.inl hn
  · exact Or.inr (hmentions hn)
  · exact Or.inr (hmentions (hdrafted.declared_of_promoted hn))

theorem Justified.addRequested (h : t.Justified first .empty w) (hb : t.target.InterfacesBare)
    (hd : ((t.siteOf name).draft t.source true).Yields c d c') :
    t.Justified (first ++ [t.recordOf true name d]) .empty (t.after w d) := by
  rintro n (hn | hn)
  · rcases mem_pending_after hb hd hn with hn | hn
    · refine (h n (Or.inl hn)).mono fun r hr => ⟨r, ?_, rfl, rfl, List.Subset.refl _⟩
      simp only [List.mem_append] at hr ⊢
      tauto
    · refine .ofRequested (r := t.recordOf true name d) ?_ rfl hn
      simp
  · simp at hn

/-- A record takes the place of the one its type had, and is the same but for methods. -/
theorem Ledger.replaced (hs : t.source.Consistent)
    (h : t.Ledger (Agrees t.source) first done w) (hc : Agrees t.source c)
    (hd : ((t.siteOf name).draft t.source (w.embedded.contains name)).Yields c d c')
    {r : Record} (hr : r ∈ first ++ done.values) :
    ∃ r' ∈ first ++ (done.insert name (t.recordOf false name d)).values,
      r'.name = r.name ∧ r'.requested = r.requested ∧ r'.shape.Extends r.shape := by
  have hmem (r' : Record) : r' ∈ first ++ (done.insert name (t.recordOf false name d)).values ↔
      r' ∈ first ∨ ∃ n, (done.insert name (t.recordOf false name d)).get? n = some r' := by
    rw [List.mem_append, (h.sorted.insert name _).mem_values_iff]
  rcases h.mem_records.mp hr with hr | ⟨n, hr⟩
  · exact ⟨r, (hmem r).mpr (Or.inl hr), rfl, rfl, Or.inl rfl⟩
  · by_cases hn : n = name
    · subst hn
      have haux := h.auxiliary n r hr
      obtain ⟨withMethods, ⟨c₀, d₀, c₀', hc₀, hd₀, hr₀⟩, hto, -⟩ := haux.made
      rw [haux.name_eq] at hd₀
      have hmore (hm : withMethods = true) : w.embedded.contains n = true :=
        List.contains_iff_mem.mpr (hto hm)
      refine ⟨t.recordOf false n d, (hmem _).mpr (Or.inr ⟨n, by simp⟩), haux.name_eq.symm,
        haux.not_requested.1.symm, ?_⟩
      rw [hr₀]
      exact Site.shape_of_remade hs hc₀ hc hmore hd₀ hd
    · exact ⟨r, (hmem r).mpr (Or.inr ⟨n, by simp [hn, hr]⟩), rfl, rfl, Or.inl rfl⟩

theorem Justified.addAuxiliary {rest : NameSet} (h : t.Justified first done w)
    (hs : t.source.Consistent) (hb : t.target.InterfacesBare)
    (hledger : t.Ledger (Agrees t.source) first done w) (hc : Agrees t.source c)
    (hw : w.pending = name :: rest)
    (hd : ((t.siteOf name).draft t.source (w.embedded.contains name)).Yields c d c') :
    t.Justified first (done.insert name (t.recordOf false name d))
      (t.after (w.takeFirst name rest) d) := by
  have hold {n : String} (hn : n ∈ w.pending ∨ done.contains n = true) :
      Needed t.target.importPath (first ++ (done.insert name (t.recordOf false name d)).values)
        n := by
    refine (h n hn).mono fun r hr => ?_
    obtain ⟨r', hr', hname, hreq, hshape⟩ := hledger.replaced hs hc hd hr
    exact ⟨r', hr', hname, hreq, hshape.types_subset⟩
  have hname : name ∈ w.pending := hw ▸ List.mem_cons_self
  rintro n (hn | hn)
  · rcases mem_pending_after hb hd hn with hn | hn
    · exact hold (Or.inl (hw ▸ List.mem_cons_of_mem name hn))
    · refine .ofNeeded (r := t.recordOf false name d) ?_ (hold (Or.inl hname)) hn
      rw [List.mem_append, (hledger.sorted.insert name _).mem_values_iff]
      exact Or.inr ⟨name, by simp⟩
  · rcases (Dict.contains_insert done name _ n).mp hn with rfl | hn
    · exact hold (Or.inl hname)
    · exact hold (Or.inr hn)

variable {P : Cache → Prop} {source : Source} {request : Request} {target : PackageScope}
  {p : StubPlan}

theorem Ledger.values_not_requested (h : t.Ledger P first done w) :
    ∀ r ∈ done.values, r.requested = false := by
  intro r hr
  obtain ⟨n, hr⟩ := h.sorted.mem_values_iff.mp hr
  exact (h.auxiliary n r hr).not_requested.1

theorem Ledger.names_values (h : t.Ledger P first done w) :
    done.values.map (·.name) = done.keys := by
  unfold Dict.values Dict.keys
  rw [List.map_map]
  refine List.map_congr_left fun entry hentry => ?_
  exact (h.auxiliary _ _ (h.sorted.mem_entries_iff.mp hentry)).name_eq

theorem Ledger.requested_eq (h : t.Ledger P first done w) (hreq : ∀ r ∈ first, r.requested = true)
    (hp : p.records = first ++ done.values) : p.requested = first := by
  have hrest : done.values.filter (·.requested) = [] := by
    simpa [List.filter_eq_nil_iff] using h.values_not_requested
  rw [StubPlan.requested, hp, List.filter_append, List.filter_eq_self.mpr hreq, hrest,
    List.append_nil]

theorem Ledger.auxiliary_eq (h : t.Ledger P first done w) (hreq : ∀ r ∈ first, r.requested = true)
    (hp : p.records = first ++ done.values) : p.auxiliary = done.values := by
  have hfirst : first.filter (!·.requested) = [] := by
    simpa [List.filter_eq_nil_iff] using hreq
  have hrest : done.values.filter (!·.requested) = done.values := by
    simpa [List.filter_eq_self] using h.values_not_requested
  rw [StubPlan.auxiliary, hp, List.filter_append, hfirst, hrest, List.nil_append]

theorem Ledger.mem_auxiliary_iff (h : t.Ledger P first done w)
    (hreq : ∀ r ∈ first, r.requested = true) (hp : p.records = first ++ done.values) :
    n ∈ p.auxiliary.map (·.name) ↔ done.contains n = true := by
  rw [h.auxiliary_eq hreq hp, h.names_values, Dict.mem_keys_iff]

theorem Ledger.not_mem_names (h : (ofRequest source request target).Ledger P first done w)
    (hn : done.contains n = true) : n ∉ request.names := by
  obtain ⟨r, hr⟩ := Dict.contains_iff.mp hn
  have haux := h.auxiliary n r hr
  exact fun hmem => haux.not_requested.2 (mem_requested_iff.mpr ⟨hmem, haux.known⟩)

/-- When the list is empty, a type that some record mentions has a record. -/
theorem Ledger.contains_of_mentioned (h : (ofRequest source request target).Ledger P first done w)
    (hw : w.pending = []) {r : Record} (hr : r ∈ first ++ done.values)
    (hm : r.shape.Mentions target.importPath n) (hn : n ∉ request.names) :
    done.contains n = true := by
  have hmet : w.Met (.declared n) :=
    h.met r (h.mem_records.mp hr) _ (Shape.needs_declared_iff.mpr hm)
  simp only [Progress.Met, hw, List.not_mem_nil, or_false] at hmet
  rcases (h.listed n).mp hmet with hreq | hdone
  · exact absurd (mem_requested_iff.mp hreq).1 hn
  · exact hdone

theorem Ledger.nodup_names (h : (ofRequest source request target).Ledger P first done w)
    (hnames : first.map (·.name) = request.names) (hnodup : request.names.Nodup) :
    ((first ++ done.values).map (·.name)).Nodup := by
  have hkeys : done.keys.Nodup := h.sorted.imp fun hlt => hlt.ne
  rw [List.map_append, hnames, h.names_values]
  refine List.nodup_append.mpr ⟨hnodup, hkeys, fun n hn m hm heq => ?_⟩
  exact h.not_mem_names (Dict.mem_keys_iff.mp hm) (heq ▸ hn)

/-- With a consistent source a plan makes no record that is not needed. -/
theorem needed_of_planFrom (hs : source.Consistent) (hb : target.InterfacesBare)
    (hc : Agrees source c) (h : (planFrom source request target).Yields c p c') :
    ∀ n ∈ p.auxiliary.map (·.name), Needed target.importPath p.records n := by
  let t := ofRequest source request target
  obtain ⟨first, done, w, ⟨-, hledger, hjust⟩, -, -, hreq, hp⟩ := planFrom_run
    (motive := fun first done w c =>
      Agrees source c ∧ t.Ledger (Agrees source) first done w ∧ t.Justified first done w)
    rfl ⟨hc, ledger_start, by simp [Justified]⟩
    (fun hi _ hd => ⟨(Site.steady_draft hs).agrees hi.1 hd, hi.2.1.addRequested hi.1 hd,
      hi.2.2.addRequested hb hd⟩)
    (fun hi htidy hw hd => ⟨(Site.steady_draft hs).agrees hi.1 hd,
      hi.2.1.addAuxiliary hi.1 htidy hw hd, hi.2.2.addAuxiliary hs hb hi.2.1 hi.1 hw hd⟩) h
  have hrecords : p.records = first ++ done.values := by rw [hp]
  intro n hn
  rw [hrecords]
  exact hjust n (Or.inr ((hledger.mem_auxiliary_iff hreq hrecords).mp hn))

end Subject

theorem Request.nodup_names (package : String) (types values : List String) :
    (Request.ofNames package types values).names.Nodup := by
  refine List.nodup_append.mpr
    ⟨nodup_eraseDups types, (nodup_eraseDups values).filter _, fun n hn m hm heq => ?_⟩
  have hnew : n ∉ types.eraseDups := by simpa [← heq] using (List.mem_filter.mp hm).2
  exact hnew hn

open Lookup in
/-- A plan has the requested records in the order of the request and then those of other types, in
the order of their names; no name comes twice. Every type the records need has one, and if the
source is consistent, no other type has. -/
theorem plan_records_exact {source : Source} {target : PackageScope} {package : String}
    {types values : List String} {p : StubPlan} {c c' : Cache}
    (h : (planFrom source (.ofNames package types values) target).Yields c p c') :
    p.records = p.requested ++ p.auxiliary ∧
      p.requested.map (·.name) = (Request.ofNames package types values).names ∧
      (p.auxiliary.map (·.name)).Pairwise (· < ·) ∧ (p.records.map (·.name)).Nodup ∧
      (∀ n, Needed target.importPath p.records n →
        n ∉ (Request.ofNames package types values).names → n ∈ p.auxiliary.map (·.name)) ∧
      (target.InterfacesBare → source.Consistent → Agrees source c →
        ∀ n, n ∈ p.auxiliary.map (·.name) ↔ Needed target.importPath p.records n ∧
          n ∉ (Request.ofNames package types values).names) := by
  obtain ⟨first, done, w, hledger, hw, hnames, hreq, hp⟩ :=
    Subject.planFrom_ledger (P := fun _ => True) rfl trivial (fun _ _ => trivial) h
  have hrecords : p.records = first ++ done.values := by rw [hp]
  have haux := hledger.auxiliary_eq hreq hrecords
  have hfirst := hledger.requested_eq hreq hrecords
  have hclosed (n : String) (hn : Needed target.importPath p.records n)
      (hout : n ∉ (Request.ofNames package types values).names) :
      n ∈ p.auxiliary.map (·.name) := by
    obtain ⟨r, hr, hm⟩ := hn.mentioned
    rw [hrecords] at hr
    exact (hledger.mem_auxiliary_iff hreq hrecords).mpr
      (hledger.contains_of_mentioned hw hr hm hout)
  refine ⟨by rw [hfirst, haux, hrecords], by rw [hfirst, hnames], ?_, ?_, hclosed, ?_⟩
  · rw [haux, hledger.names_values]
    exact hledger.sorted
  · rw [hrecords]
    exact hledger.nodup_names hnames (Request.nodup_names package types values)
  · intro hb hs hc n
    constructor
    · intro hn
      have hdone := (hledger.mem_auxiliary_iff hreq hrecords).mp hn
      exact ⟨Subject.needed_of_planFrom hs hb hc h n hn, hledger.not_mem_names hdone⟩
    · rintro ⟨hneeded, hout⟩
      exact hclosed n hneeded hout

theorem shop_records_exact :
    ∃ p c', (planFrom shopSource (.ofNames "example.com/shop" [] ["Open"]) shop).Yields
        .empty p c' ∧
      p.auxiliary.map (·.name) = ["Base", "Item", "Store"] ∧
      ∀ n, n ∈ p.auxiliary.map (·.name) ↔
        Needed "example.com/shop" p.records n ∧
          n ∉ (Request.ofNames "example.com/shop" [] ["Open"]).names := by
  have hrun : (((planFrom shopSource (.ofNames "example.com/shop" [] ["Open"]) shop).run
      .empty).1.toOption.map fun p => p.auxiliary.map (·.name)) =
        some ["Base", "Item", "Store"] := by
    decide +kernel
  obtain ⟨p, c', h, hnames⟩ := Lookup.exists_yields hrun
  obtain ⟨-, -, -, -, -, hexact⟩ := plan_records_exact h
  have hbare : shop.InterfacesBare := by decide +kernel
  exact ⟨p, c', h, hnames, hexact hbare consistent_shopSource (Lookup.agrees_empty shopSource)⟩

/-- A package whose interface `I` embeds `q.X`, and `J` embeds `p.Y`. -/
def twiceLoading : PackageScope where
  importPath := "example.com/t"
  name := "t"
  dir := ⟨"t"⟩
  moduleDir := none
  types := ⟨[
    ("A", ⟨"A", [], false, .struct []⟩),
    ("I", ⟨"I", [], false, .interface ⟨[], [.plain "example.com/q" "X"], []⟩⟩),
    ("J", ⟨"J", [], false, .interface ⟨[], [.plain "example.com/p" "Y"], []⟩⟩),
    ("S", ⟨"S", [], false, .struct [⟨"I", .plain "example.com/t" "I", true, none⟩]⟩)]⟩
  funcs := ⟨[("F", ⟨"F", [], ⟨[.plain "example.com/t" "I", .plain "example.com/t" "J",
    .plain "example.com/t" "S"], false, []⟩⟩)]⟩
  values := .empty
  methods := .empty
  importNames := .empty

/-- A source in which the package found as `p` says that it is `q`, and its `X` is another than that
of the package found as `q`. -/
def twoFacedSource : Source := fun path =>
  if path = "example.com/q" then .ok (scope [("X", ⟨"X", [], false, .interface
    ⟨[⟨"M", ⟨[], false, [.plain "example.com/t" "A"]⟩⟩], [], []⟩⟩)])
  else if path = "example.com/p" then .ok (scope [
    ("X", ⟨"X", [], false, .interface ⟨[⟨"M", ⟨[], false, []⟩⟩], [], []⟩⟩),
    ("Y", ⟨"Y", [], false, .interface ⟨[⟨"N", ⟨[], false, []⟩⟩], [], []⟩⟩)])
  else .error (.load path .unmapped)
where scope (types : List (String × TypeDecl)) : PackageScope :=
  ⟨"example.com/q", "q", ⟨"q"⟩, none, ⟨types⟩, .empty, .empty, .empty, .empty⟩

/-- Without a consistent source a record can be left over: `I` is made again when `S` is found to
embed it, after `p` has been loaded over `q`, and no longer mentions `A`. -/
theorem unneeded_record_of_twoFacedSource :
    ∃ p c', (planFrom twoFacedSource (.ofNames "example.com/t" [] ["F"]) twiceLoading).Yields
        .empty p c' ∧
      twiceLoading.InterfacesBare ∧ "A" ∈ p.auxiliary.map (·.name) ∧
      ¬ Needed "example.com/t" p.records "A" := by
  have hrun : (((planFrom twoFacedSource (.ofNames "example.com/t" [] ["F"]) twiceLoading).run
      .empty).1.toOption.map fun p => (p.auxiliary.map (·.name),
        decide (∀ r ∈ p.records, ¬ r.shape.Mentions "example.com/t" "A"))) =
        some (["A", "I", "J", "S"], true) := by
    decide +kernel
  obtain ⟨p, c', h, hview⟩ := Lookup.exists_yields hrun
  obtain ⟨hnames, hunmentioned⟩ := Prod.mk.inj hview
  refine ⟨p, c', h, by decide +kernel, by simp [hnames], fun hneeded => ?_⟩
  obtain ⟨r, hr, hm⟩ := hneeded.mentioned
  exact of_decide_eq_true hunmentioned r hr hm

end GoStub
