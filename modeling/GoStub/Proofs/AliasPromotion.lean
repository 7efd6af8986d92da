import GoStub.Proofs.WrittenTypes

/-! Types that are embedded under the name of an alias. Aliases are followed to the record of the
defined type, but only a name that is itself embedded brings methods along: the record has the
methods of its type just if the type is requested or embedded under its own name. -/

namespace GoStub

open Lookup

/-- The type `a` of the package is an alias, declared as its type `b`. -/
def PackageScope.AliasStep (p : PackageScope) (a b : String) : Prop :=
  ∃ decl args, p.types.get? a = some decl ∧ decl.isAlias = true ∧
    decl.type = .named p.importPath b args

/-- The draft of an alias mentions the type it is declared as. -/
theorem Site.Drafted.mentions_of_aliasStep {source : Source} {site : Site} {withMethods : Bool}
    {c : Cache} {d : Draft} {name : String} (h : site.Drafted source withMethods c d)
    (hstep : site.target.AliasStep site.symbol name) :
    d.shape.Mentions site.target.importPath name := by
  obtain ⟨decl, args, hdecl, halias, htype⟩ := hstep
  have hwritten : decl.type ∈ site.writtenTypes withMethods := by
    simp [Site.writtenTypes, TypeDecl.writtenTypes, hdecl, halias]
  rw [htype] at hwritten
  exact h.mentions_of_written hwritten .here

namespace Subject

variable {t : Subject} {first : List Record} {done : Dict Record} {w : Progress} {name n : String}
  {d : Draft} {c c' : Cache}

/-- Every type that is known to be embedded is embedded in one of the records there are. -/
def EmbeddedSomewhere (t : Subject) (first : List Record) (done : Dict Record) (w : Progress) :
    Prop :=
  ∀ n ∈ w.embedded, ∃ r ∈ first ++ done.values, r.shape.Needs t.target.importPath (.promoted n)

theorem mem_embedded_after {withMethods : Bool} (hb : t.target.InterfacesBare)
    (hd : ((t.siteOf name).draft t.source withMethods).Yields c d c')
    (hn : n ∈ (t.after w d).embedded) :
    n ∈ w.embedded ∨ d.shape.Needs t.target.importPath (.promoted n) := by
  rcases Progress.mem_embedded_meetAll.mp hn with hn | hn
  · exact Or.inl hn
  · exact Or.inr ((Site.drafted_of_draft hd).shape_needs_of_bare hb hn)

theorem EmbeddedSomewhere.addRequested (h : t.EmbeddedSomewhere first .empty w)
    (hb : t.target.InterfacesBare) (hd : ((t.siteOf name).draft t.source true).Yields c d c') :
    t.EmbeddedSomewhere (first ++ [t.recordOf true name d]) .empty (t.after w d) := by
  intro n hn
  rcases mem_embedded_after hb hd hn with hn | hn
  · obtain ⟨r, hr, hneeds⟩ := h n hn
    refine ⟨r, ?_, hneeds⟩
    simp only [List.mem_append] at hr ⊢
    tauto
  · exact ⟨t.recordOf true name d, by simp, hn⟩

theorem EmbeddedSomewhere.addAuxiliary {rest : NameSet} (h : t.EmbeddedSomewhere first done w)
    (hs : t.source.Consistent) (hb : t.target.InterfacesBare)
    (hledger : t.Ledger (Agrees t.source) first done w) (hc : Agrees t.source c)
    (hd : ((t.siteOf name).draft t.source (w.embedded.contains name)).Yields c d c') :
    t.EmbeddedSomewhere first (done.insert name (t.recordOf false name d))
      (t.after (w.takeFirst name rest) d) := by
  intro n hn
  rcases mem_embedded_after hb hd hn with hn | hn
  · obtain ⟨r, hr, hneeds⟩ := h n hn
    obtain ⟨r', hr', -, -, hshape⟩ := hledger.replaced hs hc hd hr
    exact ⟨r', hr', hshape.needs hneeds⟩
  · refine ⟨t.recordOf false name d, ?_, hn⟩
    rw [List.mem_append, (hledger.sorted.insert name _).mem_values_iff]
    exact Or.inr ⟨name, by simp⟩

variable {P : Cache → Prop} {source : Source} {request : Request} {target : PackageScope}
  {p : StubPlan}

/-- With a consistent source every type that a plan takes for embedded is embedded in one of its
records. -/
theorem embeddedSomewhere_of_planFrom (hs : source.Consistent) (hb : target.InterfacesBare)
    (hc : Agrees source c) (h : (planFrom source request target).Yields c p c') :
    ∃ first done w, (ofRequest source request target).Ledger (Agrees source) first done w ∧
      (ofRequest source request target).EmbeddedSomewhere first done w ∧
      first.map (·.name) = request.names ∧ p.records = first ++ done.values := by
  let t := ofRequest source request target
  have hstart : t.EmbeddedSomewhere [] .empty ⟨.empty, t.requested, [], []⟩ :=
    fun n hn => by cases hn
  obtain ⟨first, done, w, ⟨-, hledger, hembedded⟩, -, hnames, -, hp⟩ := planFrom_run
    (motive := fun first done w c =>
      Agrees source c ∧ t.Ledger (Agrees source) first done w ∧ t.EmbeddedSomewhere first done w)
    rfl ⟨hc, ledger_start, hstart⟩
    (fun hi _ hd => ⟨(Site.steady_draft hs).agrees hi.1 hd, hi.2.1.addRequested hi.1 hd,
      hi.2.2.addRequested hb hd⟩)
    (fun hi htidy hw hd => ⟨(Site.steady_draft hs).agrees hi.1 hd,
      hi.2.1.addAuxiliary hi.1 htidy hw hd, hi.2.2.addAuxiliary hs hb hi.2.1 hi.1 hd⟩) h
  exact ⟨first, done, w, hledger, hembedded, hnames, by rw [hp]⟩

/-- When the list is empty, aliases lead from one record to another. -/
theorem Ledger.exists_record_of_aliasStep
    (h : (ofRequest source request target).Ledger P first done w) (hw : w.pending = [])
    (hnames : first.map (·.name) = request.names) {a b : String} (hstep : target.AliasStep a b)
    (ha : ∃ r ∈ first ++ done.values, r.name = a) :
    ∃ r ∈ first ++ done.values, r.name = b := by
  obtain ⟨r, hr, rfl⟩ := ha
  obtain ⟨withMethods, hmade⟩ := h.made hr
  obtain ⟨c₁, d, hd, hshape⟩ := hmade.drafted
  have hmentions : d.shape.Mentions target.importPath b := hd.mentions_of_aliasStep hstep
  exact h.exists_record_of_mentioned hw hnames hr (hshape ▸ hmentions)

/-- When the list is empty, what aliases lead to from a record has a record. -/
theorem Ledger.exists_record_of_leads
    (h : (ofRequest source request target).Ledger P first done w) (hw : w.pending = [])
    (hnames : first.map (·.name) = request.names) {a b : String}
    (hleads : Relation.TransGen target.AliasStep a b)
    (ha : ∃ r ∈ first ++ done.values, r.name = a) : ∃ r ∈ first ++ done.values, r.name = b := by
  induction hleads with
  | single hstep => exact h.exists_record_of_aliasStep hw hnames hstep ha
  | tail _ hstep ih => exact h.exists_record_of_aliasStep hw hnames hstep ih

/-- A record of a type that is neither requested nor known to be embedded has no methods. -/
theorem Ledger.methods_eq_nil (h : (ofRequest source request target).Ledger P first done w)
    (hnames : first.map (·.name) = request.names) {r : Record} (hr : r ∈ first ++ done.values)
    {decl : TypeDecl} (hdecl : target.types.get? r.name = some decl)
    (halias : decl.isAlias = false) (hface : ∀ body, decl.type ≠ .interface body)
    (hreq : r.name ∉ request.names) (hembedded : r.name ∉ w.embedded) : r.shape.methods = [] := by
  rcases h.mem_records.mp hr with hr | ⟨n, hr⟩
  · exact absurd (hnames ▸ List.mem_map_of_mem hr) hreq
  · obtain ⟨rfl, -, -, withMethods, hmade, hto, -⟩ := h.auxiliary n r hr
    obtain ⟨c₁, d, hd, hshape⟩ := hmade.drafted
    have hwithout : withMethods = false := by
      cases withMethods with
      | true => exact absurd (hto rfl) hembedded
      | false => rfl
    rw [hshape, hd.methods_eq hdecl halias hface, hwithout]
    rfl

end Subject

/-- Some record embeds the type `name` of the package `own`, or a pointer to it. -/
def EmbeddedIn (own : String) (records : List Record) (name : String) : Prop :=
  ∃ r ∈ records, ∃ f, r.shape.Embeds f ∧ f.type.RefersTo own name

/-- If some record embeds an alias that leads through aliases of the package to a defined type that
is no interface, that type has a record. The record has the exported methods of the type if the type
is requested or itself embedded; and otherwise, if the source is consistent and no method is
declared on an interface, it has none. -/
theorem methods_behind_embedded_alias {source : Source} {request : Request} {target : PackageScope}
    {p : StubPlan} {c c' : Cache} {a name : String} {decl : TypeDecl}
    (h : (planFrom source request target).Yields c p c')
    (hembedded : EmbeddedIn target.importPath p.records a)
    (hleads : Relation.TransGen target.AliasStep a name)
    (hdecl : target.types.get? name = some decl) (halias : decl.isAlias = false)
    (hface : ∀ body, decl.type ≠ .interface body) :
    (∃ r ∈ p.records, r.name = name) ∧
      ∀ r ∈ p.records, r.name = name →
        (name ∈ request.names ∨ EmbeddedIn target.importPath p.records name →
          r.shape.methods = (target.exportedMethods name).map target.inlineMethod) ∧
        (source.Consistent → Agrees source c → target.InterfacesBare →
          ¬ (name ∈ request.names ∨ EmbeddedIn target.importPath p.records name) →
            r.shape.methods = []) := by
  obtain ⟨first, done, w, hledger, hw, hnames, -, hp⟩ :=
    Subject.planFrom_ledger (P := fun _ => True) rfl trivial (fun _ _ => trivial) h
  have hrecords : p.records = first ++ done.values := by rw [hp]
  refine ⟨?_, fun r hr hn => ⟨fun hdirect => ?_, fun hs hc hb hnone => ?_⟩⟩
  · rw [hrecords] at hembedded ⊢
    have hfirst : ∃ r ∈ first ++ done.values, r.name = a :=
      hledger.exists_record hw hnames (Or.inr hembedded)
    exact hledger.exists_record_of_leads hw hnames hleads hfirst
  · subst hn
    have hreach : r.name ∈ request.names ∨ r.name ∈ w.embedded := by
      rcases hdirect with hreq | ⟨r', hr', f, hf, ht⟩
      · exact Or.inl hreq
      · exact Or.inr (hledger.embedded_of_embeds (hrecords ▸ hr') hf ht)
    obtain ⟨c₁, d, hd, hshape⟩ :=
      (hledger.made_with_methods hw hreach (hrecords ▸ hr)).drafted
    rw [hshape]
    exact hd.methods_eq hdecl halias hface
  · subst hn
    obtain ⟨hreq, hembeds⟩ := not_or.mp hnone
    obtain ⟨first, done, w, hledger, hsomewhere, hnames, hrecords⟩ :=
      Subject.embeddedSomewhere_of_planFrom hs hb hc h
    refine hledger.methods_eq_nil hnames (hrecords ▸ hr) hdecl halias hface hreq fun hn => ?_
    obtain ⟨r', hr', hneeds⟩ := hsomewhere _ hn
    exact hembeds ⟨r', hrecords ▸ hr', Shape.needs_promoted_iff.mp hneeds⟩

/-- A package in which `Gate` embeds `Latch`, which stands for `Bolt`. -/
def gates : PackageScope where
  importPath := "example.com/gates"
  name := "gates"
  dir := ⟨"gates"⟩
  moduleDir := none
  types := ⟨[
    ("Bolt", ⟨"Bolt", [], false, .struct []⟩),
    ("Gate", ⟨"Gate", [], false, .struct [
      ⟨"Latch", .plain "example.com/gates" "Latch", true, none⟩]⟩),
    ("Latch", ⟨"Latch", [], true, .plain "example.com/gates" "Bolt"⟩)]⟩
  funcs := .empty
  values := .empty
  methods := ⟨[("Bolt", [⟨"Bolt", false, [], "Close", ⟨[], false, []⟩⟩])]⟩
  importNames := .empty

def gatesSource : Source := fun path =>
  if path = gates.importPath then .ok gates else .error (.load path .unmapped)

theorem gates_latch_leads_to_bolt : Relation.TransGen gates.AliasStep "Latch" "Bolt" :=
  .single ⟨⟨"Latch", [], true, .plain "example.com/gates" "Bolt"⟩, [], rfl, rfl, rfl⟩

/-- The plan of `Gate`, with `Bolt` requested or not: a field embeds `Latch`, and none `Bolt`. -/
theorem exists_plan_of_gate (more : List String) (hmore : more = [] ∨ more = ["Bolt"]) :
    ∃ p c', (planFrom gatesSource (.ofNames "example.com/gates" ("Gate" :: more) []) gates).Yields
        .empty p c' ∧
      (∃ r ∈ p.records, ∃ f ∈ r.shape.fields, f.embedded = true ∧
        f.type.RefersTo "example.com/gates" "Latch") ∧
      ¬ EmbeddedIn "example.com/gates" p.records "Bolt" := by
  have hrun : (((planFrom gatesSource (.ofNames "example.com/gates" ("Gate" :: more) []) gates).run
      .empty).1.toOption.map fun p =>
        (decide (∃ r ∈ p.records, ∃ f ∈ r.shape.fields, f.embedded = true ∧
          Need.promoted "Latch" ∈ Need.ofEmbedded "example.com/gates" f.type),
          decide (∃ r ∈ p.records, r.shape.Needs "example.com/gates" (.promoted "Bolt")))) =
        some (true, false) := by
    rcases hmore with rfl | rfl <;> decide +kernel
  obtain ⟨p, c', h, hview⟩ := exists_yields hrun
  obtain ⟨hlatch, hbolt⟩ := Prod.mk.inj hview
  refine ⟨p, c', h, ?_, fun hembedded => ?_⟩
  · obtain ⟨r, hr, f, hf, he, hneed⟩ := of_decide_eq_true hlatch
    obtain ⟨n, hrefers, hn⟩ := GoType.mem_ofEmbedded_iff.mp hneed
    cases hn
    exact ⟨r, hr, f, hf, he, hrefers⟩
  · obtain ⟨r', hr', hembeds⟩ := hembedded
    exact of_decide_eq_false hbolt ⟨r', hr', Shape.needs_promoted_iff.mpr hembeds⟩

theorem embeddedIn_of_field {own name : String} {records : List Record}
    (h : ∃ r ∈ records, ∃ f ∈ r.shape.fields, f.embedded = true ∧ f.type.RefersTo own name) :
    EmbeddedIn own records name := by
  obtain ⟨r, hr, f, hf, he, hrefers⟩ := h
  exact ⟨r, hr, f, ⟨he, Or.inl hf⟩, hrefers⟩

/-- The record of `Bolt` has its method if `Bolt` is requested beside `Gate`, and not otherwise. -/
theorem gates_methods_behind_latch :
    (∃ p c', (planFrom gatesSource (.ofNames "example.com/gates" ["Gate", "Bolt"] []) gates).Yields
        .empty p c' ∧
      (∃ r ∈ p.records, r.name = "Bolt") ∧
      ∀ r ∈ p.records, r.name = "Bolt" →
        r.shape.methods = (gates.exportedMethods "Bolt").map gates.inlineMethod) ∧
    ∃ p c', (planFrom gatesSource (.ofNames "example.com/gates" ["Gate"] []) gates).Yields
        .empty p c' ∧
      (∃ r ∈ p.records, r.name = "Bolt") ∧
      ∀ r ∈ p.records, r.name = "Bolt" → r.shape.methods = [] := by
  have hdecl : gates.types.get? "Bolt" = some ⟨"Bolt", [], false, .struct []⟩ := rfl
  have hface (body : InterfaceBody) : GoType.struct [] ≠ .interface body := by simp
  constructor
  · obtain ⟨p, c', h, hlatch, -⟩ := exists_plan_of_gate ["Bolt"] (Or.inr rfl)
    obtain ⟨hrecord, hmethods⟩ :=
      methods_behind_embedded_alias h (embeddedIn_of_field hlatch) gates_latch_leads_to_bolt hdecl
        rfl hface
    have hrequested : "Bolt" ∈ (Request.ofNames "example.com/gates" ["Gate", "Bolt"] []).names := by
      decide
    exact ⟨p, c', h, hrecord, fun r hr hn => (hmethods r hr hn).1 (Or.inl hrequested)⟩
  · obtain ⟨p, c', h, hlatch, hbolt⟩ := exists_plan_of_gate [] (Or.inl rfl)
    obtain ⟨hrecord, hmethods⟩ :=
      methods_behind_embedded_alias h (embeddedIn_of_field hlatch) gates_latch_leads_to_bolt hdecl
        rfl hface
    have hbare : gates.InterfacesBare := by decide +kernel
    have hunrequested : "Bolt" ∉ (Request.ofNames "example.com/gates" ["Gate"] []).names := by
      decide
    exact ⟨p, c', h, hrecord, fun r hr hn => (hmethods r hr hn).2
      (Source.consistent_single gates _) (agrees_empty _) hbare (not_or.mpr ⟨hunrequested, hbolt⟩)⟩

/-- The method of `Bolt` is lost when `Gate` embeds it as `Latch`. -/
theorem gates_bolt_loses_methods :
    ¬ ∀ (source : Source) (request : Request) (target : PackageScope) (p : StubPlan) (c c' : Cache)
      (a name : String) (decl : TypeDecl),
      (planFrom source request target).Yields c p c' →
      (∃ r ∈ p.records, ∃ f ∈ r.shape.fields, f.embedded = true ∧
        f.type.RefersTo target.importPath a) →
      Relation.TransGen target.AliasStep a name →
      target.types.get? name = some decl → decl.isAlias = false →
      (∀ body, decl.type ≠ .interface body) →
      ∃ r ∈ p.records, r.name = name ∧
        r.shape.methods = (target.exportedMethods name).map target.inlineMethod := by
  intro hkept
  obtain ⟨p, c', h, hlatch, -⟩ := exists_plan_of_gate [] (Or.inl rfl)
  obtain ⟨r, hr, hname, hmethods⟩ := hkept _ _ _ p _ c' "Latch" "Bolt" _ h hlatch
    gates_latch_leads_to_bolt rfl rfl (fun body => by simp)
  have hlength : (gates.exportedMethods "Bolt").length = 1 := by decide +kernel
  have hrun : (((planFrom gatesSource (.ofNames "example.com/gates" ["Gate"] []) gates).run
      .empty).1.toOption.map fun p =>
        decide (∀ r ∈ p.records, r.name = "Bolt" → r.shape.methods.length = 0)) = some true := by
    decide +kernel
  obtain ⟨p', c'', h', hview⟩ := exists_yields hrun
  obtain rfl := h.unique h'
  have hnone := of_decide_eq_true hview r hr hname
  rw [hmethods, List.length_map, hlength] at hnone
  cases hnone

end GoStub
