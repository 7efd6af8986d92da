import GoStub.Proofs.Closure
import GoStub.Proofs.Wanted

/-! The order in which symbols are requested, and whether they are requested as types or as values,
decides the order of their records and the local names of imports, and nothing else. -/

namespace GoStub

open Lookup

/-- Two attempts at a plan both fail, or give plans with the same requested records in some order,
the same other records in the same order, and imports of the same packages. -/
def SameUpToOrder : Except StubFault StubPlan → Except StubFault StubPlan → Prop
  | .ok p₁, .ok p₂ => p₁.requested.Perm p₂.requested ∧ p₁.auxiliary = p₂.auxiliary ∧
      p₁.imports.paths = p₂.imports.paths
  | .error _, .error _ => True
  | _, _ => False

namespace Subject

variable {t : Subject} {names names₁ names₂ : List String} {p p₁ p₂ : StubPlan}

/-- The records and imports of a plan are those that its names want. -/
structure Fulfils (t : Subject) (names : List String) (p : StubPlan) : Prop where
  nodup_requested : p.requested.Nodup
  mem_requested : ∀ r, r ∈ p.requested ↔
    ∃ n ∈ names, ∃ d, t.outcome true n = .ok d ∧ r = t.recordOf true n d
  sorted_auxiliary : (p.auxiliary.map (·.name)).Pairwise (· < ·)
  mem_auxiliary : ∀ r, r ∈ p.auxiliary ↔ ∃ n withMethods d, n ∉ names ∧ t.Wants names false n ∧
    (withMethods = true ↔ t.Wants names true n) ∧ t.outcome withMethods n = .ok d ∧
      r = t.recordOf false n d
  sorted_imports : p.imports.paths.Pairwise (· < ·)
  mem_imports : ∀ path, path ∈ p.imports.paths ↔ t.WantsPath names path

theorem fulfils_of_planFrom {source : Source} {request : Request} {target : PackageScope}
    {c c' : Cache} (hs : source.Consistent) (hc : Agrees source c) (hnodup : request.names.Nodup)
    (h : (planFrom source request target).Yields c p c') :
    (ofRequest source request target).Fulfils request.names p ∧
      (ofRequest source request target).Feasible request.names := by
  obtain ⟨first, done, w, hfin, hp⟩ := planFrom_finished rfl hs hc h
  have hrecords : p.records = first ++ done.values := by rw [hp]
  have himports : p.imports = w.imports.renameApart ((first ++ done.values).map (·.name)) := by
    rw [hp]
  have hfirst := hfin.ledger.requested_eq hfin.all_requested hrecords
  have haux := hfin.ledger.auxiliary_eq hfin.all_requested hrecords
  refine ⟨⟨?_, fun r => ?_, ?_, fun r => ?_, ?_, fun path => ?_⟩, hfin.feasible⟩
  · rw [hfirst]
    exact .of_map (·.name) (hfin.names_eq ▸ hnodup)
  · rw [hfirst, hfin.mem_first_iff hs]
  · rw [haux, hfin.ledger.names_values]
    exact hfin.ledger.sorted
  · rw [haux, hfin.mem_values_iff hs]
  · rw [himports]
    exact ImportTable.sorted_renameApart hfin.sorted _
  · rw [himports, ImportTable.paths, Dict.mem_keys_iff]
    exact ImportTable.contains_renameApart.trans hfin.imports_contains_iff

theorem wants_congr (hnames : ∀ n, n ∈ names₁ ↔ n ∈ names₂) (withMethods : Bool) (name : String) :
    t.Wants names₁ withMethods name ↔ t.Wants names₂ withMethods name :=
  ⟨.mono fun n => (hnames n).mp, .mono fun n => (hnames n).mpr⟩

/-- What the names want decides a plan up to the order of its requested records. -/
theorem Fulfils.same (h₁ : t.Fulfils names₁ p₁) (h₂ : t.Fulfils names₂ p₂)
    (hnames : ∀ n, n ∈ names₁ ↔ n ∈ names₂) : SameUpToOrder (.ok p₁) (.ok p₂) := by
  refine ⟨?_, ?_, ?_⟩
  · refine (List.perm_ext_iff_of_nodup h₁.nodup_requested h₂.nodup_requested).mpr fun r => ?_
    simp only [h₁.mem_requested, h₂.mem_requested, hnames]
  · refine eq_of_sorted_of_mem_iff h₁.sorted_auxiliary h₂.sorted_auxiliary fun r => ?_
    simp only [h₁.mem_auxiliary, h₂.mem_auxiliary, hnames, wants_congr hnames]
  · refine NameSet.eq_of_mem_iff h₁.sorted_imports h₂.sorted_imports fun path => ?_
    simp only [h₁.mem_imports, h₂.mem_imports, WantsPath, wants_congr hnames]

end Subject

section Request

variable {source : Source} {request request₁ request₂ : Request} {target : PackageScope}
  {p : StubPlan} {c c₁ c₂ c' : Cache}

theorem known_of_planFrom (h : (planFrom source request target).Yields c p c') :
    ∀ n ∈ request.names, target.contains n = true := by
  unfold planFrom at h
  split at h
  next => exact absurd h not_yields_fail
  next hfind => simpa [List.find?_eq_none] using hfind

theorem Subject.ofRequest_congr (hnames : ∀ n, n ∈ request₁.names ↔ n ∈ request₂.names) :
    Subject.ofRequest source request₁ target = Subject.ofRequest source request₂ target := by
  have hrequested : NameSet.ofNames (request₁.names.filter target.types.contains) =
      NameSet.ofNames (request₂.names.filter target.types.contains) := by
    refine NameSet.eq_of_mem_iff (NameSet.sorted_ofNames _) (NameSet.sorted_ofNames _) fun n => ?_
    simp only [NameSet.mem_ofNames, List.mem_filter, hnames]
  rw [Subject.ofRequest, Subject.ofRequest, hrequested]

/-- If one request can be planned, so can another one for the same names. -/
theorem exists_planFrom_of_planFrom (hs : source.Consistent) (hc₁ : Agrees source c₁)
    (hc₂ : Agrees source c₂) (hnodup : request₁.names.Nodup)
    (hnames : ∀ n, n ∈ request₁.names ↔ n ∈ request₂.names)
    (h : (planFrom source request₁ target).Yields c₁ p c') :
    ∃ p' c', (planFrom source request₂ target).Yields c₂ p' c' := by
  obtain ⟨-, hfeasible⟩ := Subject.fulfils_of_planFrom hs hc₁ hnodup h
  refine Subject.exists_planFrom hs hc₂ ?_ ?_
  · exact fun n hn => known_of_planFrom h n ((hnames n).mpr hn)
  · intro withMethods name hwants
    rw [Subject.ofRequest_congr hnames] at hfeasible
    exact hfeasible withMethods name ((Subject.wants_congr hnames withMethods name).mpr hwants)

theorem sameUpToOrder_planFrom (hs : source.Consistent) (hc₁ : Agrees source c₁)
    (hc₂ : Agrees source c₂) (hnodup₁ : request₁.names.Nodup) (hnodup₂ : request₂.names.Nodup)
    (hnames : ∀ n, n ∈ request₁.names ↔ n ∈ request₂.names) (target : PackageScope) :
    SameUpToOrder ((planFrom source request₁ target).run c₁).1
      ((planFrom source request₂ target).run c₂).1 := by
  cases h₁ : ((planFrom source request₁ target).run c₁).1 with
  | ok p₁ =>
    have hy₁ : (planFrom source request₁ target).Yields c₁ p₁ _ := Prod.ext h₁ rfl
    obtain ⟨p₂, c₂', hy₂⟩ := exists_planFrom_of_planFrom hs hc₁ hc₂ hnodup₁ hnames hy₁
    obtain ⟨hf₁, -⟩ := Subject.fulfils_of_planFrom hs hc₁ hnodup₁ hy₁
    obtain ⟨hf₂, -⟩ := Subject.fulfils_of_planFrom hs hc₂ hnodup₂ hy₂
    rw [Subject.ofRequest_congr hnames] at hf₁
    rw [hy₂]
    exact hf₁.same hf₂ hnames
  | error e₁ =>
    cases h₂ : ((planFrom source request₂ target).run c₂).1 with
    | error e₂ => trivial
    | ok p₂ =>
      have hy₂ : (planFrom source request₂ target).Yields c₂ p₂ _ := Prod.ext h₂ rfl
      obtain ⟨p₁, c₁', hy₁⟩ :=
        exists_planFrom_of_planFrom hs hc₂ hc₁ hnodup₂ (fun n => (hnames n).symm) hy₂
      cases h₁.symm.trans (congrArg Prod.fst hy₁)

theorem fst_run_plan (hc : Agrees source c) (request : Request) :
    ((plan source request).run c).1 =
      match source request.package with
      | .error e => .error e
      | .ok target => ((planFrom source request target).run
          ((package source request.package).run c).2).1 := by
  rw [plan, run_bind, ← fst_run_package hc request.package]
  rcases (package source request.package).run c with ⟨e | target, c₁⟩ <;> rfl

theorem Request.mem_names_ofNames {package n : String} {types values : List String} :
    n ∈ (Request.ofNames package types values).names ↔ n ∈ types ∨ n ∈ values := by
  simp only [Request.names, Request.ofNames, List.mem_append, List.mem_filter, List.mem_eraseDups,
    Bool.not_eq_true', List.contains_eq_mem, decide_eq_false_iff_not]
  tauto

end Request

/-- Two requests for the same symbols of a package, in whatever order and however divided into types
and values, come to the same. -/
theorem request_order_irrelevant {source : Source} {package : String}
    {types₁ values₁ types₂ values₂ : List String} {c₁ c₂ : Cache} (hs : source.Consistent)
    (hc₁ : Agrees source c₁) (hc₂ : Agrees source c₂)
    (hsame : ∀ n, n ∈ types₁ ∨ n ∈ values₁ ↔ n ∈ types₂ ∨ n ∈ values₂) :
    SameUpToOrder ((plan source (.ofNames package types₁ values₁)).run c₁).1
        ((plan source (.ofNames package types₂ values₂)).run c₂).1 ∧
      ∀ target, SameUpToOrder
        ((planFrom source (.ofNames package types₁ values₁) target).run c₁).1
        ((planFrom source (.ofNames package types₂ values₂) target).run c₂).1 := by
  have hnames (n : String) : n ∈ (Request.ofNames package types₁ values₁).names ↔
      n ∈ (Request.ofNames package types₂ values₂).names := by
    rw [Request.mem_names_ofNames, Request.mem_names_ofNames, hsame]
  have hplan {c₁ c₂ : Cache} (hc₁ : Agrees source c₁) (hc₂ : Agrees source c₂) :=
    sameUpToOrder_planFrom hs hc₁ hc₂ (Request.nodup_names package types₁ values₁)
      (Request.nodup_names package types₂ values₂) hnames
  refine ⟨?_, hplan hc₁ hc₂⟩
  rw [fst_run_plan hc₁, fst_run_plan hc₂]
  change SameUpToOrder (match source package with | .error e => _ | .ok target => _)
    (match source package with | .error e => _ | .ok target => _)
  cases source package with
  | error e => trivial
  | ok target =>
    obtain ⟨r, hr⟩ := steady_package hs package
    exact hplan (hr c₁ hc₁).2 (hr c₂ hc₂).2 target

theorem shop_request_order_irrelevant :
    let openFirst := ((plan shopSource (.ofNames "example.com/shop" [] ["Open", "Store"])).run
      .empty).1
    let storeFirst := ((plan shopSource (.ofNames "example.com/shop" ["Store"] ["Open"])).run
      .empty).1
    (openFirst.toOption.map fun p => p.records.map (·.name)) =
        some ["Open", "Store", "Base", "Item"] ∧
      (storeFirst.toOption.map fun p => p.records.map (·.name)) =
        some ["Store", "Open", "Base", "Item"] ∧
      SameUpToOrder openFirst storeFirst := by
  refine ⟨by decide +kernel, by decide +kernel, ?_⟩
  refine (request_order_irrelevant consistent_shopSource (agrees_empty shopSource)
    (agrees_empty shopSource) ?_).1
  intro n
  simp [or_comm]

end GoStub
