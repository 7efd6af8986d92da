import GoStub.Proofs.Cache
import GoStub.Proofs.Worklist
import GoStub.Usage.Table
import Mathlib.Data.List.Nodup

/-! Merged requests. Merging gives each package one request with all its names, and stubs are made
from that alone: lists with the same requests for each package come to the same, and a list may be
merged in parts. -/

namespace GoStub

theorem eraseDups_of_nodup {names : List String} (h : names.Nodup) : names.eraseDups = names := by
  induction names with
  | nil => rfl
  | cons n names ih =>
    obtain ⟨hn, hnames⟩ := List.nodup_cons.mp h
    rw [List.eraseDups_cons, eraseDups_filter, ih hnames, List.filter_eq_self.mpr]
    intro x hx
    rw [Bool.not_eq_true', beq_eq_false_iff_ne]
    rintro rfl
    exact hn hx

/-- Repetitions may be left out of the parts of a list first. -/
theorem eraseDups_append_eraseDups (names more : List String) :
    (names.eraseDups ++ more.eraseDups).eraseDups = (names ++ more).eraseDups := by
  rw [List.eraseDups_append, List.eraseDups_append, List.removeAll, List.removeAll,
    eraseDups_filter, eraseDups_filter, eraseDups_of_nodup (nodup_eraseDups names),
    eraseDups_of_nodup (nodup_eraseDups more)]
  refine congrArg _ (List.filter_congr fun x _ => ?_)
  simp [List.elem_eq_contains]

/-- The elements of a list, each once, in the order in which they are seen first. -/
structure FirstSeen (names seen : List String) : Prop where
  mem_iff : ∀ n, n ∈ seen ↔ n ∈ names
  ordered : seen.Pairwise fun m n => names.idxOf m < names.idxOf n

theorem firstSeen_eraseDups (names : List String) : FirstSeen names names.eraseDups := by
  refine ⟨fun n => List.mem_eraseDups, ?_⟩
  induction names with
  | nil => exact .nil
  | cons n names ih =>
    rw [List.eraseDups_cons, eraseDups_filter, List.pairwise_cons, List.pairwise_filter]
    constructor
    · intro m hm
      have hne : m ≠ n := by simpa using (List.mem_filter.mp hm).2
      rw [List.idxOf_cons_self, List.idxOf_cons_ne _ hne.symm]
      exact Nat.succ_pos _
    · refine ih.imp fun {m m'} hlt hm hm' => ?_
      have hne : m ≠ n := by simpa using hm
      have hne' : m' ≠ n := by simpa using hm'
      rw [List.idxOf_cons_ne _ hne.symm, List.idxOf_cons_ne _ hne'.symm]
      exact Nat.succ_lt_succ hlt

namespace Request

/-- Names given in two parts may be put in order part by part. -/
theorem ofNames_append (package : String) (types types' values values' : List String) :
    ofNames package (types ++ types') (values ++ values') =
      ofNames package
        ((ofNames package types values).types ++ (ofNames package types' values').types)
        ((ofNames package types values).values ++ (ofNames package types' values').values) := by
  have htypes : (types ++ types').eraseDups = (types.eraseDups ++ types'.eraseDups).eraseDups :=
    (eraseDups_append_eraseDups types types').symm
  have hvalues (all part values : List String) (hpart : part ⊆ all) :
      (values.eraseDups.filter fun v => !part.contains v).filter (fun v => !all.contains v) =
        (values.filter fun v => !all.contains v).eraseDups := by
    rw [List.filter_filter, eraseDups_filter]
    refine List.filter_congr fun v _ => ?_
    by_cases hv : v ∈ part
    · simp [hv, hpart hv]
    · simp [hv]
  have hleft : types.eraseDups ⊆ (types.eraseDups ++ types'.eraseDups).eraseDups := fun n hn =>
    List.mem_eraseDups.mpr (List.mem_append_left _ hn)
  have hright : types'.eraseDups ⊆ (types.eraseDups ++ types'.eraseDups).eraseDups := fun n hn =>
    List.mem_eraseDups.mpr (List.mem_append_right _ hn)
  simp only [ofNames, htypes, mk.injEq, true_and]
  rw [← eraseDups_filter, ← eraseDups_filter, List.filter_append, List.filter_append,
    hvalues _ _ values hleft, hvalues _ _ values' hright,
    eraseDups_append_eraseDups (values.filter _)]

/-- A request whose names are in order stays as it is. -/
theorem ofNames_self (package : String) (types values : List String) :
    ofNames package (ofNames package types values).types (ofNames package types values).values =
      ofNames package types values := by
  have h := ofNames_append package types [] values []
  simp only [List.append_nil] at h
  exact (h.trans (by simp [ofNames])).symm

/-- The request for a package that a list of requests is merged to. -/
def mergedFor (requests : List Request) (package : String) : Request :=
  let ofPackage := requests.filter (fun r => r.package = package)
  ofNames package (ofPackage.flatMap (·.types)) (ofPackage.flatMap (·.values))

theorem merge_eq (requests : List Request) :
    merge requests = (NameSet.ofNames (requests.map (·.package))).map (mergedFor requests) :=
  rfl

theorem packages_merge (requests : List Request) :
    (merge requests).map (·.package) = NameSet.ofNames (requests.map (·.package)) := by
  rw [merge_eq, List.map_map]
  exact List.map_id _

theorem filter_package_eq_singleton {requests : List Request} {r : Request}
    (h : (requests.map (·.package)).Nodup) (hr : r ∈ requests) :
    requests.filter (fun q => q.package = r.package) = [r] := by
  induction requests with
  | nil => cases hr
  | cons q requests ih =>
    obtain ⟨hq, hrest⟩ := List.nodup_cons.mp h
    rcases List.mem_cons.mp hr with rfl | hr
    · rw [List.filter_cons_of_pos (by simp), List.filter_eq_nil_iff.mpr]
      intro q hq' heq
      exact hq (List.mem_map.mpr ⟨q, hq', of_decide_eq_true heq⟩)
    · rw [List.filter_cons_of_neg, ih hrest hr]
      intro heq
      exact hq (List.mem_map.mpr ⟨r, hr, (of_decide_eq_true heq).symm⟩)

theorem filter_package_eq_nil {requests : List Request} {package : String}
    (h : package ∉ requests.map (·.package)) :
    requests.filter (fun r => r.package = package) = [] := by
  refine List.filter_eq_nil_iff.mpr fun r hr heq => h ?_
  exact List.mem_map.mpr ⟨r, hr, of_decide_eq_true heq⟩

theorem nodup_packages_merge (requests : List Request) :
    ((merge requests).map (·.package)).Nodup := by
  rw [packages_merge]
  exact (NameSet.sorted_ofNames _).imp fun hlt => hlt.ne

/-- What the merged requests have for a package is what its merged request has. -/
theorem flatMap_filter_merge (requests : List Request) (package : String)
    {part : Request → List String} (hpart : part ⟨package, [], []⟩ = []) :
    ((merge requests).filter fun r => r.package = package).flatMap part =
      part (mergedFor requests package) := by
  by_cases hp : package ∈ requests.map (·.package)
  · have hmem : mergedFor requests package ∈ merge requests :=
      List.mem_map_of_mem (NameSet.mem_ofNames.mpr hp)
    have hfilter : (merge requests).filter (fun r => r.package = package) =
        [mergedFor requests package] :=
      filter_package_eq_singleton (nodup_packages_merge requests) hmem
    rw [hfilter, List.flatMap_singleton]
  · have hnone : mergedFor requests package = ⟨package, [], []⟩ := by
      rw [mergedFor, filter_package_eq_nil hp]
      rfl
    rw [filter_package_eq_nil, hnone, hpart, List.flatMap_nil]
    rwa [packages_merge, NameSet.mem_ofNames]

theorem mergedFor_append (a b : List Request) (package : String) :
    mergedFor (a ++ b) package = mergedFor (merge a ++ merge b) package := by
  rw [mergedFor, mergedFor]
  simp only [List.filter_append, List.flatMap_append]
  rw [flatMap_filter_merge a package rfl, flatMap_filter_merge b package rfl,
    flatMap_filter_merge a package rfl, flatMap_filter_merge b package rfl]
  exact ofNames_append package _ _ _ _

/-- Lists that name the same packages and give each the same merged request are merged alike. -/
theorem merge_congr {a b : List Request}
    (hmem : ∀ package, package ∈ a.map (·.package) ↔ package ∈ b.map (·.package))
    (h : ∀ package, mergedFor a package = mergedFor b package) : merge a = merge b := by
  have hpackages : NameSet.ofNames (a.map (·.package)) = NameSet.ofNames (b.map (·.package)) :=
    NameSet.eq_of_mem_iff (NameSet.sorted_ofNames _) (NameSet.sorted_ofNames _) fun package => by
      rw [NameSet.mem_ofNames, NameSet.mem_ofNames, hmem]
  rw [merge_eq, merge_eq, hpackages]
  exact List.map_congr_left fun package _ => h package

/-- A list may be merged in parts. -/
theorem merge_append_merge (a b : List Request) : merge (a ++ b) = merge (merge a ++ merge b) := by
  refine merge_congr (fun package => ?_) (mergedFor_append a b)
  rw [List.map_append, List.map_append, List.mem_append, List.mem_append, packages_merge,
    packages_merge, NameSet.mem_ofNames, NameSet.mem_ofNames]

/-- Only the requests for each package, in their order, matter. -/
theorem merge_eq_of_filter_eq {a b : List Request}
    (h : ∀ package, a.filter (fun r => r.package = package) =
      b.filter fun r => r.package = package) : merge a = merge b := by
  refine merge_congr (fun package => ?_) fun package => by rw [mergedFor, mergedFor, h]
  have hiff (requests : List Request) : package ∈ requests.map (·.package) ↔
      requests.filter (fun r => r.package = package) ≠ [] := by
    simp
  rw [hiff, hiff, h]

/-- Requests with their names in order, one for each package and in the order of the packages, are
merged already. -/
theorem merge_of_sorted {requests : List Request}
    (hsorted : (requests.map (·.package)).Pairwise (· < ·))
    (hnormal : ∀ r ∈ requests, ofNames r.package r.types r.values = r) :
    merge requests = requests := by
  have hpackages : NameSet.ofNames (requests.map (·.package)) = requests.map (·.package) :=
    NameSet.eq_of_mem_iff (NameSet.sorted_ofNames _) hsorted fun _ => NameSet.mem_ofNames
  have hnodup : (requests.map (·.package)).Nodup := hsorted.imp fun hlt => hlt.ne
  have hmerged (r : Request) (hr : r ∈ requests) : mergedFor requests r.package = r := by
    rw [mergedFor, filter_package_eq_singleton hnodup hr]
    simpa using hnormal r hr
  rw [merge_eq, hpackages, List.map_map]
  exact (List.map_congr_left hmerged).trans (List.map_id' requests)

/-- What a list of requests is merged to: a request for each package, in the order of the packages,
with all names that are requested from it. -/
structure MergesTo (requests merged : List Request) : Prop where
  sorted : (merged.map (·.package)).Pairwise (· < ·)
  packages : ∀ package, package ∈ merged.map (·.package) ↔ package ∈ requests.map (·.package)
  types : ∀ r ∈ merged, FirstSeen
    ((requests.filter fun q => q.package = r.package).flatMap (·.types)) r.types
  values : ∀ r ∈ merged, ∃ values, FirstSeen
    ((requests.filter fun q => q.package = r.package).flatMap (·.values)) values ∧
    r.values = values.filter fun v => v ∉ r.types

theorem mergesTo_merge (requests : List Request) : MergesTo requests (merge requests) where
  sorted := by
    rw [packages_merge]
    exact NameSet.sorted_ofNames _
  packages package := by rw [packages_merge, NameSet.mem_ofNames]
  types r hr := by
    obtain ⟨package, -, rfl⟩ := List.mem_map.mp hr
    exact firstSeen_eraseDups _
  values r hr := by
    obtain ⟨package, -, rfl⟩ := List.mem_map.mp hr
    refine ⟨_, firstSeen_eraseDups _, List.filter_congr fun v _ => ?_⟩
    rw [List.contains_eq_mem, decide_not]
    rfl

end Request

namespace UsageTable

theorem sorted_ofPackages {packages : Dict UsedNames} (h : packages.Sorted) :
    (ofPackages packages).packages.Sorted :=
  List.Pairwise.sublist (List.filter_sublist.map _) (h.map UsedNames.normal)

/-- The requests of a table are merged already. -/
theorem merge_requests {table : UsageTable} (h : table.packages.Sorted) :
    Request.merge table.requests = table.requests := by
  apply Request.merge_of_sorted
  · rw [requests, List.map_map]
    exact h
  · intro r hr
    obtain ⟨e, -, rfl⟩ := List.mem_map.mp hr
    exact Request.ofNames_self _ _ _

end UsageTable

/-- A stub answers its request, and is called as the package that was found for it. -/
theorem package_of_makeStub {source : Source} {request : Request} {s : SourcedStub}
    (h : makeStub source request = .ok s) : s.request = request ∧
      ∃ target, source request.package = .ok target ∧ s.stub.package = target.importPath := by
  obtain ⟨target, p, c, c', htarget, -, hplan, hstub, hrequest⟩ := exists_plan_of_makeStub h
  obtain ⟨first, done, w, -, -, -, -, hp⟩ :=
    Subject.planFrom_run (motive := fun _ _ _ _ => True) rfl trivial (fun _ _ _ => trivial)
      (fun _ _ _ _ => trivial) hplan
  obtain ⟨body, -, hbody⟩ := Except.bind_eq_ok.mp hstub
  refine ⟨hrequest, target, htarget, ?_⟩
  rw [← Except.pure_eq_ok.mp hbody, hp]

/-- The result of a run over requests that stops at the first failure: `made` are the stubs of the
requests before it, in turn, each reported as done when it was made. -/
def StopsAtFailure (source : Source) (requests : List Request)
    (result : List String × Except StubFault (List SourcedStub)) : Prop :=
  ∃ made rest, requests = made.map (·.request) ++ rest ∧
    (∀ s ∈ made, makeStub source s.request = .ok s ∧
      ∃ target, source s.request.package = .ok target ∧ s.stub.package = target.importPath) ∧
    result.1 = made.map (·.stub.package) ∧
    (rest = [] ∧ result.2 = .ok made ∨
      ∃ r later e, rest = r :: later ∧ makeStub source r = .error e ∧ result.2 = .error e)

theorem makeEach_of_error {source : Source} {r : Request} {requests : List Request} {e : StubFault}
    (h : makeStub source r = .error e) : makeEach source (r :: requests) = ([], .error e) := by
  simp only [makeEach, h]

theorem makeEach_of_ok {source : Source} {r : Request} {requests : List Request} {s : SourcedStub}
    (h : makeStub source r = .ok s) :
    makeEach source (r :: requests) =
      (s.stub.package :: (makeEach source requests).1,
        (makeEach source requests).2.map (s :: ·)) := by
  simp only [makeEach, h]

theorem stopsAtFailure_makeEach (source : Source) (requests : List Request) :
    StopsAtFailure source requests (makeEach source requests) := by
  induction requests with
  | nil => exact ⟨[], [], rfl, by simp, rfl, Or.inl ⟨rfl, rfl⟩⟩
  | cons r requests ih =>
    cases hr : makeStub source r with
    | error e =>
      rw [makeEach_of_error hr]
      exact ⟨[], r :: requests, rfl, by simp, rfl, Or.inr ⟨r, requests, e, rfl, hr, rfl⟩⟩
    | ok s =>
      obtain ⟨hrequest, hpackage⟩ := package_of_makeStub hr
      obtain ⟨made, rest, hsplit, hmade, hdone, hend⟩ := ih
      rw [makeEach_of_ok hr, hdone]
      refine ⟨s :: made, rest, by rw [hsplit, List.map_cons, hrequest, List.cons_append],
        List.forall_mem_cons.mpr ⟨hrequest ▸ ⟨hr, hpackage⟩, hmade⟩, rfl, ?_⟩
      rcases hend with ⟨hrest, hok⟩ | ⟨r', later, e, hrest, hfail, herror⟩
      · rw [hok]
        exact Or.inl ⟨hrest, rfl⟩
      · rw [herror]
        exact Or.inr ⟨r', later, e, hrest, hfail, rfl⟩

/-- Merging is a normal form that may be reached in parts, the requests of a usage table are in it,
and stubs are made from it alone, up to the first package that fails. -/
theorem merged_requests_decide_stubs :
    (∀ requests, Request.MergesTo requests (Request.merge requests)) ∧
      (∀ a b, Request.merge (a ++ b) = Request.merge (Request.merge a ++ Request.merge b)) ∧
      (∀ packages : Dict UsedNames, packages.Sorted →
        Request.merge (UsageTable.ofPackages packages).requests =
          (UsageTable.ofPackages packages).requests) ∧
      (∀ source a b, (∀ package, a.filter (fun r : Request => r.package = package) =
          b.filter fun r => r.package = package) → makeStubs source a = makeStubs source b) ∧
      ∀ source requests,
        StopsAtFailure source (Request.merge requests) (makeStubs source requests) := by
  refine ⟨Request.mergesTo_merge, Request.merge_append_merge, fun packages h => ?_,
    fun source a b h => ?_, fun source requests => stopsAtFailure_makeEach source _⟩
  · exact UsageTable.merge_requests (UsageTable.sorted_ofPackages h)
  · rw [makeStubs, makeStubs, Request.merge_eq_of_filter_eq h]

/-- Usages of the stall, with a name that is used both ways, of a till of which nothing is used, and
of a van that is not there. -/
def stallUsage : Dict UsedNames :=
  ⟨[("example.com/stall", ⟨["Crate"], ["Crate", "Open"], []⟩), ("example.com/till", .empty),
    ("example.com/van", ⟨[], ["Load"], []⟩)]⟩

/-- The stall is done before the van fails, also when the van is requested first. -/
theorem stall_requests_decide_stubs :
    stallUsage.Sorted ∧
      Request.merge (UsageTable.ofPackages stallUsage).requests =
        [⟨"example.com/stall", ["Crate"], ["Open"]⟩, ⟨"example.com/van", [], ["Load"]⟩] ∧
      makeStubs stallSource [⟨"example.com/van", [], ["Load"]⟩,
          ⟨"example.com/stall", [], ["Open"]⟩, ⟨"example.com/stall", ["Crate"], []⟩] =
        makeStubs stallSource [⟨"example.com/stall", [], ["Open"]⟩,
          ⟨"example.com/van", [], ["Load"]⟩, ⟨"example.com/stall", ["Crate"], []⟩] ∧
      (makeStubs stallSource [⟨"example.com/stall", [], ["Open"]⟩,
        ⟨"example.com/van", [], ["Load"]⟩, ⟨"example.com/stall", ["Crate"], []⟩]).1 =
          ["example.com/stall"] := by
  have hsorted : stallUsage.Sorted := by
    unfold Dict.Sorted
    decide
  obtain ⟨-, -, htable, hstubs, -⟩ := merged_requests_decide_stubs
  refine ⟨hsorted, (htable stallUsage hsorted).trans (by decide), ?_, by decide +kernel⟩
  refine hstubs stallSource _ _ fun package => ?_
  by_cases hp : package = "example.com/van"
  · subst hp
    decide
  · simp [List.filter_cons, Ne.symm hp]

end GoStub
