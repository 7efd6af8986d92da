import GoStub.Proofs.Cache
import GoStub.Proofs.Redraft
import GoStub.Proofs.RequestOrder
import GoStub.Proofs.StubImports

/-! The plan of a package that restates a plan of another and stands in its place is that plan. Both
packages want the same drafts for a request, of the same shapes and with the same needs. -/

namespace GoStub

open Lookup

theorem eq_of_map_eq_of_mem_iff {α : Type} {f : α → String} {l₁ l₂ : List α}
    (hmap : l₁.map f = l₂.map f) (hnodup : (l₁.map f).Nodup) (h : ∀ a, a ∈ l₁ ↔ a ∈ l₂) :
    l₁ = l₂ := by
  have hlength : l₁.length = l₂.length := by simpa using congrArg List.length hmap
  refine List.ext_getElem hlength fun i hi₁ hi₂ => ?_
  have heq : f l₁[i] = f l₂[i] := by
    have := List.getElem_of_eq hmap (by simpa using hi₁)
    simpa using this
  exact List.inj_on_of_nodup_map hnodup (List.getElem_mem hi₁)
    ((h _).mpr (List.getElem_mem hi₂)) heq

namespace Subject

variable {t : Subject} {names : List String} {p : StubPlan} {made withMethods : Bool}
  {name : String} {d d₁ : Draft}

/-- The shape of a draft with fewer methods than it could have. -/
theorem shape_of_outcome (hmore : withMethods = true → made = true)
    (h : t.outcome made name = .ok d) (h₁ : t.outcome withMethods name = .ok d₁) :
    d₁.shape = if withMethods then d.shape else d.shape.withoutMethods := by
  cases withMethods with
  | true =>
    rw [hmore rfl, h₁] at h
    cases h
    rfl
  | false =>
    cases made with
    | false =>
      obtain ⟨c, hy⟩ := yields_of_outcome h
      cases h.symm.trans h₁
      exact (Shape.withoutMethods_eq (Site.drafted_of_draft hy).methods_eq_nil).symm
    | true =>
      obtain ⟨c, hy⟩ := yields_of_outcome h
      obtain ⟨d₀, c₀, hy₀, -, hshape⟩ := Site.draft_without_methods hy
      cases h₁.symm.trans (congrArg Prod.fst hy₀)
      exact hshape

theorem Wants.without_methods (h : t.Wants names true name) (hname : name ∉ names) :
    t.Wants names false name := by
  cases h with
  | requested hmem => exact absurd hmem hname
  | promoted hw hd hneed => exact .declared hw hd (declared_of_promoted hd hneed)

/-- A wanted draft has the shape of a record, with the methods that are asked for. -/
theorem Fulfils.exists_record (h : t.Fulfils names p) (hf : t.Feasible names)
    (hw : t.Wants names withMethods name) (hd : t.outcome withMethods name = .ok d) :
    ∃ r ∈ p.records, r.name = name ∧
      d.shape = if withMethods then r.shape else r.shape.withoutMethods := by
  by_cases hname : name ∈ names
  · obtain ⟨d₀, hd₀⟩ := hf true name (.requested hname)
    have hr := (h.mem_requested _).mpr ⟨name, hname, d₀, hd₀, rfl⟩
    exact ⟨_, (List.mem_filter.mp hr).1, rfl, shape_of_outcome (fun _ => rfl) hd₀ hd⟩
  · have hfalse : t.Wants names false name := by
      cases withMethods with
      | false => exact hw
      | true => exact hw.without_methods hname
    by_cases htrue : t.Wants names true name
    · obtain ⟨d₀, hd₀⟩ := hf true name htrue
      have hr := (h.mem_auxiliary _).mpr
        ⟨name, true, d₀, hname, hfalse, by simpa using htrue, hd₀, rfl⟩
      exact ⟨_, (List.mem_filter.mp hr).1, rfl, shape_of_outcome (fun _ => rfl) hd₀ hd⟩
    · obtain ⟨d₀, hd₀⟩ := hf false name hfalse
      have hr := (h.mem_auxiliary _).mpr
        ⟨name, false, d₀, hname, hfalse, by simpa using htrue, hd₀, rfl⟩
      refine ⟨_, (List.mem_filter.mp hr).1, rfl, shape_of_outcome (fun heq => ?_) hd₀ hd⟩
      exact absurd (heq ▸ hw) htrue

/-- Wherever `t` wants a draft for these names, `t'` has one of the same shape with the same needs.
-/
structure Alike (t t' : Subject) (names : List String) : Prop where
  importPath : t'.target.importPath = t.target.importPath
  drafts : ∀ withMethods name, t.Wants names withMethods name →
    ∃ d d', t.outcome withMethods name = .ok d ∧ t'.outcome withMethods name = .ok d' ∧
      d'.shape = d.shape ∧ ∀ need, need ∈ d'.needs ↔ need ∈ d.needs

namespace Alike

variable {t' : Subject} {p' : StubPlan}

theorem wants_iff (h : t.Alike t' names) :
    t'.Wants names withMethods name ↔ t.Wants names withMethods name := by
  constructor
  · intro hw
    induction hw with
    | requested hn => exact .requested hn
    | @declared withMethods name next d' hw' hd' hneed ih =>
      obtain ⟨d, d'', hd, hd'', -, hneeds⟩ := h.drafts withMethods name ih
      cases hd'.symm.trans hd''
      exact .declared ih hd ((hneeds _).mp hneed)
    | @promoted withMethods name next d' hw' hd' hneed ih =>
      obtain ⟨d, d'', hd, hd'', -, hneeds⟩ := h.drafts withMethods name ih
      cases hd'.symm.trans hd''
      exact .promoted ih hd ((hneeds _).mp hneed)
  · intro hw
    induction hw with
    | requested hn => exact .requested hn
    | @declared withMethods name next d hw hd hneed ih =>
      obtain ⟨d₁, d', hd₁, hd', -, hneeds⟩ := h.drafts withMethods name hw
      cases hd.symm.trans hd₁
      exact .declared ih hd' ((hneeds _).mpr hneed)
    | @promoted withMethods name next d hw hd hneed ih =>
      obtain ⟨d₁, d', hd₁, hd', -, hneeds⟩ := h.drafts withMethods name hw
      cases hd.symm.trans hd₁
      exact .promoted ih hd' ((hneeds _).mpr hneed)

theorem feasible (h : t.Alike t' names) : t'.Feasible names := by
  intro withMethods name hw
  obtain ⟨-, d', -, hd', -⟩ := h.drafts withMethods name (h.wants_iff.mp hw)
  exact ⟨d', hd'⟩

/-- A record of a wanted draft is the same for both. -/
theorem exists_recordOf_iff (h : t.Alike t' names) (hw : t.Wants names withMethods name)
    {isRequested : Bool} {r : Record} :
    (∃ d', t'.outcome withMethods name = .ok d' ∧ r = t'.recordOf isRequested name d') ↔
      ∃ d, t.outcome withMethods name = .ok d ∧ r = t.recordOf isRequested name d := by
  obtain ⟨d, d', hd, hd', hshape, -⟩ := h.drafts withMethods name hw
  have hrecord : t'.recordOf isRequested name d' = t.recordOf isRequested name d := by
    rw [recordOf, recordOf, h.importPath, hshape]
  simp only [hd, hd', Except.ok.injEq, exists_eq_left', hrecord]

theorem wantsPath_iff (h : t.Alike t' names) {path : String} :
    t'.WantsPath names path ↔ t.WantsPath names path := by
  refine exists_congr fun withMethods => exists_congr fun name => ?_
  constructor
  · rintro ⟨d', hw', hd', hneed⟩
    obtain ⟨d, d'', hd, hd'', -, hneeds⟩ := h.drafts withMethods name (h.wants_iff.mp hw')
    cases hd'.symm.trans hd''
    exact ⟨d, h.wants_iff.mp hw', hd, (hneeds _).mp hneed⟩
  · rintro ⟨d, hw, hd, hneed⟩
    obtain ⟨d₁, d', hd₁, hd', -, hneeds⟩ := h.drafts withMethods name hw
    cases hd.symm.trans hd₁
    exact ⟨d', h.wants_iff.mpr hw, hd', (hneeds _).mpr hneed⟩

theorem requested_eq (h : t.Alike t' names) (hf : t.Fulfils names p) (hf' : t'.Fulfils names p')
    (hnodup : names.Nodup) (hnames : p.requested.map (·.name) = names)
    (hnames' : p'.requested.map (·.name) = names) : p'.requested = p.requested := by
  have hmap : p'.requested.map (·.name) = p.requested.map (·.name) := hnames'.trans hnames.symm
  refine eq_of_map_eq_of_mem_iff hmap (hnames' ▸ hnodup) fun r => ?_
  rw [hf.mem_requested, hf'.mem_requested]
  exact exists_congr fun n => and_congr_right fun hn => h.exists_recordOf_iff (.requested hn)

theorem auxiliary_eq (h : t.Alike t' names) (hf : t.Fulfils names p)
    (hf' : t'.Fulfils names p') : p'.auxiliary = p.auxiliary := by
  refine eq_of_sorted_of_mem_iff hf'.sorted_auxiliary hf.sorted_auxiliary fun r => ?_
  rw [hf.mem_auxiliary, hf'.mem_auxiliary]
  refine exists_congr fun n => exists_congr fun withMethods => ?_
  simp only [exists_and_left, h.wants_iff]
  refine and_congr_right fun _ => and_congr_right fun hfalse => and_congr_right fun hmethods => ?_
  refine h.exists_recordOf_iff ?_
  cases withMethods with
  | false => exact hfalse
  | true => exact hmethods.mp rfl

theorem paths_iff (h : t.Alike t' names) (hf : t.Fulfils names p) (hf' : t'.Fulfils names p')
    (path : String) : p'.imports.contains path = true ↔ p.imports.contains path = true := by
  have hmem := hf.mem_imports path
  have hmem' := hf'.mem_imports path
  rw [ImportTable.paths, Dict.mem_keys_iff] at hmem hmem'
  exact hmem'.trans (h.wantsPath_iff.trans hmem.symm)

end Alike

end Subject

/-- The records of a plan: first the requested ones in the order of their names in the request. -/
theorem split_of_planFrom {source : Source} {request : Request} {target : PackageScope}
    {p : StubPlan} {c c' : Cache} (hs : source.Consistent) (hc : Agrees source c)
    (h : (planFrom source request target).Yields c p c') :
    p.package = target.importPath ∧ p.packageName = target.name ∧
      p.records = p.requested ++ p.auxiliary ∧ p.requested.map (·.name) = request.names := by
  obtain ⟨first, done, w, hfin, hp⟩ := Subject.planFrom_finished rfl hs hc h
  have hrecords : p.records = first ++ done.values := by rw [hp]
  rw [hfin.ledger.requested_eq hfin.all_requested hrecords,
    hfin.ledger.auxiliary_eq hfin.all_requested hrecords]
  exact ⟨by rw [hp], by rw [hp], hrecords, hfin.names_eq⟩

namespace PackageScope.Replaces

variable {s target : PackageScope} {source : Source} {request : Request} {p : StubPlan}
  {withMethods : Bool} {name : String}

/-- In a package that restates a plan no method is declared on an interface: shapes of interfaces
and of aliases have none. -/
theorem interfacesBare (h : s.Replaces source target p) : s.InterfacesBare := by
  intro name decl body hdecl hbody
  obtain ⟨r, hr, rfl, htype⟩ := (h.restates.types name decl).mp hdecl
  obtain ⟨withMethods, c, d, -, hd, hshape⟩ := h.completes.drafted r hr
  rw [h.restates.methods r hr, Shape.methodDecls]
  rw [hshape] at htype ⊢
  cases hd with
  | ofFunction | ofUntyped | ofConstant | ofVariable => cases htype
  | ofStruct =>
    cases htype
    cases hbody
  | ofOther hd ha hi ht hp hm hu =>
    cases htype
    exact absurd hbody ((GoType.kind_of_settle hu hi ht).1 body)
  | ofAlias | ofInterface => rfl

theorem exists_outcome (h : s.Replaces source target p) (request : Request) {r : Record}
    (hr : r ∈ p.records) (withMethods : Bool) :
    ∃ d, (Subject.ofRequest (source.replacing target.importPath s) request s).outcome withMethods
        r.name = .ok d ∧
      d.shape = if withMethods then r.shape else r.shape.withoutMethods := by
  obtain ⟨d, hreturns, hshape⟩ := h.returns_draft hr withMethods
  obtain ⟨c', hy, -⟩ := hreturns .empty (agrees_empty _)
  exact ⟨d, congrArg Prod.fst hy, hshape⟩

/-- What a draft needs depends on its shape only, where no methods are declared on interfaces. -/
theorem needs_iff (h : s.Replaces source target p) (hbare : target.InterfacesBare)
    {d d' : Draft} (hd : (Subject.ofRequest source request target).outcome withMethods name = .ok d)
    (hd' : (Subject.ofRequest (source.replacing target.importPath s) request s).outcome withMethods
      name = .ok d') (hshape : d'.shape = d.shape) (need : Need) :
    need ∈ d'.needs ↔ need ∈ d.needs := by
  obtain ⟨c, hy⟩ := Subject.yields_of_outcome hd
  obtain ⟨c', hy'⟩ := Subject.yields_of_outcome hd'
  have hdrafted := Site.drafted_of_draft hy
  have hdrafted' := Site.drafted_of_draft hy'
  have hiff : need ∈ d.needs ↔ d.shape.Needs target.importPath need :=
    ⟨hdrafted.shape_needs_of_bare hbare, hdrafted.mem_needs_of_shape⟩
  have hiff' : need ∈ d'.needs ↔ d'.shape.Needs s.importPath need :=
    ⟨hdrafted'.shape_needs_of_bare h.interfacesBare, hdrafted'.mem_needs_of_shape⟩
  rw [hiff, hiff', hshape, h.importPath_eq]

theorem alike (h : s.Replaces source target p) (hbare : target.InterfacesBare)
    (hfulfils : (Subject.ofRequest source request target).Fulfils request.names p)
    (hfeasible : (Subject.ofRequest source request target).Feasible request.names) :
    (Subject.ofRequest source request target).Alike
      (Subject.ofRequest (source.replacing target.importPath s) request s) request.names := by
  refine ⟨h.importPath_eq, fun withMethods name hw => ?_⟩
  obtain ⟨d, hd⟩ := hfeasible withMethods name hw
  obtain ⟨r, hr, rfl, hshape⟩ := hfulfils.exists_record hfeasible hw hd
  obtain ⟨d', hd', hshape'⟩ := h.exists_outcome request hr withMethods
  have hsame := hshape'.trans hshape.symm
  exact ⟨d, d', hd, hd', hsame, h.needs_iff hbare hd hd' hsame⟩

/-- What has a record is declared. -/
theorem contains_of_mem (h : s.Replaces source target p) {r : Record} (hr : r ∈ p.records) :
    s.contains r.name = true := by
  have htype := h.types_get? hr
  have hfunc := h.funcs_get? hr
  have hvalue := h.restates.values r hr
  unfold PackageScope.contains Dict.contains
  cases hshape : r.shape with
  | function params signature => simp [hfunc, hshape, Shape.functionDecl?]
  | value type constant basic =>
    obtain ⟨b, hb, -⟩ := hvalue type constant basic hshape
    simp [hb]
  | interface | struct | named => simp [htype, hshape, Shape.typeDecl?]

/-- The package that stands in has the same plan. -/
theorem returns_planFrom (h : s.Replaces source target p) (hbare : target.InterfacesBare)
    (hnodup : request.names.Nodup) {c c' : Cache} (hc : Agrees source c)
    (hplan : (planFrom source request target).Yields c p c') :
    Returns (source.replacing target.importPath s)
      (planFrom (source.replacing target.importPath s) request s) p := by
  intro c₁ hc₁
  obtain ⟨hfulfils, hfeasible⟩ := Subject.fulfils_of_planFrom h.consistent hc hnodup hplan
  have halike := h.alike hbare hfulfils hfeasible
  have hknown (n : String) (hn : n ∈ request.names) : s.contains n = true := by
    obtain ⟨d, hd⟩ := hfeasible true n (.requested hn)
    obtain ⟨r, hr, rfl, -⟩ := hfulfils.exists_record hfeasible (.requested hn) hd
    exact h.contains_of_mem hr
  obtain ⟨p', c₂, hplan'⟩ :=
    Subject.exists_planFrom h.consistent_replacing hc₁ hknown halike.feasible
  obtain ⟨hfulfils', -⟩ :=
    Subject.fulfils_of_planFrom h.consistent_replacing hc₁ hnodup hplan'
  obtain ⟨hpackage, hname, hrecords, hrequested⟩ := split_of_planFrom h.consistent hc hplan
  obtain ⟨hpackage', hname', hrecords', hrequested'⟩ :=
    split_of_planFrom h.consistent_replacing hc₁ hplan'
  have hsame : p'.records = p.records := by
    rw [hrecords, hrecords', halike.requested_eq hfulfils hfulfils' hnodup hrequested hrequested',
      halike.auxiliary_eq hfulfils hfulfils']
  have himports : p'.imports = p.imports :=
    imports_of_planFrom_eq (sorted_imports_of_planFrom hplan) (distinct_of_planFrom hplan)
      h.restates.importNames hplan' (halike.paths_iff hfulfils hfulfils')
      (hsame ▸ apart_of_planFrom hplan)
  have hp : p' = p := by
    obtain ⟨package, packageName, records, imports⟩ := p
    obtain ⟨package', packageName', records', imports'⟩ := p'
    cases hsame
    cases himports
    rw [StubPlan.mk.injEq]
    exact ⟨hpackage'.trans (h.importPath_eq.trans hpackage.symm),
      hname'.trans h.restates.name, rfl, rfl⟩
  exact ⟨c₂, hp ▸ hplan', (steady_planFrom h.consistent_replacing request s).agrees hc₁ hplan'⟩

end PackageScope.Replaces

end GoStub
