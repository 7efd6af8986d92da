import GoStub.Proofs.Ledger
import GoStub.Proofs.MethodSet
import GoStub.Proofs.Universe

/-! Type parameters and their binders. In a well-scoped universe no parameter leaves its binder: not
when interfaces are written out across packages, and not in the type of a value. -/

namespace GoStub

open Lookup

variable {u : Universe} {bound : List String} {source : Source} {site : Site}

theorem ensures_constantKind (hu : u.Sound source) (depth : Nat) (type : GoType) :
    Ensures u (constantKind source site depth type) fun _ => True :=
  hu.covers.compositional.holds_constantKind depth type

section Values

variable {package : PackageScope} {path : String} {decl : ValueBinding}

theorem ValueBinding.mem_types_of_type {t : GoType} (h : decl.type = some t) : t ∈ decl.types := by
  simp [ValueBinding.types, h]

theorem ValueBinding.mem_types_of_init {t : GoType} {init : Initializer}
    (h : decl.init = some init) (ht : t ∈ init.types) : t ∈ decl.types := by
  simp [ValueBinding.types, h, ht]

theorem ensures_conversionTarget (hu : u.Sound source)
    (ht : u.Finds site.target.importPath site.target) {callee : CallTarget} {index : Nat}
    (hcallee : ∀ t ∈ (Initializer.call callee index).types, t.ParamsIn []) :
    Ensures u (conversionTarget source site package callee)
      fun target => ∀ type ∈ target, type.ParamsIn [] := by
  have hplain (path name : String) (known : Bool) :
      ∀ type ∈ (if known then some (GoType.plain path name) else none), type.ParamsIn [] := by
    intro type h
    cases known with
    | true => exact Option.mem_some.mp h ▸ GoType.paramsIn_plain path name
    | false => cases h
  cases callee with
  | conversion type => exact ensures_pure fun t h => hcallee t (Option.mem_some.mp h ▸ .head _)
  | own name => exact ensures_pure (hplain _ _ _)
  | foreign path name =>
    exact (ensures_packageAt hu ht path).bind fun owner _ => ensures_pure (hplain _ _ _)

/-- A value of a package in the universe mentions no type parameter. -/
theorem Universe.Sound.paramsIn_value (hu : u.Sound source) (hp : u.Finds path package)
    {name : String} (hd : package.values.get? name = some decl) : ∀ t ∈ decl.types, t.ParamsIn [] :=
  (hu.wellScoped hp).values hd

theorem ensures_constantType (hu : u.Sound source)
    (ht : u.Finds site.target.importPath site.target) (depth : Nat) (hp : u.Finds path package)
    (hd : ∀ t ∈ decl.types, t.ParamsIn []) :
    Ensures u (constantType source site depth package decl)
      fun result => ∀ type ∈ result.1, type.ParamsIn [] := by
  induction depth generalizing path package decl with
  | zero => exact ensures_fail _
  | succ depth ih =>
    unfold constantType
    split
    next type htype =>
      refine (ensures_constantKind hu _ _).bind fun kind _ => ensures_pure fun t h => ?_
      exact Option.mem_some.mp h ▸ hd type (ValueBinding.mem_types_of_type htype)
    · exact ensures_pure fun t h => nomatch h
    · split
      · exact ensures_fail _
      next next hnext =>
        exact ih hp (hu.paramsIn_value hp (Option.filter_eq_some_iff.mp hnext).1)
    · refine (ensures_packageAt hu ht _).bind fun owner howner => ?_
      split
      · exact ensures_fail _
      next next hnext =>
        exact ih howner (hu.paramsIn_value howner (Option.filter_eq_some_iff.mp hnext).1)
    next callee index hnone hinit =>
      refine (ensures_conversionTarget hu ht fun t ht =>
        hd t (ValueBinding.mem_types_of_init hinit ht)).bind fun target htarget => ?_
      split
      · exact ensures_fail _
      next type =>
        exact (ensures_constantKind hu _ _).bind fun kind _ => ensures_pure fun t h =>
          htarget t h
    · exact ensures_fail _

theorem ensures_calledFunction (hu : u.Sound source)
    (ht : u.Finds site.target.importPath site.target) (hp : u.Finds path package)
    (callee : CallTarget) :
    Ensures u (calledFunction source site package callee)
      fun found => ∀ function ∈ found, ∀ t ∈ function.signature.types,
        t.ParamsIn (typeParamNames function.params) := by
  have hfound {path : String} {package : PackageScope} (hp : u.Finds path package) (name : String) :
      ∀ function ∈ package.funcs.get? name, ∀ t ∈ function.signature.types,
        t.ParamsIn (typeParamNames function.params) :=
    fun function hf t ht => (hu.wellScoped hp).funcs hf t (List.mem_append_right _ ht)
  cases callee with
  | conversion type => exact ensures_pure fun function h => nomatch h
  | own name => exact ensures_pure (hfound hp name)
  | foreign path name =>
    exact (ensures_packageAt hu ht path).bind fun owner howner => ensures_pure (hfound howner name)

/-- The result of a call mentions no type parameter: calls of generic functions are refused. -/
theorem ensures_resultType (hu : u.Sound source)
    (ht : u.Finds site.target.importPath site.target) (hp : u.Finds path package) (name : String)
    {callee : CallTarget} {index : Nat}
    (hcallee : ∀ t ∈ (Initializer.call callee index).types, t.ParamsIn []) :
    Ensures u (resultType source site package name callee index) (·.ParamsIn []) := by
  unfold resultType
  split
  · exact ensures_pure (GoType.fits_builtin (u := u) _).paramsIn
  · refine (ensures_conversionTarget hu ht hcallee).bind fun target htarget => ?_
    split
    next type => exact ensures_pure (htarget type rfl)
    · refine (ensures_calledFunction hu ht hp callee).bind fun found hfound => ?_
      split
      · exact ensures_fail _
      next function =>
        split
        · exact ensures_fail _
        next hgeneric =>
          have hnone : function.params = [] := by simpa using hgeneric
          split
          next type hresult =>
            have hmem : type ∈ function.signature.types :=
              List.mem_append_right _ (List.mem_of_getElem? hresult)
            have hparams := hfound function rfl type hmem
            rw [hnone] at hparams
            exact ensures_pure hparams
          · exact ensures_fail _

theorem ensures_variableType (hu : u.Sound source)
    (ht : u.Finds site.target.importPath site.target) (depth : Nat) (hp : u.Finds path package)
    (hd : ∀ t ∈ decl.types, t.ParamsIn []) :
    Ensures u (variableType source site depth package decl) (·.ParamsIn []) := by
  induction depth generalizing path package decl with
  | zero => exact ensures_fail _
  | succ depth ih =>
    have hfollow {path name : String} {owner : PackageScope} {next : ValueBinding}
        (ho : u.Finds path owner) (hn : owner.values.get? name = some next) : Ensures u
        (if next.constant then return variableTypeOf (← constantType source site depth owner next)
        else variableType source site depth owner next) (·.ParamsIn []) := by
      have hnext := hu.paramsIn_value ho hn
      split
      · refine (ensures_constantType hu ht depth ho hnext).bind fun result hresult =>
          ensures_pure ?_
        match result with
        | (some type, kind) => exact hresult type rfl
        | (none, kind) => exact (GoType.fits_builtin (u := u) _).paramsIn
      · exact ih ho hnext
    unfold variableType
    split
    next type htype => exact ensures_pure (hd type (ValueBinding.mem_types_of_type htype))
    · exact ensures_pure (GoType.fits_builtin (u := u) _).paramsIn
    next type hnone hinit =>
      exact ensures_pure (hd type (ValueBinding.mem_types_of_init hinit (.head _)))
    next type hnone hinit =>
      exact ensures_pure (hd type (ValueBinding.mem_types_of_init hinit (.head _))).pointer
    · split
      · exact ensures_fail _
      next next hnext => exact hfollow hp hnext
    · refine (ensures_packageAt hu ht _).bind fun owner howner => ?_
      split
      · exact ensures_fail _
      next next hnext => exact hfollow howner hnext
    next callee index hnone hinit =>
      exact ensures_resultType hu ht hp _ fun t ht =>
        hd t (ValueBinding.mem_types_of_init hinit ht)
    · exact ensures_fail _
    · exact ensures_fail _

end Values

namespace Shape

/-- The type parameters of a shape. -/
def params : Shape → List TypeParam
  | .function params _ => params
  | .interface params _ => params
  | .struct params _ _ => params
  | .named params _ _ _ => params
  | .value _ _ _ => []

/-- The types of a shape outside its methods. -/
def ownTypes : Shape → List GoType
  | .function params signature => constraintTypes params ++ signature.types
  | .interface params body => constraintTypes params ++ body.types
  | .struct params fields _ => constraintTypes params ++ fields.map (·.type)
  | .named params underlying _ _ => constraintTypes params ++ [underlying]
  | .value type _ _ => type.toList

/-- Nothing of a shape is outside its own types and its methods. -/
theorem mem_types_iff {s : Shape} {t : GoType} :
    t ∈ s.types ↔ t ∈ s.ownTypes ∨ ∃ m ∈ s.methods, t ∈ m.signature.types := by
  cases s with
  | function | interface | value => simp [types, ownTypes, methods]
  | struct | named =>
    simp only [types, ownTypes, methods, methodTypes, List.mem_append, List.mem_flatMap]
    exact or_left_comm.trans or_comm

/-- No type parameter leaves its binder. -/
structure Closed (s : Shape) : Prop where
  own : ∀ t ∈ s.ownTypes, t.ParamsIn (typeParamNames s.params)
  methods : ∀ m ∈ s.methods, ∀ t ∈ m.signature.types, t.ParamsIn m.receiverParams

end Shape

theorem typeParamNames_of_settleParams {params params' : List TypeParam}
    (h : settleParams site params = .ok params') :
    typeParamNames params' = typeParamNames params := by
  have hnames {ps ps' : List TypeParam} (h : List.Forall₂ (fun p p' =>
      p.constraint.settle site = .ok p'.constraint ∧ p'.name = p.name) ps ps') :
      typeParamNames ps' = typeParamNames ps := by
    induction h with
    | nil => rfl
    | cons hp _ ih => exact congrArg₂ List.cons hp.2 ih
  exact hnames (settleParams_ok h)

theorem paramsIn_of_settleParams {params params' : List TypeParam}
    (h : settleParams site params = .ok params')
    (hp : ∀ t ∈ constraintTypes params, t.ParamsIn bound) :
    ∀ t ∈ constraintTypes params', t.ParamsIn bound :=
  GoType.paramsIn_of_forall₂ hp (List.rel_map (fun _ _ h => h.1) (settleParams_ok h))

theorem Site.paramsIn_of_methodRecords {methods : List MethodDecl} {records : List DeclaredMethod}
    (h : site.methodRecords methods = .ok records)
    (hm : ∀ m ∈ methods, ∀ t ∈ m.signature.types, t.ParamsIn m.receiverParams) :
    ∀ r ∈ records, ∀ t ∈ r.signature.types, t.ParamsIn r.receiverParams := by
  intro r hr
  obtain ⟨m, hmem, hs, hrec⟩ := exists_of_forall₂ (Site.methodRecords_ok h) hr
  have hparams : r.receiverParams = m.receiverParams := by rw [hrec]
  rw [hparams]
  exact GoType.paramsIn_of_forall₂ (hm m hmem) (Signature.settle_types hs)

namespace Site

theorem ensures_shapeOfDefined (hu : u.Sound source)
    (ht : u.Finds site.target.importPath site.target) {type : GoType} {params : List TypeParam}
    {methods : List DeclaredMethod} (htype : type.Fits u (typeParamNames params))
    (hparams : ∀ t ∈ constraintTypes params, t.ParamsIn (typeParamNames params))
    (hmethods : ∀ m ∈ methods, ∀ t ∈ m.signature.types, t.ParamsIn m.receiverParams) :
    Ensures u (site.shapeOfDefined source params methods type) (·.shape.Closed) := by
  unfold shapeOfDefined
  split
  next body =>
    have hbody : body.Fits u (typeParamNames params) := fun t ht => htype.part ht
    refine (ensures_methodSet hu ht stepLimit ht hbody).bind fun flat hflat => ?_
    refine (ensures_ofExcept fun settled hs => GoType.paramsIn_of_forall₂
      (fun t ht => (hflat t ht).paramsIn) (InterfaceBody.settle_types hs)).bind
        fun settled hsettled => ensures_pure ⟨?_, fun _ hm => nomatch hm⟩
    exact List.forall_mem_append.mpr ⟨hparams, hsettled⟩
  next fields =>
    have hfields : ∀ t ∈ (fields.filter fun f => Name.isExported f.name).map (·.type),
        t.ParamsIn (typeParamNames params) := by
      intro t ht
      obtain ⟨f, hf, rfl⟩ := List.mem_map.mp ht
      exact (htype.part (List.mem_map_of_mem (List.mem_filter.mp hf).1)).paramsIn
    refine (ensures_ofExcept fun settled hs => GoType.paramsIn_of_forall₂ hfields
      (List.rel_map (fun _ _ h => h.1) (settleFields_ok hs))).bind
        fun settled hsettled => ensures_pure ⟨?_, hmethods⟩
    exact List.forall_mem_append.mpr ⟨hparams, hsettled⟩
  next =>
    refine (ensures_ofExcept fun underlying hs => htype.paramsIn.settle hs).bind
      fun underlying hunderlying => ensures_pure ⟨?_, hmethods⟩
    exact List.forall_mem_append.mpr ⟨hparams, List.forall_mem_singleton.mpr hunderlying⟩

theorem ensures_shapeOfType (hu : u.Sound source)
    (ht : u.Finds site.target.importPath site.target) {decl : TypeDecl} (withMethods : Bool)
    (hd : site.target.types.get? site.symbol = some decl) :
    Ensures u (site.shapeOfType source decl withMethods) (·.shape.Closed) := by
  obtain ⟨htype, hconstraints⟩ := (hu.wellScoped ht).types hd
  unfold shapeOfType
  refine (ensures_ofExcept (Q := fun params => typeParamNames params = typeParamNames decl.params ∧
    ∀ t ∈ constraintTypes params, t.ParamsIn (typeParamNames decl.params)) fun params hs =>
      ⟨typeParamNames_of_settleParams hs, paramsIn_of_settleParams hs hconstraints⟩).bind ?_
  rintro params ⟨hnames, hparams⟩
  rw [← hnames] at htype hparams
  split
  · refine (ensures_ofExcept fun underlying hs => htype.paramsIn.settle hs).bind
      fun underlying hunderlying => ensures_pure ⟨?_, fun _ hm => nomatch hm⟩
    exact List.forall_mem_append.mpr ⟨hparams, List.forall_mem_singleton.mpr hunderlying⟩
  · have hdeclared : ∀ m ∈ (if withMethods then site.target.exportedMethods site.symbol else []),
        ∀ t ∈ m.signature.types, t.ParamsIn m.receiverParams := by
      split
      · intro m hm
        have hkept := (List.mem_filter.mp (List.mem_mergeSort.mp hm)).1
        exact (hu.wellScoped ht).methods site.symbol m hkept
      · exact fun _ hm => nomatch hm
    refine (ensures_ofExcept fun methods hs => paramsIn_of_methodRecords hs hdeclared).bind
      fun methods hmethods => ?_
    exact (ensures_shapeOfDefined hu ht htype hparams hmethods).bind
      fun draft hdraft => ensures_pure hdraft

theorem closed_of_shapeOfFunction {decl : FunctionDecl} {d : Draft}
    (hd : ∀ t ∈ constraintTypes decl.params ++ decl.signature.types,
      t.ParamsIn (typeParamNames decl.params))
    (h : site.shapeOfFunction decl = .ok d) : d.shape.Closed := by
  obtain ⟨params, hp, h⟩ := Except.bind_eq_ok.mp h
  obtain ⟨signature, hs, h⟩ := Except.bind_eq_ok.mp h
  obtain rfl := Except.pure_eq_ok.mp h
  obtain ⟨hconstraints, hsignature⟩ := List.forall_mem_append.mp hd
  refine ⟨?_, fun _ hm => nomatch hm⟩
  rw [Shape.params, typeParamNames_of_settleParams hp]
  exact List.forall_mem_append.mpr ⟨paramsIn_of_settleParams hp hconstraints,
    GoType.paramsIn_of_forall₂ hsignature (Signature.settle_types hs)⟩

theorem closed_value {type : GoType} (h : type.ParamsIn []) (constant : Bool)
    (basic : Option ConstantKind) : (Shape.value (some type) constant basic).Closed :=
  ⟨List.forall_mem_singleton.mpr h, fun _ hm => nomatch hm⟩

theorem ensures_shapeOfValue (hu : u.Sound source)
    (ht : u.Finds site.target.importPath site.target) {decl : ValueBinding}
    (hd : site.target.values.get? site.symbol = some decl) :
    Ensures u (site.shapeOfValue source decl) (·.shape.Closed) := by
  have hdecl := hu.paramsIn_value ht hd
  unfold shapeOfValue
  split
  · refine (ensures_constantType hu ht stepLimit ht hdecl).bind fun ⟨type, kind⟩ htype => ?_
    match type with
    | none => exact ensures_pure ⟨fun _ h => (nomatch h), fun _ hm => nomatch hm⟩
    | some type =>
      exact (ensures_ofExcept fun settled hs => (htype type rfl).settle hs).bind
        fun settled hsettled => ensures_pure (closed_value hsettled _ _)
  · refine (ensures_variableType hu ht stepLimit ht hdecl).bind fun type htype => ?_
    exact (ensures_ofExcept fun settled hs => htype.settle hs).bind
      fun settled hsettled => ensures_pure (closed_value hsettled _ _)

/-- Whatever a symbol is, its shape is closed. -/
theorem ensures_draft (hu : u.Sound source) (ht : u.Finds site.target.importPath site.target)
    (withMethods : Bool) : Ensures u (site.draft source withMethods) (·.shape.Closed) := by
  unfold draft
  split
  next decl hd => exact ensures_shapeOfType hu ht withMethods hd
  next =>
    split
    next decl hd =>
      exact ensures_ofExcept fun d h => closed_of_shapeOfFunction ((hu.wellScoped ht).funcs hd) h
    next =>
      split
      next decl hd => exact ensures_shapeOfValue hu ht hd
      next => exact ensures_fail _

end Site

variable {request : Request} {target : PackageScope} {p : StubPlan} {c c' : Cache}

/-- Every record of a plan is closed: each was drafted when only packages of the universe were
loaded. -/
theorem closed_of_planFrom (hu : u.Sound source) (ht : u.Finds target.importPath target)
    (hc : u.Holds c) (h : (planFrom source request target).Yields c p c') :
    ∀ r ∈ p.records, r.shape.Closed := by
  have hdraft (name : String) (withMethods : Bool) :
      Ensures u ((⟨target, name⟩ : Site).draft source withMethods) (·.shape.Closed) :=
    Site.ensures_draft hu ht withMethods
  obtain ⟨first, done, w, hledger, -, -, -, rfl⟩ := Subject.planFrom_ledger (P := u.Holds) rfl hc
    (fun hc hd => (hdraft _ _ hc hd).1) h
  intro r hr
  obtain ⟨withMethods, c₁, d, c₂, hc₁, hd, hr⟩ := hledger.made hr
  have hshape : r.shape = d.shape := congrArg Record.shape hr
  exact hshape ▸ (hdraft r.name withMethods hc₁ hd).2

/-- In a well-scoped universe no type parameter leaves its binder: what occurs in a record is a
parameter of the record, in a method a parameter of its receiver, and in a value nothing at all. -/
theorem params_stay_bound (hu : u.Sound source) (hc : u.Holds c)
    (h : (plan source request).Yields c p c' ∨
      ∃ target, u.Finds target.importPath target ∧
        (planFrom source request target).Yields c p c') :
    ∀ r ∈ p.records,
      (∀ t ∈ r.shape.ownTypes, ∀ name, (GoType.param name).Occurs t →
        name ∈ typeParamNames r.shape.params) ∧
      (∀ m ∈ r.shape.methods, ∀ t ∈ m.signature.types, ∀ name, (GoType.param name).Occurs t →
        name ∈ m.receiverParams) ∧
      ∀ type constant basic, r.shape = .value type constant basic →
        ∀ t ∈ type, ∀ name, ¬ (GoType.param name).Occurs t := by
  have hclosed : ∀ r ∈ p.records, r.shape.Closed := by
    rcases h with h | ⟨target, ht, h⟩
    · obtain ⟨target, c₁, htarget, h⟩ := yields_bind.mp h
      obtain ⟨hc₁, hfound⟩ := ensures_package hu request.package hc htarget
      exact closed_of_planFrom hu (u.own hfound) hc₁ h
    · exact closed_of_planFrom hu ht hc h
  intro r hr
  have hr := hclosed r hr
  refine ⟨hr.own, hr.methods, fun type constant basic hvalue t ht name hn => ?_⟩
  have hown : t ∈ r.shape.ownTypes := by
    rw [hvalue]
    exact Option.mem_toList.mpr ht
  have hbound := hr.own t hown name hn
  rw [hvalue] at hbound
  exact List.not_mem_nil hbound

/-- A package with `Tap[E]`, which embeds `feed.Source[map[string]E]`, and with `Pipe[T]`, which
embeds `Tap[[]T]` and has a method that calls its parameter `V`. -/
def taps : PackageScope where
  importPath := "example.com/taps"
  name := "taps"
  dir := ⟨"taps"⟩
  moduleDir := none
  types := ⟨[
    ("Pipe", ⟨"Pipe", [⟨"T", .builtin "any"⟩], false, .struct [
      ⟨"Tap", .named "example.com/taps" "Tap" [.slice (.param "T")], true, none⟩]⟩),
    ("Tap", ⟨"Tap", [⟨"E", .builtin "any"⟩], false, .interface
      ⟨[⟨"Put", ⟨[.param "E"], false, []⟩⟩],
        [.named "example.com/feed" "Source" [.map (.builtin "string") (.param "E")]], []⟩⟩)]⟩
  funcs := .empty
  values := ⟨[("Main", ⟨"Main", false, none,
    some (.addressOf (.named "example.com/taps" "Pipe" [.builtin "int"])), none⟩)]⟩
  methods := ⟨[("Pipe", [⟨"Pipe", true, ["V"], "Get", ⟨[], false, [.param "V"]⟩⟩])]⟩
  importNames := .empty

theorem tapped_params_stay_bound :
    ∃ p c', (planFrom feedSource (.ofNames "example.com/taps" [] ["Main"]) taps).Yields .empty p
        c' ∧
      (p.records.map fun r => (r.name, typeParamNames r.shape.params, r.shape.types.length)) =
        [("Main", [], 1), ("Pipe", ["T"], 2), ("Tap", ["E"], 5)] ∧
      ∀ r ∈ p.records,
        (∀ t ∈ r.shape.ownTypes, ∀ name, (GoType.param name).Occurs t →
          name ∈ typeParamNames r.shape.params) ∧
        (∀ m ∈ r.shape.methods, ∀ t ∈ m.signature.types, ∀ name, (GoType.param name).Occurs t →
          name ∈ m.receiverParams) ∧
        ∀ type constant basic, r.shape = .value type constant basic →
          ∀ t ∈ type, ∀ name, ¬ (GoType.param name).Occurs t := by
  have hrun : (((planFrom feedSource (.ofNames "example.com/taps" [] ["Main"]) taps).run
      .empty).1.toOption.map fun p => p.records.map fun r =>
        (r.name, typeParamNames r.shape.params, r.shape.types.length)) =
      some [("Main", [], 1), ("Pipe", ["T"], 2), ("Tap", ["E"], 5)] := by decide +kernel
  obtain ⟨p, c', h, hview⟩ := exists_yields hrun
  have hsound : (Universe.ofPackages [feed, taps]).Sound feedSource := by
    constructor
    case loaded =>
      intro path q hq
      unfold feedSource at hq
      split at hq
      next hpath =>
        cases hq
        exact ⟨.head _, hpath.symm⟩
      next => cases hq
    case wellScoped =>
      have hall : ∀ q ∈ [feed, taps], q.scopedWithin [feed, taps] 5 = true := by decide +kernel
      intro path q hq
      exact PackageScope.scoped_of_scopedWithin (hall q hq.1)
  refine ⟨p, c', h, hview, params_stay_bound hsound (fun path q hq => ?_)
    (Or.inr ⟨taps, ⟨.tail _ (.head _), rfl⟩, h⟩)⟩
  simp at hq

end GoStub
