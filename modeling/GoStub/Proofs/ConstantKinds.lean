import GoStub.Proofs.Ledger
import GoStub.Proofs.Universe
import GoStub.Stub.Text

/-! Constants are well typed. The kind of a typed constant is that of the predeclared type its type
comes down to, through whatever packages declare the types between; an untyped constant is defined
by untyped constants only. The literal that is printed is the zero of that kind. -/

namespace GoStub

open Lookup

variable {u : Universe} {source : Source} {site : Site}

/-- No path leads to two packages. -/
def Universe.Unambiguous (u : Universe) : Prop :=
  ∀ path p q, u.Finds path p → u.Finds path q → p = q

/-- The declarations of named types lead from the type to the predeclared type `b`. -/
inductive GoType.EndsIn (u : Universe) : GoType → String → Prop
  | builtin (b : String) : EndsIn u (.builtin b) b
  | named {path name b : String} {args : List GoType} {p : PackageScope} {decl : TypeDecl}
      (hp : u.Finds path p) (hd : p.types.get? name = some decl) (h : EndsIn u decl.type b) :
      EndsIn u (.named path name args) b

namespace GoType.EndsIn

variable {t : GoType} {a b : String}

/-- Where no path leads to two packages, a type comes down to one predeclared type only. -/
theorem unique (hone : u.Unambiguous) (ha : t.EndsIn u a) (hb : t.EndsIn u b) : a = b := by
  induction ha with
  | builtin a =>
    cases hb
    rfl
  | named hp hd _ ih =>
    cases hb with
    | named hp' hd' h' =>
      obtain rfl := hone _ _ _ hp hp'
      obtain rfl := Option.some.inj (hd.symm.trans hd')
      exact ih h'

theorem mapLengths (f : ArrayLength → ArrayLength) (h : t.EndsIn u b) :
    (t.mapLengths f).EndsIn u b := by
  cases h with
  | builtin b => exact .builtin b
  | named hp hd h => exact .named hp hd h

end GoType.EndsIn

/-- A constant declared without a type and defined by a chain of such constants, the last of which
has an untyped value of this kind. -/
inductive ValueBinding.UntypedAs (u : Universe) :
    PackageScope → ValueBinding → ConstantKind → Prop
  | basic {package : PackageScope} {decl : ValueBinding} {kind : ConstantKind}
      (hc : decl.constant = true) (ht : decl.type = none) (hi : decl.init = some (.basic kind)) :
      UntypedAs u package decl kind
  | own {package : PackageScope} {decl next : ValueBinding} {name : String} {kind : ConstantKind}
      (hc : decl.constant = true) (ht : decl.type = none) (hi : decl.init = some (.own name))
      (hn : package.values.get? name = some next) (h : UntypedAs u package next kind) :
      UntypedAs u package decl kind
  | foreign {package owner : PackageScope} {decl next : ValueBinding} {path name : String}
      {kind : ConstantKind} (hc : decl.constant = true) (ht : decl.type = none)
      (hi : decl.init = some (.foreign path name)) (hp : u.Finds path owner)
      (hn : owner.values.get? name = some next) (h : UntypedAs u owner next kind) :
      UntypedAs u package decl kind

/-- The kind is that of the type, or with no type that of the value the constant is defined by. -/
structure ValueBinding.HasKind (u : Universe) (package : PackageScope) (decl : ValueBinding)
    (type : Option GoType) (kind : ConstantKind) : Prop where
  typed : ∀ t, type = some t → ∃ b, t.EndsIn u b ∧ ConstantKind.ofType? b = some kind
  untyped : type = none → decl.UntypedAs u package kind

theorem endsIn_of_constantKind (hu : u.Covers source)
    (ht : u.Finds site.target.importPath site.target) (depth : Nat) (type : GoType) :
    Ensures u (constantKind source site depth type)
      fun kind => ∃ b, type.EndsIn u b ∧ ConstantKind.ofType? b = some kind := by
  induction depth generalizing type with
  | zero => exact ensures_fail _
  | succ depth ih =>
    unfold constantKind
    split
    next name =>
      split
      next kind hkind => exact ensures_pure ⟨name, .builtin name, hkind⟩
      next => exact ensures_fail _
    next path name args =>
      refine (hu.ensures_packageAt ht path).bind fun owner howner => ?_
      split
      next => exact ensures_fail _
      next decl hdecl =>
        refine (ih decl.type).mono fun kind hkind => ?_
        obtain ⟨b, hb, hkind⟩ := hkind
        exact ⟨b, .named howner hdecl hb, hkind⟩
    next => exact ensures_fail _

section

variable {package : PackageScope} {decl next : ValueBinding} {t : GoType} {kind : ConstantKind}

theorem ValueBinding.hasKind_of_type (h : ∃ b, t.EndsIn u b ∧ ConstantKind.ofType? b = some kind) :
    decl.HasKind u package (some t) kind where
  typed t' heq := by
    obtain rfl := Option.some.inj heq
    exact h
  untyped heq := by cases heq

/-- A constant without a type has the type and kind of the constant it is defined by. -/
theorem ValueBinding.HasKind.of_next {owner : PackageScope} {type : Option GoType}
    (h : next.HasKind u owner type kind)
    (hchain : next.UntypedAs u owner kind → decl.UntypedAs u package kind) :
    decl.HasKind u package type kind where
  typed := h.typed
  untyped heq := hchain (h.untyped heq)

end

theorem hasKind_of_constantType (hu : u.Covers source)
    (ht : u.Finds site.target.importPath site.target) (depth : Nat) {package : PackageScope}
    {decl : ValueBinding} (hconst : decl.constant = true) :
    Ensures u (constantType source site depth package decl)
      fun result => decl.HasKind u package result.1 result.2 := by
  induction depth generalizing package decl with
  | zero => exact ensures_fail _
  | succ depth ih =>
    unfold constantType
    split
    next type htype =>
      exact (endsIn_of_constantKind hu ht stepLimit type).bind fun kind hkind =>
        ensures_pure (ValueBinding.hasKind_of_type hkind)
    next kind hnone hinit =>
      refine ensures_pure ⟨fun t heq => ?_, fun _ => .basic hconst hnone hinit⟩
      cases heq
    next name hnone hinit =>
      split
      next => exact ensures_fail _
      next next hnext =>
        obtain ⟨hget, hc⟩ := Option.filter_eq_some_iff.mp hnext
        exact (ih hc).mono fun result hkind => hkind.of_next (.own hconst hnone hinit hget)
    next path name hnone hinit =>
      refine (hu.ensures_packageAt ht path).bind fun owner howner => ?_
      split
      next => exact ensures_fail _
      next next hnext =>
        obtain ⟨hget, hc⟩ := Option.filter_eq_some_iff.mp hnext
        exact (ih hc).mono fun result hkind =>
          hkind.of_next (.foreign hconst hnone hinit howner hget)
    next callee index hnone hinit =>
      refine Ensures.bind (Q := fun _ => True) (hu.compositional.holds_conversionTarget _ _)
        fun target _ => ?_
      split
      next => exact ensures_fail _
      next type =>
        exact (endsIn_of_constantKind hu ht stepLimit type).bind fun kind hkind =>
          ensures_pure (ValueBinding.hasKind_of_type hkind)
    next => exact ensures_fail _

/-- A draft of a constant has the kind its declaration gives it; settling its type changes nothing
of that. -/
theorem Site.Drafted.hasKind (hu : u.Covers source)
    (ht : u.Finds site.target.importPath site.target) {withMethods : Bool} {c : Cache} {d : Draft}
    (hc : u.Holds c) (h : site.Drafted source withMethods c d) {type : Option GoType}
    {basic : Option ConstantKind} (hshape : d.shape = .value type true basic) :
    ∃ decl kind, site.target.values.get? site.symbol = some decl ∧ basic = some kind ∧
      decl.HasKind u site.target type kind := by
  cases h with
  | ofAlias | ofInterface | ofStruct | ofOther | ofFunction | ofVariable => cases hshape
  | @ofUntyped decl kind c' hn hf hd hconst hk =>
    cases hshape
    exact ⟨decl, kind, hd, rfl, (hasKind_of_constantType hu ht stepLimit hconst hc hk).2⟩
  | @ofConstant decl kind type settled c' hn hf hd hconst hk hs =>
    cases hshape
    obtain ⟨b, hb, hkind⟩ := (hasKind_of_constantType hu ht stepLimit hconst hc hk).2.typed type rfl
    rw [GoType.eq_mapLengths_of_settle hs]
    exact ⟨decl, kind, hd, rfl, ValueBinding.hasKind_of_type ⟨b, hb.mapLengths _, hkind⟩⟩

/-- Constants are well typed. Every constant record has a kind. If it has a type, declarations lead
from it to a predeclared type of that kind; if not, its definition ends in an untyped value of that
kind with no typed constant on the way. It is printed with the zero of the kind. -/
theorem constants_well_typed {request : Request} {target : PackageScope} {p : StubPlan}
    {c c' : Cache} (h : (planFrom source request target).Yields c p c') :
    ∀ r ∈ p.records, ∀ type basic, r.shape = .value type true basic →
      ∃ kind, basic = some kind ∧
        (∀ t, type = some t →
          (∃ b, t.EndsIn (.around source c target) b ∧ ConstantKind.ofType? b = some kind ∧
            ((Universe.around source c target).Unambiguous →
              ∀ a, t.EndsIn (.around source c target) a → a = b)) ∧
          ∀ scope, shapeText scope r.name r.shape = (t.text scope).map fun (text : Fragment) =>
            ("const " ++ r.name ++ " ") ++ text ++ (" = " ++ kind.zero ++ "\n")) ∧
        (type = none →
          (∃ decl, target.values.get? r.name = some decl ∧
            decl.UntypedAs (.around source c target) target kind) ∧
          ∀ scope, shapeText scope r.name r.shape =
            .ok (.ofText ("const " ++ r.name ++ " = " ++ kind.zero ++ "\n"))) := by
  have hu := Universe.covers_around source c target
  have ht := Universe.finds_target source c target
  obtain ⟨first, done, w, hledger, -, -, -, rfl⟩ := Subject.planFrom_ledger
    (P := (Universe.around source c target).Holds) rfl (Universe.holds_around source c target)
    (fun hc hd => (Site.holds_draft hu.compositional hc hd).1) h
  intro r hr type basic hvalue
  obtain ⟨withMethods, c₁, d, c₂, hc₁, hd, hrecord⟩ := hledger.made hr
  have hshape : r.shape = d.shape := congrArg Record.shape hrecord
  obtain ⟨decl, kind, hdecl, rfl, hkind⟩ :=
    (Site.drafted_of_draft hd).hasKind hu ht hc₁ (hshape.symm.trans hvalue)
  rw [hvalue]
  refine ⟨kind, rfl, fun t htype => ⟨?_, fun scope => ?_⟩, fun htype => ⟨?_, fun scope => ?_⟩⟩
  · obtain ⟨b, hb, hof⟩ := hkind.typed t htype
    exact ⟨b, hb, hof, fun hone a ha => ha.unique hone hb⟩
  · rw [htype]
    rfl
  · exact ⟨decl, hdecl, hkind.untyped htype⟩
  · rw [htype]
    rfl

/-- A package with a count, and a zone named by way of a second constant. -/
def units : PackageScope where
  importPath := "example.com/units"
  name := "units"
  dir := ⟨"units"⟩
  moduleDir := none
  types := ⟨[("Count", ⟨"Count", [], false, .builtin "int64"⟩)]⟩
  funcs := .empty
  values := ⟨[
    ("Base", ⟨"Base", true, none, some (.basic .string), none⟩),
    ("Zone", ⟨"Zone", true, none, some (.own "Base"), none⟩)]⟩
  methods := .empty
  importNames := .empty

/-- A package with a type defined by a foreign one, constants of that type, declared and converted,
and an untyped constant defined by a foreign one. -/
def gauge : PackageScope where
  importPath := "example.com/gauge"
  name := "gauge"
  dir := ⟨"gauge"⟩
  moduleDir := none
  types := ⟨[("Level", ⟨"Level", [], false, .plain "example.com/units" "Count"⟩)]⟩
  funcs := .empty
  values := ⟨[
    ("Full", ⟨"Full", true, some (.plain "example.com/gauge" "Level"), some (.basic .int), none⟩),
    ("Step", ⟨"Step", true, none, some (.call (.own "Level") 0), none⟩),
    ("Zone", ⟨"Zone", true, none, some (.foreign "example.com/units" "Zone"), none⟩)]⟩
  methods := .empty
  importNames := ⟨[("example.com/units", "units")]⟩

def unitsSource : Source := fun path =>
  if path = units.importPath then .ok units else .error (.load path .unmapped)

/-- Only the two packages can come up, each under its own path. -/
theorem unambiguous_units_gauge : (Universe.around unitsSource .empty gauge).Unambiguous := by
  intro path p q hp hq
  obtain ⟨hpath, hp⟩ := Universe.finds_around_single gauge hp
  obtain ⟨hpath', hq⟩ := Universe.finds_around_single gauge hq
  have hsame : p.importPath = q.importPath := hpath.symm.trans hpath'
  rcases hp with rfl | rfl <;> rcases hq with rfl | rfl
  · rfl
  · simp [units, gauge] at hsame
  · simp [units, gauge] at hsame
  · rfl

theorem gauge_constants_well_typed :
    ∃ p c', (planFrom unitsSource (.ofNames "example.com/gauge" [] ["Full", "Step", "Zone"])
        gauge).Yields .empty p c' ∧
      (p.records.map fun r => (shapeText (.ofPlan p) r.name r.shape).toOption.map (·.text)) =
        [some "const Full Level = 0\n", some "const Step Level = 0\n",
          some "const Zone = \"\"\n", some "type Level units.Count\n"] ∧
      ∀ r ∈ p.records, ∀ type basic, r.shape = .value type true basic → ∃ kind, basic = some kind ∧
        (∀ t, type = some t → ∃! b, t.EndsIn (.around unitsSource .empty gauge) b ∧
          ConstantKind.ofType? b = some kind) ∧
        (type = none → ∃ decl, gauge.values.get? r.name = some decl ∧
          decl.UntypedAs (.around unitsSource .empty gauge) gauge kind) := by
  have hrun : (((planFrom unitsSource (.ofNames "example.com/gauge" [] ["Full", "Step", "Zone"])
      gauge).run .empty).1.toOption.map fun p => p.records.map fun r =>
        (shapeText (.ofPlan p) r.name r.shape).toOption.map (·.text)) =
      some [some "const Full Level = 0\n", some "const Step Level = 0\n",
        some "const Zone = \"\"\n", some "type Level units.Count\n"] := by decide +kernel
  obtain ⟨p, c', h, hview⟩ := exists_yields hrun
  refine ⟨p, c', h, hview, fun r hr type basic hvalue => ?_⟩
  obtain ⟨kind, hkind, htyped, huntyped⟩ := constants_well_typed h r hr type basic hvalue
  refine ⟨kind, hkind, fun t ht => ?_, fun hnone => (huntyped hnone).1⟩
  obtain ⟨b, hb, hof, hunique⟩ := (htyped t ht).1
  exact ⟨b, ⟨hb, hof⟩, fun a ha => hunique unambiguous_units_gauge a ha.1⟩

end GoStub
