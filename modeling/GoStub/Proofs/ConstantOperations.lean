import GoStub.Package.Initializer
import GoStub.Proofs.Lookup

/-! The types of operations on constants. An operation is read before any name is looked up: its type
is that of the first operand that is more than a literal, and only of literals is the kind of higher
rank taken. -/

namespace GoStub

open Syntax (ExprNode)

/-- Expressions whose kind is told by their form alone. -/
def isPlain : ExprNode → Bool
  | ⟨_, .literal _⟩ => true
  | ⟨_, .truth⟩ => true
  | ⟨_, .iota⟩ => true
  | ⟨_, .name text⟩ => text == "iota" || text == "true" || text == "false"
  | ⟨_, .paren inner⟩ => isPlain inner
  | ⟨_, .unary operator operand⟩ => operator == "!" || isPlain operand
  | ⟨_, .binary operator left right⟩ =>
    isComparison operator || isPlain left && (isShift operator || isPlain right)
  | ⟨_, .call ⟨_, .name function⟩ _ _⟩ => function == "len" || function == "cap"
  | _ => false

namespace Initializer

/-- The kind of an initializer that has one of its own. -/
def kind? : Initializer → Option ConstantKind
  | .basic kind => some kind
  | _ => none

theorem eq_basic_of_kind? {i : Initializer} {k : ConstantKind} (h : i.kind? = some k) :
    i = .basic k := by
  cases i with
  | basic k' =>
    cases h
    rfl
  | _ => cases h

theorem combine_of_kind? {i j : Initializer} {k : ConstantKind} (hi : i.kind? = some k)
    (hj : j.kind? = none) : i.combine j = j := by
  rw [eq_basic_of_kind? hi]
  cases j with
  | basic k' => cases hj
  | _ => rfl

theorem combine_of_kind?_none {i : Initializer} (j : Initializer) (hi : i.kind? = none) :
    i.combine j = i := by
  cases i with
  | basic k => cases hi
  | _ => rfl

theorem isSome_kind?_combine (i j : Initializer) :
    (i.combine j).kind?.isSome = (i.kind?.isSome && j.kind?.isSome) := by
  cases i with
  | basic k => cases j <;> rfl
  | _ => rfl

end Initializer

open Initializer

theorem isSome_kind?_ofLiteral (kind : Syntax.LiteralKind) :
    (ofLiteral kind).kind?.isSome = true := by
  cases kind <;> rfl

theorem isSome_kind?_ofName (text : String) :
    (ofName text).kind?.isSome = (text == "iota" || text == "true" || text == "false") := by
  unfold ofName
  by_cases hiota : text = "iota"
  · simp [hiota, kind?]
  · by_cases htrue : text = "true"
    · simp [htrue, kind?]
    · by_cases hfalse : text = "false" <;> simp [hiota, htrue, hfalse, kind?]

theorem kind?_ofSelector (c : FileScope) (text : String) (operand : ExprNode) (field : String) :
    (ofSelector c text operand field).kind? = none := by
  unfold ofSelector
  split
  · split <;> rfl
  · rfl

theorem kind?_ofAllocation (function : String) (type : GoType) :
    (ofAllocation function type).kind? = none := by
  unfold ofAllocation
  split <;> rfl

theorem isSome_kind?_ofConstantCall_plain (name : String) :
    (ofConstantCall (ofNameCall.plain name)).kind?.isSome = (name == "len" || name == "cap") := by
  unfold ofNameCall.plain
  split
  next hname =>
    -- no predeclared type is called `len` or `cap`
    have hlen : name ≠ "len" := by
      rintro rfl
      exact absurd hname (by decide)
    have hcap : name ≠ "cap" := by
      rintro rfl
      exact absurd hname (by decide)
    simp [ofConstantCall, kind?, hlen, hcap]
  next => by_cases h : (name == "len" || name == "cap") = true <;> simp [ofConstantCall, kind?, h]

theorem isSome_kind?_ofConstantCall (c : FileScope) (s : Syntax.Stretch) (function : ExprNode)
    (typeArgs : List Syntax.TypeNode) (args : List ExprNode) :
    (ofConstantCall (ofCall c s.text function args)).kind?.isSome =
      isPlain ⟨s, .call function typeArgs args⟩ := by
  obtain ⟨t, form⟩ := function
  cases form with
  | name name =>
    have hplain := isSome_kind?_ofConstantCall_plain name
    cases args with
    | nil => exact hplain
    | cons first rest =>
      simp only [ofCall, ofNameCall]
      split
      next h =>
        -- an allocation
        have hname : name ≠ "len" ∧ name ≠ "cap" := by
          rcases Bool.or_eq_true_iff.mp h with h | h <;>
            (rw [of_decide_eq_true h]; decide)
        unfold ofAllocation
        split <;> simp [ofConstantCall, kind?, isPlain, hname]
      next => exact hplain
  | selector operand field =>
    simp only [ofCall, ofSelector, isPlain]
    cases operand.form with
    | name qualifier =>
      dsimp only
      cases c.packageOf? qualifier <;> rfl
    | _ => rfl
  | _ => rfl

/-- A plain expression is read as its kind, and no other is. -/
theorem isSome_kind?_ofConstant (c : FileScope) (e : ExprNode) :
    (ofConstant c e).kind?.isSome = isPlain e := by
  fun_induction ofConstant c e with
  | case1 s kind => exact isSome_kind?_ofLiteral kind
  | case4 s text => exact isSome_kind?_ofName text
  | case5 s inner ih => exact ih
  | case6 s operand => simp [kind?, isPlain]
  | case7 s operator operand hnot ih => simp [isPlain, hnot, ih]
  | case8 s operator left right h => simp [kind?, isPlain, h]
  | case9 s operator left right hc hs ihl => simp [isPlain, hc, hs, ihl]
  | case10 s operator left right hc hs ihl ihr =>
    simp [isPlain, isSome_kind?_combine, hc, hs, ihl, ihr]
  | case11 s operand field =>
    rw [kind?_ofSelector]
    rfl
  | case12 s function typeArgs args => exact isSome_kind?_ofConstantCall c s function typeArgs args
  | case13 s function type args =>
    rw [kind?_ofAllocation]
    rfl
  | case14 s form => cases form <;> simp_all [kind?, isPlain]
  | _ => rfl

/-- What `const name = value` declares. -/
def constantOf (c : FileScope) (name : String) (value : ExprNode) : ValueBinding :=
  ⟨name, true, none, some (ofConstant c value), intLiteral? value⟩

theorem readDecl_constantOf (c : FileScope) (name : String) (value : ExprNode) :
    readDecl c (.consts [⟨[name], none, [value]⟩]) = [.value (constantOf c name value)] :=
  rfl

/-- The type of an operation on two constants, as it should be: the declared type of an operand that
has one, and otherwise the kind of higher rank. -/
def jointType : Option GoType × ConstantKind → Option GoType × ConstantKind →
    Option GoType × ConstantKind
  | (some type, kind), _ => (some type, kind)
  | (none, _), (some type, kind) => (some type, kind)
  | (none, a), (none, b) => (none, if b.rank ≤ a.rank then a else b)

theorem jointType_comm_of_untyped (a b : ConstantKind) :
    jointType (none, a) (none, b) = jointType (none, b) (none, a) := by
  cases a <;> cases b <;> rfl

section Operation

variable {source : Source} {site : Site} {depth : Nat} {package : PackageScope} {c : FileScope}
  {name operator : String} {s : Syntax.Stretch} {left right value : ExprNode}
  {L R : Option GoType × ConstantKind} {cache cache₁ cache₂ : Cache}

/-- The type of a constant depends on its value only as far as that is read. -/
theorem constantType_congr {value' : ExprNode} (h : ofConstant c value = ofConstant c value') :
    constantType source site depth package (constantOf c name value) =
      constantType source site depth package (constantOf c name value') := by
  cases depth with
  | zero => rfl
  | succ depth => simp only [constantType, constantOf, h]

/-- A plain constant is untyped and of its own kind. -/
theorem exists_kind_of_isPlain (hplain : isPlain value = true)
    (h : (constantType source site depth package (constantOf c name value)).Yields cache L cache₁) :
    ∃ kind, ofConstant c value = .basic kind ∧ L = (none, kind) := by
  rw [← isSome_kind?_ofConstant c, Option.isSome_iff_exists] at hplain
  obtain ⟨kind, hkind⟩ := hplain
  have hvalue := eq_basic_of_kind? hkind
  cases depth with
  | zero => exact absurd h Lookup.not_yields_fail
  | succ depth =>
    simp only [constantType, constantOf, hvalue] at h
    exact ⟨kind, hvalue, (Lookup.yields_pure.mp h).1.symm⟩

theorem yields_of_basic {kind : ConstantKind} (hvalue : ofConstant c value = .basic kind) :
    (constantType source site (depth + 1) package (constantOf c name value)).Yields cache
      (none, kind) cache := by
  simp only [constantType, constantOf, hvalue]
  exact Lookup.yields_pure.mpr ⟨rfl, rfl⟩

/-- The type an operation is given: that of the first operand that is not plain, or of two plain
ones the joint type. -/
def firstType (left right : ExprNode) (L R : Option GoType × ConstantKind) :
    Option GoType × ConstantKind :=
  if isPlain left then (if isPlain right then jointType L R else R) else L

theorem yields_operation (hcomparison : isComparison operator = false)
    (hshift : isShift operator = false)
    (hleft : (constantType source site depth package (constantOf c name left)).Yields cache L
      cache₁)
    (hright : (constantType source site depth package (constantOf c name right)).Yields cache R
      cache₂) :
    ∃ cache', (constantType source site depth package
      (constantOf c name ⟨s, .binary operator left right⟩)).Yields cache
        (firstType left right L R) cache' := by
  have hread : ofConstant c ⟨s, .binary operator left right⟩ =
      (ofConstant c left).combine (ofConstant c right) := by
    simp [ofConstant, hcomparison, hshift]
  unfold firstType
  by_cases hl : isPlain left = true
  · obtain ⟨a, ha, rfl⟩ := exists_kind_of_isPlain hl hleft
    rw [if_pos hl]
    by_cases hr : isPlain right = true
    · obtain ⟨b, hb, rfl⟩ := exists_kind_of_isPlain hr hright
      rw [if_pos hr]
      cases depth with
      | zero => exact absurd hleft Lookup.not_yields_fail
      | succ depth => exact ⟨cache, yields_of_basic (by rw [hread, ha, hb, combine])⟩
    · rw [if_neg hr]
      have hkind : (ofConstant c right).kind? = none := by
        rwa [← Option.not_isSome_iff_eq_none, isSome_kind?_ofConstant]
      rw [constantType_congr (hread.trans (combine_of_kind? (by rw [ha]; rfl) hkind))]
      exact ⟨cache₂, hright⟩
  · rw [if_neg hl]
    have hkind : (ofConstant c left).kind? = none := by
      rwa [← Option.not_isSome_iff_eq_none, isSome_kind?_ofConstant]
    rw [constantType_congr (hread.trans (combine_of_kind?_none _ hkind))]
    exact ⟨cache₁, hleft⟩

/-- Both orders give the joint type just if every operand that is not plain has it. -/
theorem firstType_eq_jointType_iff
    (hcomm : isPlain left = true → isPlain right = true → jointType R L = jointType L R) :
    firstType left right L R = jointType L R ∧ firstType right left R L = jointType L R ↔
      (isPlain left = false → L = jointType L R) ∧ (isPlain right = false → R = jointType L R) := by
  unfold firstType
  generalize jointType L R = J at hcomm ⊢
  cases hl : isPlain left <;> cases hr : isPlain right <;> simp_all

theorem firstType_comm_iff
    (hcomm : isPlain left = true → isPlain right = true → jointType R L = jointType L R) :
    firstType left right L R = firstType right left R L ↔
      isPlain left = true ∨ isPlain right = true ∨ L = R := by
  unfold firstType
  generalize jointType L R = J at hcomm ⊢
  cases hl : isPlain left <;> cases hr : isPlain right <;> simp_all

/-- An operation has the type of the first operand that is not plain. So the order of the operands
does not matter just if one of them is plain or both have one type, and both orders give the joint
type just if every operand that is not plain has it already. -/
theorem operation_type_joint_iff (hcomparison : isComparison operator = false)
    (hshift : isShift operator = false)
    (hleft : (constantType source site depth package (constantOf c name left)).Yields cache L
      cache₁)
    (hright : (constantType source site depth package (constantOf c name right)).Yields cache R
      cache₂) :
    (∃ cache', (constantType source site depth package
      (constantOf c name ⟨s, .binary operator left right⟩)).Yields cache
        (firstType left right L R) cache') ∧
    ((∃ T, (∃ cache', (constantType source site depth package
          (constantOf c name ⟨s, .binary operator left right⟩)).Yields cache T cache') ∧
        ∃ cache', (constantType source site depth package
          (constantOf c name ⟨s, .binary operator right left⟩)).Yields cache T cache') ↔
      isPlain left = true ∨ isPlain right = true ∨ L = R) ∧
    ((∃ cache', (constantType source site depth package
          (constantOf c name ⟨s, .binary operator left right⟩)).Yields cache (jointType L R)
            cache') ∧
        (∃ cache', (constantType source site depth package
          (constantOf c name ⟨s, .binary operator right left⟩)).Yields cache (jointType L R)
            cache') ↔
      (isPlain left = false → L = jointType L R) ∧
        (isPlain right = false → R = jointType L R)) := by
  obtain ⟨cache₃, hlr⟩ := yields_operation (s := s) hcomparison hshift hleft hright
  obtain ⟨cache₄, hrl⟩ := yields_operation (s := s) hcomparison hshift hright hleft
  have hcomm (hl : isPlain left = true) (hr : isPlain right = true) :
      jointType R L = jointType L R := by
    obtain ⟨a, -, rfl⟩ := exists_kind_of_isPlain hl hleft
    obtain ⟨b, -, rfl⟩ := exists_kind_of_isPlain hr hright
    exact jointType_comm_of_untyped b a
  refine ⟨⟨cache₃, hlr⟩, ?_, ?_⟩
  · rw [← firstType_comm_iff hcomm]
    constructor
    · rintro ⟨T, ⟨_, h₁⟩, ⟨_, h₂⟩⟩
      exact (hlr.unique h₁).trans (h₂.unique hrl)
    · intro heq
      exact ⟨_, ⟨cache₃, hlr⟩, cache₄, heq ▸ hrl⟩
  · rw [← firstType_eq_jointType_iff hcomm]
    constructor
    · rintro ⟨⟨_, h₁⟩, ⟨_, h₂⟩⟩
      exact ⟨hlr.unique h₁, hrl.unique h₂⟩
    · rintro ⟨hfirst, hsecond⟩
      exact ⟨⟨cache₃, hfirst ▸ hlr⟩, cache₄, hsecond ▸ hrl⟩

end Operation

/-- A package with two constants of declared types and two of none. -/
def clock : PackageScope where
  importPath := "clock"
  name := "clock"
  dir := ⟨"clock"⟩
  moduleDir := none
  types := .ofList [
    ("Duration", ⟨"Duration", [], false, .builtin "int64"⟩),
    ("Flag", ⟨"Flag", [], false, .builtin "bool"⟩)]
  funcs := .empty
  values := .ofList [
    ("Second", ⟨"Second", true, some (.plain "clock" "Duration"), none, none⟩),
    ("On", ⟨"On", true, some (.plain "clock" "Flag"), none, none⟩),
    ("Two", ⟨"Two", true, none, some (.basic .int), some "2"⟩),
    ("Half", ⟨"Half", true, none, some (.basic .float), none⟩)]
  methods := .empty
  importNames := .empty

def clockScope : FileScope :=
  .ofImports "clock" []

/-- The constant `C` with this value. -/
def clockType (value : ExprNode) : Lookup (Option GoType × ConstantKind) :=
  constantType (fun path => .error (.load path .unmapped)) ⟨clock, "C"⟩ stepLimit clock
    (constantOf clockScope "C" value)

/-- `2 * Second` and `Second * 2` are durations. -/
theorem two_seconds_joint :
    (∃ cache', (clockType ⟨default, .binary "*" ⟨default, .literal .int⟩
      ⟨default, .name "Second"⟩⟩).Yields .empty (some (.plain "clock" "Duration"), .int) cache') ∧
    ∃ cache', (clockType ⟨default, .binary "*" ⟨default, .name "Second"⟩
      ⟨default, .literal .int⟩⟩).Yields .empty (some (.plain "clock" "Duration"), .int) cache' := by
  have htwo : (clockType ⟨default, .literal .int⟩).Yields .empty (none, .int) .empty := rfl
  have hsecond : (clockType ⟨default, .name "Second"⟩).Yields .empty
      (some (.plain "clock" "Duration"), .int) .empty := rfl
  have harithmetic : isComparison "*" = false := by decide
  obtain ⟨-, -, hjoint⟩ :=
    operation_type_joint_iff (s := default) harithmetic (by decide) htwo hsecond
  exact hjoint.mpr ⟨fun h => absurd h (by decide), fun _ => rfl⟩

/-- `Two * Half` is an integer, though `Half * Two` is not. -/
theorem two_halves_not_joint :
    ¬ ∀ (source : Source) (site : Site) (package : PackageScope) (c : FileScope)
      (name operator : String) (s : Syntax.Stretch) (left right : ExprNode)
      (L R : Option GoType × ConstantKind) (cache cache₁ cache₂ : Cache),
      isComparison operator = false → isShift operator = false →
      (constantType source site stepLimit package (constantOf c name left)).Yields cache L
        cache₁ →
      (constantType source site stepLimit package (constantOf c name right)).Yields cache R
        cache₂ →
      (∀ t u, L.1 = some t → R.1 = some u → t = u) →
      (∃ cache', (constantType source site stepLimit package
        (constantOf c name ⟨s, .binary operator left right⟩)).Yields cache (jointType L R)
          cache') ∧
      ∃ cache', (constantType source site stepLimit package
        (constantOf c name ⟨s, .binary operator right left⟩)).Yields cache (jointType L R)
          cache' := by
  intro hjoint
  have htwo : (clockType ⟨default, .name "Two"⟩).Yields .empty (none, .int) .empty := rfl
  have hhalf : (clockType ⟨default, .name "Half"⟩).Yields .empty (none, .float) .empty := rfl
  obtain ⟨⟨cache', h⟩, -⟩ := hjoint _ _ _ _ _ "*" default _ _ _ _ _ _ _ (by decide) (by decide)
    htwo hhalf (fun t u ht => by cases ht)
  have hint : (clockType ⟨default, .binary "*" ⟨default, .name "Two"⟩
      ⟨default, .name "Half"⟩⟩).Yields .empty (none, .int) .empty := rfl
  cases hint.unique h

end GoStub
