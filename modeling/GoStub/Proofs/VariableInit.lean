import GoStub.Proofs.ConstantOperations

/-! The types of variables against those of constants with the same initializer. The initializer of a
variable is read by its leading operand alone, so the two agree just if that operand has the type of
the whole expression. -/

namespace GoStub

open Syntax (ExprNode)

open Initializer

/-- Expressions of the forms that constants are made of: literals, names, values and conversions of
this or another package, calls of `len`, and operations on such expressions. -/
inductive ConstantLike : ExprNode → Prop
  | literal (s : Syntax.Stretch) (kind : Syntax.LiteralKind) : ConstantLike ⟨s, .literal kind⟩
  | truth (s : Syntax.Stretch) : ConstantLike ⟨s, .truth⟩
  | iota (s : Syntax.Stretch) : ConstantLike ⟨s, .iota⟩
  | name (s : Syntax.Stretch) (text : String) : ConstantLike ⟨s, .name text⟩
  | selector (s : Syntax.Stretch) (operand : ExprNode) (field : String) :
      ConstantLike ⟨s, .selector operand field⟩
  | call (s : Syntax.Stretch) (function : ExprNode) (typeArgs : List Syntax.TypeNode)
      (args : List ExprNode) : ConstantLike ⟨s, .call function typeArgs args⟩
  | paren (s : Syntax.Stretch) {inner : ExprNode} (h : ConstantLike inner) :
      ConstantLike ⟨s, .paren inner⟩
  | unary (s : Syntax.Stretch) {operator : String} {operand : ExprNode} (haddress : operator ≠ "&")
      (hreceive : operator ≠ "<-") (h : ConstantLike operand) :
      ConstantLike ⟨s, .unary operator operand⟩
  | binary (s : Syntax.Stretch) (operator : String) {left right : ExprNode}
      (hleft : ConstantLike left) (hright : ConstantLike right) :
      ConstantLike ⟨s, .binary operator left right⟩

/-- The first operand below parentheses and operators; a comparison counts as a whole. -/
def leading : ExprNode → ExprNode
  | ⟨_, .paren inner⟩ => leading inner
  | ⟨_, .unary _ operand⟩ => leading operand
  | ⟨s, .binary operator left right⟩ =>
    if isComparison operator then ⟨s, .binary operator left right⟩ else leading left
  | e => e

/-- Whether the leading operand stands below a negation. -/
def negates : ExprNode → Bool
  | ⟨_, .paren inner⟩ => negates inner
  | ⟨_, .unary operator operand⟩ => operator == "!" || negates operand
  | ⟨_, .binary operator left _⟩ => !isComparison operator && negates left
  | _ => false

/-- Whether a variable and a constant look alike at the initializer: neither calls `len` or `cap`,
nor a function known to return an error. -/
def Initializer.isDirect : Initializer → Bool
  | .call (.own name) _ => !(name == "len" || name == "cap")
  | .call callee _ => !returnsError callee
  | _ => true

variable {c : FileScope} {e : ExprNode}

theorem ofConstantCall_of_isDirect {i : Initializer} (h : i.isDirect = true) :
    ofConstantCall i = i := by
  cases i with
  | call callee index =>
    cases callee with
    | own name =>
      have hname : (name == "len" || name == "cap") = false := Bool.not_eq_true' _ ▸ h
      simp [ofConstantCall, hname]
    | _ => rfl
  | _ => rfl

/-- A variable is read by the leading operand. -/
theorem ofVariable_leading (he : ConstantLike e) :
    ofVariable c e = ofVariable c (leading e) := by
  induction he with
  | paren s h ih => exact ih
  | unary s haddress hreceive h ih => rw [ofVariable, if_neg haddress, if_neg hreceive, ih, leading]
  | binary s operator hleft hright ihl ihr =>
    rw [leading]
    split
    next => rfl
    next h => rw [ofVariable, if_neg h, ihl]
  | _ => rfl

/-- A leading operand that is read directly is read alike in a constant. -/
theorem ofConstant_leading_of_isDirect (he : ConstantLike e)
    (h : (ofVariable c (leading e)).isDirect = true) :
    ofConstant c (leading e) = ofVariable c (leading e) := by
  induction he with
  | call s function typeArgs args => exact ofConstantCall_of_isDirect h
  | paren s _ ih => exact ih h
  | unary s _ _ _ ih => exact ih h
  | binary s operator hleft hright ihl ihr =>
    rw [leading] at h ⊢
    split at h
    next hcomparison =>
      rw [if_pos hcomparison]
      simp [ofConstant, ofVariable, hcomparison]
    next hcomparison =>
      rw [if_neg hcomparison]
      exact ihl h
  | _ => rfl

/-- A constant is read by the leading operand if that is not plain and not negated. -/
theorem ofConstant_leading_of_not_isPlain (he : ConstantLike e) (hnegates : negates e = false)
    (hplain : isPlain (leading e) = false) : ofConstant c e = ofConstant c (leading e) := by
  induction he with
  | paren s h ih => exact ih hnegates hplain
  | @unary s operator operand haddress hreceive h ih =>
    rw [negates, Bool.or_eq_false_iff] at hnegates
    obtain ⟨hnot, hnegates⟩ := hnegates
    rw [ofConstant, if_neg (by simpa using hnot), leading]
    exact ih hnegates hplain
  | @binary s operator left right hleft hright ihl ihr =>
    cases hcomparison : isComparison operator with
    | true => simp [leading, hcomparison]
    | false =>
      simp only [leading, negates, hcomparison, Bool.false_eq_true, if_false, Bool.not_false,
        Bool.true_and] at hplain hnegates ⊢
      -- what is not plain on the left decides, whatever stands on the right
      have hread := ihl hnegates hplain
      have hkind : (ofConstant c left).kind? = none := by
        rw [← Option.not_isSome_iff_eq_none, hread, isSome_kind?_ofConstant, hplain]
        decide
      rw [← hread]
      simp only [ofConstant, hcomparison, Bool.false_eq_true, if_false]
      split
      · rfl
      · exact combine_of_kind?_none _ hkind
  | _ => rfl

/-- What `var name = value` declares. -/
def variableOf (c : FileScope) (name : String) (value : ExprNode) : ValueBinding :=
  ⟨name, false, none, some (ofVariable c value), none⟩

theorem readDecl_variableOf (c : FileScope) (name : String) (value : ExprNode) :
    readDecl c (.vars [⟨[name], none, [value]⟩]) = [.value (variableOf c name value)] :=
  rfl

section Types

variable {source : Source} {site : Site} {depth : Nat} {package : PackageScope}
  {name : String} {cache cache₁ : Cache} {r : Option GoType × ConstantKind}

/-- A call that is a constant is a conversion, and a variable takes the type it converts to. -/
theorem yields_resultType {callee : CallTarget} {index : Nat} {type : GoType}
    (hdirect : returnsError callee = false)
    (h : (conversionTarget source site package callee).Yields cache (some type) cache₁) :
    (resultType source site package name callee index).Yields cache type cache₁ := by
  unfold resultType
  rw [if_neg (Bool.not_eq_true _ ▸ hdirect)]
  exact Lookup.yields_bind.mpr ⟨_, _, h, Lookup.yields_pure.mpr ⟨rfl, rfl⟩⟩

/-- Where a constant and a variable have one initializer, they have one type. -/
theorem variableType_of_constantType {i : Initializer} {decl decl' : ValueBinding}
    (hdirect : i.isDirect = true) (hdecl : decl.type = none ∧ decl.init = some i)
    (hdecl' : decl'.type = none ∧ decl'.init = some i)
    (h : (constantType source site depth package decl).Yields cache r cache₁) :
    ∃ cache₂, (variableType source site depth package decl').Yields cache (variableTypeOf r)
      cache₂ := by
  cases depth with
  | zero => exact absurd h Lookup.not_yields_fail
  | succ depth =>
    simp only [constantType, hdecl.1, hdecl.2] at h
    simp only [variableType, hdecl'.1, hdecl'.2]
    cases i with
    | basic kind =>
      obtain ⟨rfl, rfl⟩ := Lookup.yields_pure.mp h
      exact ⟨cache, Lookup.yields_pure.mpr ⟨rfl, rfl⟩⟩
    | own text =>
      cases hnext : (package.values.get? text).filter (·.constant) with
      | none =>
        simp only [hnext] at h
        exact absurd h Lookup.not_yields_fail
      | some next =>
        -- the variable follows the same constant, with one step less left
        obtain ⟨hget, hconst⟩ := Option.filter_eq_some_iff.mp hnext
        simp only [hnext] at h
        simp only [hget, hconst, if_true]
        exact ⟨cache₁, h.map variableTypeOf⟩
    | foreign path text =>
      obtain ⟨owner, cache₂, howner, h⟩ := Lookup.yields_bind.mp h
      cases hnext : (owner.values.get? text).filter (·.constant) with
      | none =>
        simp only [hnext] at h
        exact absurd h Lookup.not_yields_fail
      | some next =>
        obtain ⟨hget, hconst⟩ := Option.filter_eq_some_iff.mp hnext
        simp only [hnext] at h
        refine ⟨cache₁, Lookup.yields_bind.mpr ⟨owner, cache₂, howner, ?_⟩⟩
        simp only [hget, hconst, if_true]
        exact h.map variableTypeOf
    | call callee index =>
      obtain ⟨target, cache₂, htarget, h⟩ := Lookup.yields_bind.mp h
      cases target with
      | none => exact absurd h Lookup.not_yields_fail
      | some type =>
        obtain ⟨kind, cache₃, -, h⟩ := Lookup.yields_bind.mp h
        obtain ⟨rfl, -⟩ := Lookup.yields_pure.mp h
        refine ⟨cache₂, yields_resultType ?_ htarget⟩
        cases callee with
        | foreign path text => simpa [isDirect] using hdirect
        | _ => rfl
    | _ => exact absurd h Lookup.not_yields_fail

/-- A call of a name that is neither a type nor a function of the package gives a variable no type. -/
theorem not_yields_variableType_of_unknown {callee : String} {index : Nat} {decl : ValueBinding}
    {type : GoType} (hdecl : decl.type = none ∧ decl.init = some (.call (.own callee) index))
    (htypes : package.types.contains callee = false) (hfuncs : package.funcs.get? callee = none) :
    ¬ (variableType source site depth package decl).Yields cache type cache₁ := by
  cases depth with
  | zero => exact Lookup.not_yields_fail
  | succ depth =>
    simp only [variableType, hdecl.1, hdecl.2, resultType, conversionTarget, calledFunction,
      returnsError, htypes, hfuncs, Bool.false_eq_true, if_false, pure_bind]
    exact Lookup.not_yields_fail

/-- The leading operand of a constant is a constant itself unless it is negated, and then of the same
type if it is not plain. -/
theorem exists_yields_leading (he : ConstantLike e) (hnegates : negates e = false)
    (h : (constantType source site depth package (constantOf c name e)).Yields cache r cache₁) :
    ∃ r' cache₂, (constantType source site depth package
      (constantOf c name (leading e))).Yields cache r' cache₂ ∧
        (isPlain (leading e) = false → r' = r) := by
  cases hplain : isPlain (leading e) with
  | false =>
    rw [constantType_congr (ofConstant_leading_of_not_isPlain he hnegates hplain)] at h
    exact ⟨r, cache₁, h, fun _ => rfl⟩
  | true =>
    have hkind := isSome_kind?_ofConstant c (leading e)
    rw [hplain, Option.isSome_iff_exists] at hkind
    obtain ⟨kind, hkind⟩ := hkind
    cases depth with
    | zero => exact absurd h Lookup.not_yields_fail
    | succ depth =>
      exact ⟨_, _, yields_of_basic (eq_basic_of_kind? hkind), fun hnot => by cases hnot⟩

/-- A variable takes the type of the leading operand, so it agrees with the constant just if that
operand does. The leading operand is a constant itself unless it is negated, and has the type of the
whole if it is neither negated nor plain. A variable that is the length of something has no type. -/
theorem variable_agrees_iff_leading (other : String) (he : ConstantLike e)
    (hconstant : (constantType source site depth package (constantOf c name e)).Yields cache r
      cache₁) :
    ((ofVariable c (leading e)).isDirect = true →
      (negates e = false → ∃ r' cache₂, (constantType source site depth package
        (constantOf c name (leading e))).Yields cache r' cache₂ ∧
          (isPlain (leading e) = false → r' = r)) ∧
      ∀ r' cache₂, (constantType source site depth package
          (constantOf c name (leading e))).Yields cache r' cache₂ →
        (∃ cache₃, (variableType source site depth package (variableOf c other e)).Yields cache
          (variableTypeOf r') cache₃) ∧
        ((∃ cache₃, (variableType source site depth package (variableOf c other e)).Yields cache
          (variableTypeOf r) cache₃) ↔ variableTypeOf r' = variableTypeOf r)) ∧
    (∀ callee index, ofVariable c (leading e) = .call (.own callee) index →
      package.types.contains callee = false → package.funcs.get? callee = none →
      ∀ type cache₂, ¬ (variableType source site depth package (variableOf c other e)).Yields cache
        type cache₂) := by
  have hread : (variableOf c other e).init = some (ofVariable c (leading e)) :=
    congrArg some (ofVariable_leading he)
  constructor
  · intro hdirect
    refine ⟨fun hnegates => exists_yields_leading he hnegates hconstant, ?_⟩
    intro r' cache₂ hleading
    have hinit : (constantOf c name (leading e)).init = some (ofVariable c (leading e)) :=
      congrArg some (ofConstant_leading_of_isDirect he hdirect)
    obtain ⟨cache₃, htype⟩ :=
      variableType_of_constantType hdirect ⟨rfl, hinit⟩ ⟨rfl, hread⟩ hleading
    refine ⟨⟨cache₃, htype⟩, ?_, ?_⟩
    · rintro ⟨cache₄, h⟩
      exact htype.unique h
    · intro heq
      exact ⟨cache₃, heq ▸ htype⟩
  · intro callee index hcall htypes hfuncs type cache₂
    exact not_yields_variableType_of_unknown ⟨rfl, hread.trans (congrArg some hcall)⟩ htypes hfuncs

end Types

/-- The variable `V` with this value, in the package of the clock. -/
def clockVariable (value : ExprNode) : Lookup GoType :=
  variableType (fun path => .error (.load path .unmapped)) ⟨clock, "C"⟩ stepLimit clock
    (variableOf clockScope "V" value)

/-- `-(Second * 2)` is a duration, of a variable as of a constant. -/
theorem seconds_variable_agrees :
    ∃ cache', (clockVariable ⟨default, .unary "-" ⟨default, .paren ⟨default, .binary "*"
      ⟨default, .name "Second"⟩ ⟨default, .literal .int⟩⟩⟩⟩).Yields .empty
        (.plain "clock" "Duration") cache' := by
  have hforms : ConstantLike ⟨default, .unary "-" ⟨default, .paren ⟨default, .binary "*"
      ⟨default, .name "Second"⟩ ⟨default, .literal .int⟩⟩⟩⟩ :=
    .unary _ (by decide) (by decide) (.paren _ (.binary _ _ (.name _ _) (.literal _ _)))
  have hconstant : (clockType ⟨default, .unary "-" ⟨default, .paren ⟨default, .binary "*"
      ⟨default, .name "Second"⟩ ⟨default, .literal .int⟩⟩⟩⟩).Yields .empty
        (some (.plain "clock" "Duration"), .int) .empty := rfl
  obtain ⟨hdirect, -⟩ := variable_agrees_iff_leading "V" hforms hconstant
  obtain ⟨hleading, hvariable⟩ := hdirect rfl
  obtain ⟨r', cache₂, hr', hsame⟩ := hleading rfl
  exact (hvariable r' cache₂ hr').2.mpr (congrArg variableTypeOf (hsame rfl))

/-- `2 * Second` is a duration of a constant and an integer of a variable, `!On` is a truth value of
a constant and a flag of a variable, and the length of a string is an integer of a constant only. -/
theorem doubled_second_disagrees :
    ((clockType ⟨default, .binary "*" ⟨default, .literal .int⟩
        ⟨default, .name "Second"⟩⟩).Yields .empty (some (.plain "clock" "Duration"), .int) .empty ∧
      (clockVariable ⟨default, .binary "*" ⟨default, .literal .int⟩
        ⟨default, .name "Second"⟩⟩).Yields .empty (.builtin "int") .empty) ∧
    ((clockType ⟨default, .unary "!" ⟨default, .name "On"⟩⟩).Yields .empty (none, .bool) .empty ∧
      (clockVariable ⟨default, .unary "!" ⟨default, .name "On"⟩⟩).Yields .empty
        (.plain "clock" "Flag") .empty) ∧
    ((clockType ⟨default, .call ⟨default, .name "len"⟩ []
        [⟨default, .literal .string⟩]⟩).Yields .empty (none, .int) .empty ∧
      ∀ type cache', ¬ (clockVariable ⟨default, .call ⟨default, .name "len"⟩ []
        [⟨default, .literal .string⟩]⟩).Yields .empty type cache') ∧
    ¬ ∀ (source : Source) (site : Site) (package : PackageScope) (c : FileScope)
      (name other : String) (e : ExprNode) (r : Option GoType × ConstantKind)
      (cache cache₁ : Cache), ConstantLike e →
      (constantType source site stepLimit package (constantOf c name e)).Yields cache r cache₁ →
      ∃ cache', (variableType source site stepLimit package (variableOf c other e)).Yields cache
        (variableTypeOf r) cache' := by
  have hconstant : (clockType ⟨default, .binary "*" ⟨default, .literal .int⟩
      ⟨default, .name "Second"⟩⟩).Yields .empty (some (.plain "clock" "Duration"), .int) .empty :=
    rfl
  have hvariable : (clockVariable ⟨default, .binary "*" ⟨default, .literal .int⟩
      ⟨default, .name "Second"⟩⟩).Yields .empty (.builtin "int") .empty := rfl
  refine ⟨⟨hconstant, hvariable⟩, ⟨rfl, rfl⟩, ⟨rfl, ?_⟩, ?_⟩
  · intro type cache'
    exact not_yields_variableType_of_unknown ⟨rfl, rfl⟩ rfl rfl
  · intro hagrees
    obtain ⟨cache', h⟩ := hagrees _ _ _ _ _ "V" _ _ _ _
      (.binary _ _ (.literal _ _) (.name _ _)) hconstant
    cases hvariable.unique h

end GoStub
