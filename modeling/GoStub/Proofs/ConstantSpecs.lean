import GoStub.Package.Scope
import GoStub.Proofs.Dict

/-! Which value each constant of a declaration is read from. A specification without type and values
repeats the last one that has either. The values are counted along the names with the commas between
them, so the name at place `i` gets the value at place `2 * i`, and every comma counts as a constant
too. -/

namespace GoStub

open Syntax (ValueSpec)

namespace Syntax.ValueSpec

/-- The specification has a type or values of its own. -/
def isGiven (s : ValueSpec) : Bool :=
  s.type.isSome || !s.values.isEmpty

/-- The nearest specification from the end that has a type or values. -/
def lastGiven? (specs : List ValueSpec) : Option ValueSpec :=
  (specs.filter isGiven).getLast?

theorem lastGiven?_concat (specs : List ValueSpec) (s : ValueSpec) :
    lastGiven? (specs ++ [s]) = if s.isGiven then some s else lastGiven? specs := by
  unfold lastGiven?
  by_cases h : s.isGiven = true <;> simp [h]

end Syntax.ValueSpec

open Syntax.ValueSpec (lastGiven?)

/-- The type that the constants after these specifications repeat. -/
def repeatedType (c : FileScope) (specs : List ValueSpec) : Option GoType :=
  (lastGiven? specs).bind fun s => s.type.map (readType c [])

/-- The initializers that the constants after these specifications repeat. -/
def repeatedInits (c : FileScope) (specs : List ValueSpec) : List Initializer :=
  ((lastGiven? specs).map (·.values)).getD [] |>.map (Initializer.ofConstant c)

/-- A constant with the value at place `j` of its specification, or of the one that is repeated. Only
a value of its own counts as an integer literal. -/
def constantAt (c : FileScope) (before : List ValueSpec) (spec : ValueSpec) (j : Nat)
    (name : String) : ValueBinding where
  name := name
  constant := true
  type := repeatedType c (before ++ [spec])
  init := (repeatedInits c (before ++ [spec]))[j]?
  intLiteral := if spec.isGiven then spec.values[j]?.bind intLiteral? else none

/-- The constants of a specification, those of the commas included. -/
def constantsOf (c : FileScope) (before : List ValueSpec) (spec : ValueSpec) : List ValueBinding :=
  (spec.names.intersperse ",").mapIdx (constantAt c before spec)

variable {c : FileScope} {before after specs : List ValueSpec} {spec : ValueSpec}

/-- What a specification leaves to be repeated: what it has itself, or else what was repeated
before it. -/
theorem repeated_concat (c : FileScope) (before : List ValueSpec) (spec : ValueSpec) :
    (repeatedType c (before ++ [spec]), repeatedInits c (before ++ [spec])) =
      if spec.isGiven then
        (spec.type.map (readType c []), spec.values.map (Initializer.ofConstant c))
      else (repeatedType c before, repeatedInits c before) := by
  unfold repeatedType repeatedInits
  rw [Syntax.ValueSpec.lastGiven?_concat]
  by_cases h : spec.isGiven = true <;> simp [h]

/-- One specification: its constants, and then the others with what it leaves to be repeated. -/
theorem readConsts_cons (c : FileScope) (before : List ValueSpec) (spec : ValueSpec)
    (rest : List ValueSpec) :
    readConsts c (repeatedType c before) (repeatedInits c before) (spec :: rest) =
      constantsOf c before spec ++ readConsts c (repeatedType c (before ++ [spec]))
        (repeatedInits c (before ++ [spec])) rest := by
  have hrepeated := repeated_concat c before spec
  rw [readConsts]
  split
  next htype hvalues =>
    have hgiven : spec.isGiven = false := by
      simp [Syntax.ValueSpec.isGiven, htype, hvalues]
    rw [if_neg (by simp [hgiven]), Prod.mk.injEq] at hrepeated
    have hconstant : constantAt c before spec = fun j name =>
        ⟨name, true, repeatedType c before, (repeatedInits c before)[j]?, none⟩ := by
      funext j name
      simp [constantAt, hrepeated, hgiven]
    simp [constantsOf, constants, hrepeated, hconstant]
  next hnot =>
    have hgiven : spec.isGiven = true := by
      cases htype : spec.type with
      | some type => simp [Syntax.ValueSpec.isGiven, htype]
      | none =>
        cases hvalues : spec.values with
        | nil => exact absurd hvalues (hnot htype)
        | cons value values => simp [Syntax.ValueSpec.isGiven, hvalues]
    rw [if_pos hgiven, Prod.mk.injEq] at hrepeated
    have hconstant : constantAt c before spec = fun j name =>
        ⟨name, true, spec.type.map (readType c []),
          (spec.values.map (Initializer.ofConstant c))[j]?,
          ((spec.values.map intLiteral?)[j]?).getD none⟩ := by
      funext j name
      cases hvalue : spec.values[j]? <;> simp [constantAt, hrepeated, hgiven, hvalue]
    simp only [constantsOf, constants, hrepeated, hconstant]

/-- All specifications, cut where one likes. -/
theorem readConsts_append (c : FileScope) (before specs after : List ValueSpec) :
    readConsts c (repeatedType c before) (repeatedInits c before) (specs ++ after) =
      readConsts c (repeatedType c before) (repeatedInits c before) specs ++
        readConsts c (repeatedType c (before ++ specs)) (repeatedInits c (before ++ specs)) after := by
  induction specs generalizing before with
  | nil => simp [readConsts]
  | cons spec specs ih =>
    rw [List.cons_append, readConsts_cons, readConsts_cons, ih]
    simp

theorem readDecl_consts (c : FileScope) (before : List ValueSpec) (spec : ValueSpec)
    (after : List ValueSpec) :
    readDecl c (.consts (before ++ spec :: after)) =
      (readConsts c none [] before ++ (constantsOf c before spec ++
        readConsts c (repeatedType c (before ++ [spec])) (repeatedInits c (before ++ [spec]))
          after)).map .value := by
  have happend := readConsts_append c [] before (spec :: after)
  rw [List.nil_append, readConsts_cons] at happend
  rw [readDecl]
  exact congrArg _ happend

/-- The constants of a specification by their places: names at even ones, commas at odd ones. -/
theorem getElem?_constantsOf (c : FileScope) (before : List ValueSpec) (spec : ValueSpec)
    (j : Nat) :
    (constantsOf c before spec)[j]? =
      (if j % 2 = 0 then spec.names[j / 2]?
        else if j < 2 * spec.names.length - 1 then some "," else none).map
          (constantAt c before spec j) := by
  rw [constantsOf, List.getElem?_mapIdx, List.getElem?_intersperse]

/-- A constant is called by a name of its specification, or is a comma between two names. -/
theorem name_of_mem_constantsOf {b : ValueBinding} (h : b ∈ constantsOf c before spec) :
    b.name ∈ spec.names ∨ b.name = "," ∧ 2 ≤ spec.names.length := by
  obtain ⟨j, hj⟩ := List.getElem?_of_mem h
  rw [getElem?_constantsOf, Option.map_eq_some_iff] at hj
  obtain ⟨name, hname, rfl⟩ := hj
  split at hname
  · exact Or.inl (List.mem_of_getElem? hname)
  · obtain ⟨hlt, heq⟩ := Option.ite_none_right_eq_some.mp hname
    exact Or.inr ⟨(Option.some.inj heq).symm, by omega⟩

theorem name_of_mem_readConsts (before : List ValueSpec) {b : ValueBinding}
    (h : b ∈ readConsts c (repeatedType c before) (repeatedInits c before) specs) :
    ∃ spec ∈ specs, b.name ∈ spec.names ∨ b.name = "," ∧ 2 ≤ spec.names.length := by
  induction specs generalizing before with
  | nil => cases h
  | cons spec specs ih =>
    rw [readConsts_cons] at h
    rcases List.mem_append.mp h with h | h
    · exact ⟨spec, List.mem_cons_self, name_of_mem_constantsOf h⟩
    · obtain ⟨s, hs, hname⟩ := ih _ h
      exact ⟨s, List.mem_cons_of_mem _ hs, hname⟩

namespace PackageScope

/-- Values alone leave the rest of a package as it is. -/
theorem foldl_declare_values (bs : List ValueBinding) (p : PackageScope) :
    (bs.map Declaration.value).foldl declare p =
      { p with values := bs.foldl (fun d b => d.insert b.name b) p.values } := by
  induction bs generalizing p with
  | nil => rfl
  | cons b bs ih => exact ih _

end PackageScope

namespace Dict

theorem get?_foldl_insert_of_ne {bs : List ValueBinding} {name : String}
    (h : ∀ b ∈ bs, b.name ≠ name) (d : Dict ValueBinding) :
    (bs.foldl (fun d b => d.insert b.name b) d).get? name = d.get? name := by
  induction bs generalizing d with
  | nil => rfl
  | cons b bs ih =>
    obtain ⟨hb, hbs⟩ := List.forall_mem_cons.mp h
    rw [List.foldl_cons, ih hbs, get?_insert, if_neg (Ne.symm hb)]

/-- Of the bindings of one name the last counts. -/
theorem get?_foldl_insert_of_last {bs : List ValueBinding} {j : Nat} {b : ValueBinding}
    (hb : bs[j]? = some b) (hlast : ∀ b' ∈ bs.drop (j + 1), b'.name ≠ b.name)
    (d : Dict ValueBinding) :
    (bs.foldl (fun d b => d.insert b.name b) d).get? b.name = some b := by
  obtain ⟨hlt, hget⟩ := List.getElem?_eq_some_iff.mp hb
  have hsplit : bs.take j ++ b :: bs.drop (j + 1) = bs := by
    rw [← hget, ← List.drop_eq_getElem_cons hlt, List.take_append_drop]
  rw [← hsplit, List.foldl_append, List.foldl_cons, get?_foldl_insert_of_ne hlast, get?_insert,
    if_pos rfl]

end Dict

/-- The package after a declaration of constants. -/
def declareConsts (c : FileScope) (specs : List ValueSpec) (p : PackageScope) : PackageScope :=
  (readDecl c (.consts specs)).foldl PackageScope.declare p

theorem declareConsts_eq (c : FileScope) (specs : List ValueSpec) (p : PackageScope) :
    declareConsts c specs p = { p with values := (declareConsts c specs p).values } := by
  rw [declareConsts, readDecl, PackageScope.foldl_declare_values]

theorem get?_declareConsts_of_other {name : String}
    (hother : ∀ s ∈ specs, name ∉ s.names ∧ (name = "," → s.names.length ≤ 1)) (p : PackageScope) :
    (declareConsts c specs p).values.get? name = p.values.get? name := by
  rw [declareConsts, readDecl, PackageScope.foldl_declare_values]
  refine Dict.get?_foldl_insert_of_ne ?_ _
  rintro b hb rfl
  obtain ⟨s, hs, hname | ⟨hcomma, hlength⟩⟩ := name_of_mem_readConsts [] hb
  · exact (hother s hs).1 hname
  · exact absurd ((hother s hs).2 hcomma) (by omega)

/-- A constant that none behind it has the name of is in the package. -/
theorem get?_declareConsts_of_last {j : Nat} {b : ValueBinding}
    (hb : (constantsOf c before spec)[j]? = some b)
    (hlast : ∀ b' ∈ (constantsOf c before spec).drop (j + 1), b'.name ≠ b.name)
    (hafter : ∀ s ∈ after, b.name ∉ s.names ∧ (b.name = "," → s.names.length ≤ 1))
    (p : PackageScope) :
    (declareConsts c (before ++ spec :: after) p).values.get? b.name = some b := by
  rw [declareConsts, readDecl_consts, PackageScope.foldl_declare_values, List.foldl_append,
    List.foldl_append, Dict.get?_foldl_insert_of_ne, Dict.get?_foldl_insert_of_last hb hlast]
  intro b' hb' heq
  obtain ⟨s, hs, hname | ⟨hcomma, hlength⟩⟩ := name_of_mem_readConsts _ hb'
  · exact (hafter s hs).1 (heq ▸ hname)
  · exact absurd ((hafter s hs).2 (heq ▸ hcomma)) (by omega)

/-- Every name of the specifications is bound to the value at the place that `place` gives for its
own. Of two bindings of one name the later counts. -/
def PairsBy (place : Nat → Nat) (c : FileScope) (specs : List ValueSpec)
    (values : Dict ValueBinding) : Prop :=
  ∀ before spec after i name, specs = before ++ spec :: after → spec.names[i]? = some name →
    name ∉ spec.names.drop (i + 1) → (∀ s ∈ after, name ∉ s.names) →
    values.get? name = some (constantAt c before spec (place i) name)

/-- The second package differs from the first only in the values of some names. -/
def BindsOnly (names : String → Prop) (p q : PackageScope) : Prop :=
  q = { p with values := q.values } ∧
    ∀ name, ¬ names name → q.values.get? name = p.values.get? name

/-- One of the specifications has the name. -/
def NamedIn (specs : List ValueSpec) (name : String) : Prop :=
  ∃ s ∈ specs, name ∈ s.names

theorem pairsBy_twice (hnames : ∀ s ∈ specs, "," ∉ s.names) (p : PackageScope) :
    PairsBy (2 * ·) c specs (declareConsts c specs p).values := by
  rintro before spec after i name rfl hname hlast hafter
  have hcomma : name ≠ "," := by
    rintro rfl
    exact hnames spec (by simp) (List.mem_of_getElem? hname)
  have hb : (constantsOf c before spec)[2 * i]? = some (constantAt c before spec (2 * i) name) := by
    simp [getElem?_constantsOf, hname]
  refine get?_declareConsts_of_last hb ?_ (fun s hs => ⟨hafter s hs, fun h => absurd h hcomma⟩) p
  intro b' hb'
  obtain ⟨j, hj⟩ := List.getElem?_of_mem hb'
  rw [List.getElem?_drop, getElem?_constantsOf, Option.map_eq_some_iff] at hj
  obtain ⟨name', hname', rfl⟩ := hj
  rintro rfl
  split at hname'
  next heven =>
    -- a later name of the specification
    apply hlast
    have hplace : (2 * i + 1 + j) / 2 = i + 1 + (j / 2) := by omega
    rw [hplace, ← List.getElem?_drop] at hname'
    exact List.mem_of_getElem? hname'
  next =>
    obtain ⟨-, heq⟩ := Option.ite_none_right_eq_some.mp hname'
    exact hcomma (Option.some.inj heq).symm

/-- The last comma of the declaration is bound like a name. -/
theorem get?_declareConsts_comma (hnames : ∀ s ∈ before ++ spec :: after, "," ∉ s.names)
    (hlength : 2 ≤ spec.names.length) (hafter : ∀ s ∈ after, s.names.length ≤ 1)
    (p : PackageScope) :
    (declareConsts c (before ++ spec :: after) p).values.get? "," =
      some (constantAt c before spec (2 * spec.names.length - 3) ",") := by
  have hodd : (2 * spec.names.length - 3) % 2 = 1 := by omega
  have hb : (constantsOf c before spec)[2 * spec.names.length - 3]? =
      some (constantAt c before spec (2 * spec.names.length - 3) ",") := by
    rw [getElem?_constantsOf, if_neg (by omega), if_pos (by omega), Option.map_some]
  refine get?_declareConsts_of_last hb ?_
    (fun s hs => ⟨hnames s (by simp [hs]), fun _ => hafter s hs⟩) p
  intro b' hb'
  obtain ⟨j, hj⟩ := List.getElem?_of_mem hb'
  rw [List.getElem?_drop, getElem?_constantsOf, Option.map_eq_some_iff] at hj
  obtain ⟨name', hname', rfl⟩ := hj
  rintro heq
  have heq : name' = "," := heq
  subst heq
  split at hname'
  next => exact hnames spec (by simp) (List.mem_of_getElem? hname')
  next =>
    obtain ⟨hlt, -⟩ := Option.ite_none_right_eq_some.mp hname'
    omega

/-- The last specification with several names. -/
theorem exists_last_of_several (h : ¬ ∀ s ∈ specs, s.names.length ≤ 1) :
    ∃ before spec after, specs = before ++ spec :: after ∧ 2 ≤ spec.names.length ∧
      ∀ s ∈ after, s.names.length ≤ 1 := by
  induction specs with
  | nil => exact absurd (fun s hs => absurd hs List.not_mem_nil) h
  | cons spec specs ih =>
    by_cases hspecs : ∀ s ∈ specs, s.names.length ≤ 1
    · refine ⟨[], spec, specs, rfl, ?_, hspecs⟩
      by_contra hspec
      exact h (List.forall_mem_cons.mpr ⟨by omega, hspecs⟩)
    · obtain ⟨before, spec', after, rfl, hlength, hafter⟩ := ih hspecs
      exact ⟨spec :: before, spec', after, rfl, hlength, hafter⟩

/-- The name at place `i` is bound to the value at place `2 * i`, the last comma between two names is
bound too, and nothing else is. So each name has its own value, and only names are bound, just if no
specification has several. -/
theorem constants_paired_iff (c : FileScope) (specs : List ValueSpec)
    (hnames : ∀ s ∈ specs, "," ∉ s.names) (p : PackageScope) :
    PairsBy (2 * ·) c specs (declareConsts c specs p).values ∧
      BindsOnly (fun name => NamedIn specs name ∨ name = ",") p (declareConsts c specs p) ∧
      (∀ before spec after, specs = before ++ spec :: after → 2 ≤ spec.names.length →
        (∀ s ∈ after, s.names.length ≤ 1) → (declareConsts c specs p).values.get? "," =
          some (constantAt c before spec (2 * spec.names.length - 3) ",")) ∧
      (p.values.get? "," = none →
        (PairsBy id c specs (declareConsts c specs p).values ∧
            BindsOnly (NamedIn specs) p (declareConsts c specs p) ↔
          ∀ s ∈ specs, s.names.length ≤ 1)) := by
  have hpairs := pairsBy_twice (c := c) hnames p
  refine ⟨hpairs, ⟨declareConsts_eq c specs p, ?_⟩, ?_, fun hfresh => ⟨?_, fun hsingle => ?_⟩⟩
  · intro name hname
    rw [not_or] at hname
    exact get?_declareConsts_of_other
      (fun s hs => ⟨fun h => hname.1 ⟨s, hs, h⟩, fun h => absurd h hname.2⟩) p
  · rintro before spec after rfl hlength hafter
    exact get?_declareConsts_comma hnames hlength hafter p
  · rintro ⟨-, -, honly⟩
    by_contra hseveral
    obtain ⟨before, spec, after, rfl, hlength, hafter⟩ := exists_last_of_several hseveral
    have hcomma := get?_declareConsts_comma (c := c) hnames hlength hafter p
    have hnot : ¬ NamedIn (before ++ spec :: after) "," := by
      rintro ⟨s, hs, h⟩
      exact hnames s hs h
    rw [honly "," hnot, hfresh] at hcomma
    cases hcomma
  · refine ⟨?_, declareConsts_eq c specs p, fun name hname => ?_⟩
    · rintro before spec after i name rfl hname hlast hafter
      have hlt : i < spec.names.length := (List.getElem?_eq_some_iff.mp hname).1
      have hi : i = 0 := by
        have := hsingle spec (by simp)
        omega
      subst hi
      exact hpairs before spec after 0 name rfl hname hlast hafter
    · exact get?_declareConsts_of_other
        (fun s hs => ⟨fun h => hname ⟨s, hs, h⟩, fun _ => hsingle s hs⟩) p

/-- `A, B = 1, "x"` and then `C`. -/
def pairSpecs : List ValueSpec :=
  [⟨["A", "B"], none, [literal "1" .int, literal "\"x\"" .string]⟩, ⟨["C"], none, []⟩]
where
  literal (text : String) (kind : Syntax.LiteralKind) : Syntax.ExprNode :=
    ⟨⟨⟨1, 0, text.toList⟩, ⟨1, text.length, []⟩⟩, .literal kind⟩

def pairFiles : PackageFiles :=
  ⟨"pair", none, ⟨"."⟩, none, [⟨"pair.go"⟩]⟩

def pairScope : FileScope :=
  .ofImports "pair" []

/-- `B` has no value, the comma has that of `B`, and `C` repeats the value of `A`. -/
theorem pair_constants_paired :
    let q := declareConsts pairScope pairSpecs (.ofPackage pairFiles)
    q.values.get? "A" = some ⟨"A", true, none, some (.basic .int), some "1"⟩ ∧
      q.values.get? "," = some ⟨",", true, none, some (.basic .string), none⟩ ∧
      q.values.get? "B" = some ⟨"B", true, none, none, none⟩ ∧
      q.values.get? "C" = some ⟨"C", true, none, some (.basic .int), none⟩ ∧
      q.values.get? "D" = none := by
  obtain ⟨hpairs, ⟨-, honly⟩, hcomma, -⟩ := constants_paired_iff pairScope pairSpecs (by decide)
    (.ofPackage pairFiles)
  exact ⟨hpairs [] _ _ 0 "A" rfl rfl (by decide) (by decide),
    hcomma [] _ _ rfl (by decide) (by decide),
    hpairs [] _ _ 1 "B" rfl rfl (by decide) (by decide),
    hpairs [_] _ [] 0 "C" rfl rfl (by decide) (by decide),
    honly "D" (by simp [NamedIn, pairSpecs])⟩

def pairTree : FileTree :=
  ⟨[(["pair.go"], .file "package pair\n\nconst A, B = 1, \"x\"\n".toUTF8)], []⟩

/-- A second name misses its value, and a comma is bound. -/
theorem second_name_unpaired :
    (PackageScope.ofFiles pairTree pairFiles).toOption.map (fun p =>
        p.values.entries.map fun e => (e.1, e.2.init.isSome)) =
      some [(",", true), ("A", true), ("B", false)] ∧
    ¬ ∀ (c : FileScope) (specs : List ValueSpec) (p : PackageScope),
      (∀ s ∈ specs, "," ∉ s.names) → p.values.get? "," = none →
        PairsBy id c specs (declareConsts c specs p).values ∧
          BindsOnly (NamedIn specs) p (declareConsts c specs p) := by
  refine ⟨by decide +kernel, fun hpairs => ?_⟩
  have hfirst := (hpairs pairScope pairSpecs (.ofPackage pairFiles) (by decide) rfl).1 []
    _ _ 1 "B" rfl rfl (by decide) (by decide)
  cases hfirst

end GoStub
