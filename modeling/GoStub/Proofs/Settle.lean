import GoStub.Proofs.Occurrence
import GoStub.Shape.Settle
import Mathlib.Data.List.Forall2

/-! Settled types: settling changes array lengths and nothing else, and every node of a settled type
can be written in a stub once its needs are met. -/

namespace GoStub

theorem Except.bind_eq_ok {ε α β : Type} {x : Except ε α} {f : α → Except ε β} {b : β} :
    (x >>= f) = .ok b ↔ ∃ a, x = .ok a ∧ f a = .ok b := by
  cases x with
  | error e =>
    constructor
    · intro h
      cases h
    · rintro ⟨a, h, -⟩
      cases h
  | ok a =>
    constructor
    · intro h
      exact ⟨a, rfl, h⟩
    · rintro ⟨a', h, hf⟩
      cases h
      exact hf

@[simp] theorem Except.pure_eq_ok {ε α : Type} {a b : α} :
    (pure a : Except ε α) = .ok b ↔ a = b := by
  constructor
  · intro h
    cases h
    rfl
  · rintro rfl
    rfl

namespace PackageScope

/-- `literal` stands at the end of the constants that `name` leads to, each but the last defined as
the next one. -/
inductive LiteralBehind (p : PackageScope) : String → String → Prop
  | plain {name literal : String} {decl : ValueBinding} (hd : p.values.get? name = some decl)
      (hc : decl.constant = true) (hl : decl.intLiteral = some literal) :
      LiteralBehind p name literal
  | next {name other literal : String} {decl : ValueBinding}
      (hd : p.values.get? name = some decl) (hc : decl.constant = true)
      (hl : decl.intLiteral = none) (hi : decl.init = some (.own other))
      (h : LiteralBehind p other literal) : LiteralBehind p name literal

theorem LiteralBehind.unique {p : PackageScope} {name a b : String} (ha : p.LiteralBehind name a)
    (hb : p.LiteralBehind name b) : a = b := by
  induction ha with
  | plain hd hc hl =>
    cases hb with
    | plain hd' hc' hl' =>
      obtain rfl := Option.some.inj (hd.symm.trans hd')
      exact Option.some.inj (hl.symm.trans hl')
    | next hd' hc' hl' hi' h' =>
      obtain rfl := Option.some.inj (hd.symm.trans hd')
      simp [hl] at hl'
  | next hd hc hl hi h ih =>
    cases hb with
    | plain hd' hc' hl' =>
      obtain rfl := Option.some.inj (hd.symm.trans hd')
      simp [hl] at hl'
    | next hd' hc' hl' hi' h' =>
      obtain rfl := Option.some.inj (hd.symm.trans hd')
      obtain rfl : _ = _ := by simpa [hi] using hi'
      exact ih h'

open Classical in
/-- A length with a constant of the package replaced by the integer it stands for. -/
noncomputable def inlineLength (p : PackageScope) : ArrayLength → ArrayLength
  | .constant package name =>
    if h : package = p.importPath ∧ ∃ literal, p.LiteralBehind name literal then
      .literal h.2.choose
    else .constant package name
  | length => length

theorem inlineLength_own {p : PackageScope} {name literal : String}
    (h : p.LiteralBehind name literal) :
    p.inlineLength (.constant p.importPath name) = .literal literal := by
  have hex : ∃ literal, p.LiteralBehind name literal := ⟨literal, h⟩
  rw [inlineLength, dif_pos ⟨rfl, hex⟩, hex.choose_spec.unique h]

theorem inlineLength_foreign {p : PackageScope} {package name : String}
    (h : package ≠ p.importPath) :
    p.inlineLength (.constant package name) = .constant package name := by
  rw [inlineLength, dif_neg fun hc => h hc.1]

end PackageScope

mutual

/-- The type with `f` applied to all its array lengths. -/
def GoType.mapLengths (f : ArrayLength → ArrayLength) : GoType → GoType
  | .builtin name => .builtin name
  | .param name => .param name
  | .named package name args => .named package name (mapLengthsAll f args)
  | .pointer elem => .pointer (elem.mapLengths f)
  | .slice elem => .slice (elem.mapLengths f)
  | .array length elem => .array (f length) (elem.mapLengths f)
  | .map key value => .map (key.mapLengths f) (value.mapLengths f)
  | .chan direction elem => .chan direction (elem.mapLengths f)
  | .func signature => .func (signature.mapLengths f)
  | .struct fields => .struct (mapLengthsOfFields f fields)
  | .interface body => .interface (body.mapLengths f)
  | .tilde elem => .tilde (elem.mapLengths f)
  | .union terms => .union (mapLengthsAll f terms)
  | .unsupported reason => .unsupported reason

def mapLengthsAll (f : ArrayLength → ArrayLength) : List GoType → List GoType
  | [] => []
  | t :: ts => t.mapLengths f :: mapLengthsAll f ts

def Signature.mapLengths (f : ArrayLength → ArrayLength) : Signature → Signature
  | ⟨params, variadic, results⟩ => ⟨mapLengthsAll f params, variadic, mapLengthsAll f results⟩

def mapLengthsOfFields (f : ArrayLength → ArrayLength) : List Field → List Field
  | [] => []
  | ⟨name, type, embedded, tag⟩ :: rest =>
    ⟨name, type.mapLengths f, embedded, tag⟩ :: mapLengthsOfFields f rest

def mapLengthsOfMethods (f : ArrayLength → ArrayLength) : List Method → List Method
  | [] => []
  | ⟨name, signature⟩ :: rest => ⟨name, signature.mapLengths f⟩ :: mapLengthsOfMethods f rest

def InterfaceBody.mapLengths (f : ArrayLength → ArrayLength) : InterfaceBody → InterfaceBody
  | ⟨methods, embedded, typeSets⟩ =>
    ⟨mapLengthsOfMethods f methods, mapLengthsAll f embedded, mapLengthsAll f typeSets⟩

end

theorem mapLengthsAll_eq (f : ArrayLength → ArrayLength) (ts : List GoType) :
    mapLengthsAll f ts = ts.map (·.mapLengths f) := by
  induction ts with
  | nil => simp [mapLengthsAll]
  | cons t ts ih => simp [mapLengthsAll, ih]

theorem mapLengthsOfFields_eq (f : ArrayLength → ArrayLength) (fields : List Field) :
    mapLengthsOfFields f fields =
      fields.map fun g => ⟨g.name, g.type.mapLengths f, g.embedded, g.tag⟩ := by
  induction fields with
  | nil => simp [mapLengthsOfFields]
  | cons g rest ih =>
    obtain ⟨name, type, embedded, tag⟩ := g
    simp [mapLengthsOfFields, ih]

theorem mapLengthsOfMethods_eq (f : ArrayLength → ArrayLength) (methods : List Method) :
    mapLengthsOfMethods f methods = methods.map fun m => ⟨m.name, m.signature.mapLengths f⟩ := by
  induction methods with
  | nil => simp [mapLengthsOfMethods]
  | cons m rest ih =>
    obtain ⟨name, signature⟩ := m
    simp [mapLengthsOfMethods, ih]

theorem exists_of_forall₂ {α β : Type} {R : α → β → Prop} {xs : List α} {ys : List β}
    (h : List.Forall₂ R xs ys) {y : β} (hy : y ∈ ys) : ∃ x ∈ xs, R x y := by
  induction h with
  | nil => cases hy
  | @cons a b as bs hab _ ih =>
    rcases List.mem_cons.mp hy with rfl | hy
    · exact ⟨a, List.mem_cons_self, hab⟩
    · obtain ⟨x, hx, hr⟩ := ih hy
      exact ⟨x, List.mem_cons_of_mem a hx, hr⟩

theorem exists_right_of_forall₂ {α β : Type} {R : α → β → Prop} {xs : List α} {ys : List β}
    (h : List.Forall₂ R xs ys) {x : α} (hx : x ∈ xs) : ∃ y ∈ ys, R x y :=
  exists_of_forall₂ h.flip hx

theorem eq_map_of_forall₂ {α β : Type} {R : α → β → Prop} {g : α → β} {xs : List α} {ys : List β}
    (h : List.Forall₂ R xs ys) (hg : ∀ x ∈ xs, ∀ y, R x y → y = g x) : ys = xs.map g := by
  induction h with
  | nil => rfl
  | @cons a b as bs hab _ ih =>
    rw [List.map_cons, hg a List.mem_cons_self b hab, ih fun x hx => hg x (.tail a hx)]

/-- A computation that works through a list, element by element. -/
theorem forall₂_of_cons {ε α β : Type} (run : List α → Except ε (List β)) {R : α → β → Prop}
    (nil : run [] = .ok [])
    (cons : ∀ a as ys, run (a :: as) = .ok ys → ∃ b bs, R a b ∧ run as = .ok bs ∧ ys = b :: bs)
    {xs : List α} {ys : List β} (h : run xs = .ok ys) : List.Forall₂ R xs ys := by
  induction xs generalizing ys with
  | nil =>
    cases nil.symm.trans h
    exact .nil
  | cons a as ih =>
    obtain ⟨b, bs, hab, hbs, rfl⟩ := cons a as ys h
    exact .cons hab (ih hbs)

section Settling

variable {site : Site}

theorem settleAll_ok {ts ts' : List GoType} (h : settleAll site ts = .ok ts') :
    List.Forall₂ (fun t t' => t.settle site = .ok t') ts ts' := by
  refine forall₂_of_cons (settleAll site) rfl (fun t ts ts' h => ?_) h
  obtain ⟨t', ht, h⟩ := Except.bind_eq_ok.mp h
  obtain ⟨rest, hrest, h⟩ := Except.bind_eq_ok.mp h
  exact ⟨t', rest, ht, hrest, (Except.pure_eq_ok.mp h).symm⟩

theorem Signature.settle_ok {s s' : Signature} (h : s.settle site = .ok s') :
    settleAll site s.params = .ok s'.params ∧ s'.variadic = s.variadic ∧
      settleAll site s.results = .ok s'.results := by
  obtain ⟨params, variadic, results⟩ := s
  obtain ⟨params', hp, h⟩ := Except.bind_eq_ok.mp h
  obtain ⟨results', hr, h⟩ := Except.bind_eq_ok.mp h
  obtain rfl := Except.pure_eq_ok.mp h
  exact ⟨hp, rfl, hr⟩

theorem settleFields_ok {fields fields' : List Field}
    (h : settleFields site fields = .ok fields') :
    List.Forall₂ (fun f f' => f.type.settle site = .ok f'.type ∧
      f' = ⟨f.name, f'.type, f.embedded, f.tag⟩) fields fields' := by
  refine forall₂_of_cons (settleFields site) rfl (fun ⟨name, type, embedded, tag⟩ fields fields' h => ?_) h
  obtain ⟨type', ht, h⟩ := Except.bind_eq_ok.mp h
  obtain ⟨rest, hrest, h⟩ := Except.bind_eq_ok.mp h
  exact ⟨⟨name, type', embedded, tag⟩, rest, ⟨ht, rfl⟩, hrest, (Except.pure_eq_ok.mp h).symm⟩

theorem settleMethods_ok {methods methods' : List Method}
    (h : settleMethods site methods = .ok methods') :
    List.Forall₂ (fun m m' => m.signature.settle site = .ok m'.signature ∧ m'.name = m.name)
      methods methods' := by
  refine forall₂_of_cons (settleMethods site) rfl (fun ⟨name, signature⟩ methods methods' h => ?_) h
  obtain ⟨signature', hs, h⟩ := Except.bind_eq_ok.mp h
  obtain ⟨rest, hrest, h⟩ := Except.bind_eq_ok.mp h
  exact ⟨⟨name, signature'⟩, rest, ⟨hs, rfl⟩, hrest, (Except.pure_eq_ok.mp h).symm⟩

theorem InterfaceBody.settle_ok {b b' : InterfaceBody} (h : b.settle site = .ok b') :
    settleMethods site b.methods = .ok b'.methods ∧
      settleAll site b.embedded = .ok b'.embedded ∧
      settleAll site b.typeSets = .ok b'.typeSets := by
  obtain ⟨methods, embedded, typeSets⟩ := b
  obtain ⟨methods', hm, h⟩ := Except.bind_eq_ok.mp h
  obtain ⟨embedded', he, h⟩ := Except.bind_eq_ok.mp h
  obtain ⟨typeSets', ht, h⟩ := Except.bind_eq_ok.mp h
  obtain rfl := Except.pure_eq_ok.mp h
  exact ⟨hm, he, ht⟩

theorem Signature.settle_types {s s' : Signature} (h : s.settle site = .ok s') :
    List.Forall₂ (fun t t' => t.settle site = .ok t') s.types s'.types := by
  obtain ⟨hp, -, hr⟩ := Signature.settle_ok h
  exact List.rel_append (settleAll_ok hp) (settleAll_ok hr)

theorem InterfaceBody.settle_types {b b' : InterfaceBody} (h : b.settle site = .ok b') :
    List.Forall₂ (fun t t' => t.settle site = .ok t') b.types b'.types := by
  obtain ⟨hm, he, ht⟩ := InterfaceBody.settle_ok h
  apply List.rel_append _ (List.rel_append (settleAll_ok he) (settleAll_ok ht))
  apply List.rel_flatMap (settleMethods_ok hm)
  rintro m m' ⟨hs, -⟩
  exact Signature.settle_types hs

theorem Site.lengthLiteral_behind {hops : Nat} {name literal : String}
    (h : site.lengthLiteral hops name = .ok literal) :
    site.target.LiteralBehind name literal := by
  induction hops generalizing name with
  | zero =>
    unfold Site.lengthLiteral at h
    split at h
    · cases h
    next decl hd =>
      obtain ⟨hd, hc⟩ := Option.filter_eq_some_iff.mp hd
      split at h
      next hl =>
        cases h
        exact .plain hd hc hl
      next heq => cases heq
      next => cases h
  | succ hops ih =>
    unfold Site.lengthLiteral at h
    split at h
    · cases h
    next decl hd =>
      obtain ⟨hd, hc⟩ := Option.filter_eq_some_iff.mp hd
      split at h
      next hl =>
        cases h
        exact .plain hd hc hl
      next hl hi heq =>
        cases heq
        exact .next hd hc hl hi (ih h)
      next => cases h

/-- A length a stub can hold: an integer, or an exported constant of another package. -/
def ArrayLength.Settled (p : PackageScope) : ArrayLength → Prop
  | .literal _ => True
  | .constant package name => package ≠ p.importPath ∧ Name.isExported name = true
  | .expr _ => False

theorem Site.settleLength_ok {length length' : ArrayLength}
    (h : site.settleLength length = .ok length') :
    length'.Settled site.target ∧ length' = site.target.inlineLength length := by
  cases length with
  | literal value =>
    cases h
    exact ⟨trivial, rfl⟩
  | expr text => cases h
  | constant package name =>
    simp only [Site.settleLength] at h
    by_cases hp : package = site.target.importPath
    · rw [if_pos hp] at h
      cases hl : site.lengthLiteral Site.maxHops name with
      | error e => simp [hl, Except.map] at h
      | ok literal =>
        simp only [hl, Except.map, Except.ok.injEq] at h
        subst h hp
        exact ⟨trivial, (PackageScope.inlineLength_own (Site.lengthLiteral_behind hl)).symm⟩
    · rw [if_neg hp] at h
      by_cases hx : Name.isExported name = true
      · rw [if_pos hx] at h
        cases h
        exact ⟨⟨hp, hx⟩, (PackageScope.inlineLength_foreign hp).symm⟩
      · rw [if_neg hx] at h
        cases h

namespace GoType

/-- A node a stub can hold: a name that the package declares or another one exports, a settled
length, and nothing unsupported. -/
def SettledHere (p : PackageScope) : GoType → Prop
  | .named package name _ =>
    if package = p.importPath then p.types.contains name = true else Name.isExported name = true
  | .array length _ => length.Settled p
  | .unsupported _ => False
  | _ => True

/-- Every type that occurs is settled. -/
def Settled (p : PackageScope) (t : GoType) : Prop :=
  ∀ u : GoType, u.Occurs t → u.SettledHere p

theorem settledHere_of_checkName {package name : String} {args : List GoType}
    (h : site.checkName package name = .ok ()) :
    (named package name args).SettledHere site.target := by
  unfold Site.checkName at h
  simp only [SettledHere]
  by_cases hp : package = site.target.importPath
  · rw [if_pos hp] at h ⊢
    by_contra hc
    rw [if_neg hc] at h
    cases h
  · rw [if_neg hp] at h ⊢
    by_contra hx
    rw [if_neg hx] at h
    cases h

/-- Settling gives a settled node over settled parts, one for one. -/
theorem settle_step {t t' : GoType} (h : t.settle site = .ok t') :
    t'.SettledHere site.target ∧
      List.Forall₂ (fun part part' => part.settle site = .ok part') t.parts t'.parts := by
  cases t with
  | builtin name | param name =>
    cases h
    exact ⟨trivial, .nil⟩
  | unsupported reason => cases h
  | named package name args =>
    obtain ⟨args', ha, h⟩ := Except.bind_eq_ok.mp h
    obtain ⟨⟨⟩, hc, h⟩ := Except.bind_eq_ok.mp h
    obtain rfl := Except.pure_eq_ok.mp h
    exact ⟨settledHere_of_checkName hc, settleAll_ok ha⟩
  | pointer elem | slice elem | chan direction elem | tilde elem =>
    obtain ⟨elem', he, h⟩ := Except.bind_eq_ok.mp h
    obtain rfl := Except.pure_eq_ok.mp h
    exact ⟨trivial, .cons he .nil⟩
  | array length elem =>
    obtain ⟨length', hl, h⟩ := Except.bind_eq_ok.mp h
    obtain ⟨elem', he, h⟩ := Except.bind_eq_ok.mp h
    obtain rfl := Except.pure_eq_ok.mp h
    exact ⟨(Site.settleLength_ok hl).1, .cons he .nil⟩
  | map key value =>
    obtain ⟨key', hk, h⟩ := Except.bind_eq_ok.mp h
    obtain ⟨value', hv, h⟩ := Except.bind_eq_ok.mp h
    obtain rfl := Except.pure_eq_ok.mp h
    exact ⟨trivial, .cons hk (.cons hv .nil)⟩
  | func signature =>
    obtain ⟨signature', hs, h⟩ := Except.bind_eq_ok.mp h
    obtain rfl := Except.pure_eq_ok.mp h
    exact ⟨trivial, Signature.settle_types hs⟩
  | struct fields =>
    obtain ⟨fields', hf, h⟩ := Except.bind_eq_ok.mp h
    obtain rfl := Except.pure_eq_ok.mp h
    refine ⟨trivial, List.rel_map ?_ (settleFields_ok hf)⟩
    rintro f f' ⟨ht, -⟩
    exact ht
  | interface body =>
    obtain ⟨body', hb, h⟩ := Except.bind_eq_ok.mp h
    obtain rfl := Except.pure_eq_ok.mp h
    exact ⟨trivial, InterfaceBody.settle_types hb⟩
  | union terms =>
    obtain ⟨terms', ht, h⟩ := Except.bind_eq_ok.mp h
    obtain rfl := Except.pure_eq_ok.mp h
    exact ⟨trivial, settleAll_ok ht⟩

theorem settled_of_settle {t t' : GoType} (h : t.settle site = .ok t') :
    t'.Settled site.target := by
  induction t using inductionOnParts generalizing t' with
  | step t ih =>
    obtain ⟨hhere, hparts⟩ := settle_step h
    intro u hu
    rcases occurs_iff.mp hu with rfl | ⟨part', hp', hu⟩
    · exact hhere
    · obtain ⟨part, hp, hpart⟩ := exists_of_forall₂ hparts hp'
      exact ih part hp hpart u hu

theorem mapLengths_of_signature {f : ArrayLength → ArrayLength} {s s' : Signature}
    (h : s.settle site = .ok s')
    (ih : ∀ t ∈ s.types, ∀ t', t.settle site = .ok t' → t' = t.mapLengths f) :
    s' = s.mapLengths f := by
  obtain ⟨hp, hv, hr⟩ := Signature.settle_ok h
  obtain ⟨params, variadic, results⟩ := s
  obtain ⟨params', variadic', results'⟩ := s'
  rw [Signature.mapLengths, Signature.mk.injEq, mapLengthsAll_eq, mapLengthsAll_eq]
  exact ⟨eq_map_of_forall₂ (settleAll_ok hp) fun t ht => ih t (List.mem_append_left _ ht), hv,
    eq_map_of_forall₂ (settleAll_ok hr) fun t ht => ih t (List.mem_append_right _ ht)⟩

theorem mapLengths_of_fields {f : ArrayLength → ArrayLength} {fields fields' : List Field}
    (h : settleFields site fields = .ok fields')
    (ih : ∀ g ∈ fields, ∀ t', g.type.settle site = .ok t' → t' = g.type.mapLengths f) :
    fields' = mapLengthsOfFields f fields := by
  rw [mapLengthsOfFields_eq]
  apply eq_map_of_forall₂ (settleFields_ok h)
  rintro g hg g' ⟨ht, hg'⟩
  rw [hg', ih g hg _ ht]

theorem mapLengths_of_body {f : ArrayLength → ArrayLength} {b b' : InterfaceBody}
    (h : b.settle site = .ok b')
    (ih : ∀ t ∈ b.types, ∀ t', t.settle site = .ok t' → t' = t.mapLengths f) :
    b' = b.mapLengths f := by
  obtain ⟨hm, he, ht⟩ := InterfaceBody.settle_ok h
  obtain ⟨methods, embedded, typeSets⟩ := b
  obtain ⟨methods', embedded', typeSets'⟩ := b'
  simp only [InterfaceBody.types, List.mem_append, List.mem_flatMap] at ih
  rw [InterfaceBody.mapLengths, InterfaceBody.mk.injEq, mapLengthsOfMethods_eq, mapLengthsAll_eq,
    mapLengthsAll_eq]
  refine ⟨eq_map_of_forall₂ (settleMethods_ok hm) ?_,
    eq_map_of_forall₂ (settleAll_ok he) fun t h => ih t (Or.inr (Or.inl h)),
    eq_map_of_forall₂ (settleAll_ok ht) fun t h => ih t (Or.inr (Or.inr h))⟩
  rintro m hm ⟨name, signature⟩ ⟨hs, rfl⟩
  have hsig : signature = m.signature.mapLengths f :=
    mapLengths_of_signature hs fun t ht => ih t (Or.inl ⟨m, hm, ht⟩)
  rw [hsig]

/-- Settling replaces the constants of the package among the array lengths, and nothing else. -/
theorem eq_mapLengths_of_settle {t t' : GoType} (h : t.settle site = .ok t') :
    t' = t.mapLengths site.target.inlineLength := by
  induction t using inductionOnParts generalizing t' with
  | step t ih =>
    cases t with
    | builtin name | param name =>
      cases h
      rw [mapLengths]
    | unsupported reason => cases h
    | named package name args =>
      obtain ⟨args', ha, h⟩ := Except.bind_eq_ok.mp h
      obtain ⟨⟨⟩, -, h⟩ := Except.bind_eq_ok.mp h
      obtain rfl := Except.pure_eq_ok.mp h
      rw [mapLengths, mapLengthsAll_eq,
        ← eq_map_of_forall₂ (settleAll_ok ha) fun t ht t' => ih t ht]
    | pointer elem | slice elem | chan direction elem | tilde elem =>
      obtain ⟨elem', he, h⟩ := Except.bind_eq_ok.mp h
      obtain rfl := Except.pure_eq_ok.mp h
      rw [mapLengths, ih elem List.mem_cons_self he]
    | array length elem =>
      obtain ⟨length', hl, h⟩ := Except.bind_eq_ok.mp h
      obtain ⟨elem', he, h⟩ := Except.bind_eq_ok.mp h
      obtain rfl := Except.pure_eq_ok.mp h
      rw [mapLengths, ih elem List.mem_cons_self he, (Site.settleLength_ok hl).2]
    | map key value =>
      obtain ⟨key', hk, h⟩ := Except.bind_eq_ok.mp h
      obtain ⟨value', hv, h⟩ := Except.bind_eq_ok.mp h
      obtain rfl := Except.pure_eq_ok.mp h
      rw [mapLengths, ih key List.mem_cons_self hk, ih value (.tail _ List.mem_cons_self) hv]
    | func signature =>
      obtain ⟨signature', hs, h⟩ := Except.bind_eq_ok.mp h
      obtain rfl := Except.pure_eq_ok.mp h
      rw [mapLengths, mapLengths_of_signature hs fun t ht t' => ih t ht]
    | struct fields =>
      obtain ⟨fields', hf, h⟩ := Except.bind_eq_ok.mp h
      obtain rfl := Except.pure_eq_ok.mp h
      rw [mapLengths, mapLengths_of_fields hf fun g hg t' => ih g.type (List.mem_map_of_mem hg)]
    | interface body =>
      obtain ⟨body', hb, h⟩ := Except.bind_eq_ok.mp h
      obtain rfl := Except.pure_eq_ok.mp h
      rw [mapLengths, mapLengths_of_body hb fun t ht t' => ih t ht]
    | union terms =>
      obtain ⟨terms', ht, h⟩ := Except.bind_eq_ok.mp h
      obtain rfl := Except.pure_eq_ok.mp h
      rw [mapLengths, mapLengthsAll_eq,
        ← eq_map_of_forall₂ (settleAll_ok ht) fun t ht t' => ih t ht]

theorem eq_mapLengths_of_settleSignature {s s' : Signature} (h : s.settle site = .ok s') :
    s' = s.mapLengths site.target.inlineLength :=
  mapLengths_of_signature h fun _ _ _ => eq_mapLengths_of_settle

end GoType

end Settling

end GoStub
