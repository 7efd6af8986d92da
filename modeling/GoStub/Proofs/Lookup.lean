import GoStub.Proofs.Dict
import GoStub.Proofs.Faults
import GoStub.Shape.Value
import GoStub.Shape.Interface

/-! Look-ups that may load packages: what a look-up that succeeds has done, and that with a
consistent source the packages loaded before do not change what it gives. -/

namespace GoStub

/-- A result is there if some view of it can be computed. -/
theorem Except.exists_ok_of_toOption {ε α β : Type} {x : Except ε α} {view : α → β} {b : β}
    (h : x.toOption.map view = some b) : ∃ a, x = .ok a ∧ view a = b := by
  cases x with
  | error e => cases h
  | ok a => exact ⟨a, rfl, Option.some.inj h⟩

/-- A computation that may fail and keeps its state goes on with the result, or stops at the failure
with the state it had then. -/
theorem run_bind {σ ε α β : Type} (x : ExceptT ε (StateM σ) α)
    (f : α → ExceptT ε (StateM σ) β) (s : σ) :
    (x >>= f).run s =
      match (x.run s : Except ε α × σ) with
      | (.ok a, s₁) => (f a).run s₁
      | (.error e, s₁) => (.error e, s₁) := by
  change (match (x.run s : Except ε α × σ) with
    | (r, s₁) => (ExceptT.bindCont f r : StateM σ (Except ε β)) s₁) = _
  rcases x.run s with ⟨_ | _, _⟩ <;> rfl

namespace Lookup

variable {α β : Type}

/-- The look-up, started with the packages in `c`, succeeds with `a` and leaves those in `c'`. -/
def Yields (x : Lookup α) (c : Cache) (a : α) (c' : Cache) : Prop :=
  x.run c = (.ok a, c')

@[simp] theorem yields_pure {a b : α} {c c' : Cache} :
    (pure a : Lookup α).Yields c b c' ↔ a = b ∧ c = c' := by
  unfold Yields
  constructor
  · intro h
    cases h
    exact ⟨rfl, rfl⟩
  · rintro ⟨rfl, rfl⟩
    rfl

@[simp] theorem yields_ofExcept {e : Except StubFault α} {a : α} {c c' : Cache} :
    (ofExcept e).Yields c a c' ↔ e = .ok a ∧ c = c' := by
  unfold Yields
  constructor
  · intro h
    cases h
    exact ⟨rfl, rfl⟩
  · rintro ⟨rfl, rfl⟩
    rfl

@[simp] theorem not_yields_fail {e : StubFault} {a : α} {c c' : Cache} :
    ¬ (fail e).Yields c a c' := by
  intro h
  cases h

theorem yields_bind {x : Lookup α} {f : α → Lookup β} {b : β} {c c' : Cache} :
    (x >>= f).Yields c b c' ↔ ∃ a c₁, x.Yields c a c₁ ∧ (f a).Yields c₁ b c' := by
  unfold Yields
  rw [run_bind]
  rcases x.run c with ⟨e | a, c₁⟩
  · constructor
    · intro h
      cases h
    · rintro ⟨a, c₁, h, -⟩
      cases h
  · constructor
    · intro h
      exact ⟨a, c₁, rfl, h⟩
    · rintro ⟨a', c₁', h, hf⟩
      cases h
      exact hf

/-- After a look-up that succeeds one goes on with what it gave. -/
theorem Yields.run_bind {x : Lookup α} {f : α → Lookup β} {a : α} {c c₁ : Cache}
    (h : x.Yields c a c₁) : (x >>= f).run c = (f a).run c₁ := by
  rw [GoStub.run_bind, h]

/-- What fails first is what fails. -/
theorem run_bind_of_error {x : Lookup α} {f : α → Lookup β} {e : StubFault} {c c₁ : Cache}
    (h : x.run c = (.error e, c₁)) : (x >>= f).run c = (.error e, c₁) := by
  rw [run_bind, h]

/-- Of two look-ups one after the other, the first fails or the second does. -/
theorem run_bind_eq_error {x : Lookup α} {f : α → Lookup β} {e : StubFault} {c c' : Cache} :
    (x >>= f).run c = (.error e, c') ↔
      x.run c = (.error e, c') ∨ ∃ a c₁, x.Yields c a c₁ ∧ (f a).run c₁ = (.error e, c') := by
  constructor
  · intro h
    rw [run_bind] at h
    rcases hx : x.run c with ⟨e' | a, c₁⟩
    · rw [hx] at h
      cases h
      exact Or.inl rfl
    · rw [hx] at h
      exact Or.inr ⟨a, c₁, hx, h⟩
  · rintro (h | ⟨a, c₁, hx, h⟩)
    · exact run_bind_of_error h
    · rw [hx.run_bind, h]

theorem run_pure_ne_error {a : α} {e : StubFault} {c c' : Cache} :
    (pure a : Lookup α).run c ≠ (.error e, c') := by
  intro h
  cases h

theorem Yields.unique {x : Lookup α} {a b : α} {c c₁ c₂ : Cache} (ha : x.Yields c a c₁)
    (hb : x.Yields c b c₂) : a = b := by
  have heq := ha.symm.trans hb
  cases heq
  rfl

theorem Yields.map {x : Lookup α} {a : α} {c c' : Cache} (h : x.Yields c a c') (f : α → β) :
    (do return f (← x) : Lookup β).Yields c (f a) c' :=
  yields_bind.mpr ⟨a, c', h, yields_pure.mpr ⟨rfl, rfl⟩⟩

theorem yields_ofExcept_bind {e : Except StubFault α} {f : α → Lookup β} {b : β} {c c' : Cache} :
    (ofExcept e >>= f).Yields c b c' ↔ ∃ a, e = .ok a ∧ (f a).Yields c b c' := by
  rw [yields_bind]
  constructor
  · rintro ⟨a, c₁, h, hf⟩
    obtain ⟨he, rfl⟩ := yields_ofExcept.mp h
    exact ⟨a, he, hf⟩
  · rintro ⟨a, he, hf⟩
    exact ⟨a, c, yields_ofExcept.mpr ⟨he, rfl⟩, hf⟩

theorem exists_yields {x : Lookup α} {c : Cache} {view : α → β} {b : β}
    (h : (x.run c).1.toOption.map view = some b) : ∃ a c', x.Yields c a c' ∧ view a = b := by
  obtain ⟨a, ha, hb⟩ := Except.exists_ok_of_toOption h
  exact ⟨a, (x.run c).2, Prod.ext ha rfl, hb⟩

/-- A property that loading a package has, every computation that fails at the site only, and every
look-up put together from such as have it. -/
structure Compositional (source : Source) (site : Site) (K : (α : Type) → Lookup α → Prop) :
    Prop where
  ofExcept : ∀ {α : Type} {e : Except StubFault α}, FailsAt site e → K α (ofExcept e)
  bind : ∀ {α β : Type} {x : Lookup α} {f : α → Lookup β}, K α x → (∀ a, K β (f a)) → K β (x >>= f)
  package : ∀ path, K PackageScope (package source path)

/-- The packages in `c` are those the source gives. -/
def Agrees (source : Source) (c : Cache) : Prop :=
  ∀ path p, c.get? path = some p → source path = .ok p

theorem agrees_empty (source : Source) : Agrees source .empty := by
  intro path p h
  cases h

/-- Whatever packages of the source are loaded before, the look-up gives one and the same result and
loads packages of the source. -/
def Steady (source : Source) (x : Lookup α) : Prop :=
  ∃ r, ∀ c, Agrees source c → (x.run c).1 = r ∧ Agrees source (x.run c).2

variable {source : Source} {site : Site}

theorem Steady.agrees {x : Lookup α} {a : α} {c c' : Cache} (hx : Steady source x)
    (hc : Agrees source c) (h : x.Yields c a c') : Agrees source c' := by
  obtain ⟨r, hr⟩ := hx
  have hafter := (hr c hc).2
  rwa [h] at hafter

/-- A look-up that succeeds after some loading succeeds alike after any other. -/
theorem Steady.transfer {x : Lookup α} {a : α} {c₁ c₁' c₂ : Cache} (hx : Steady source x)
    (h₁ : Agrees source c₁) (h₂ : Agrees source c₂) (h : x.Yields c₁ a c₁') :
    ∃ c₂', x.Yields c₂ a c₂' := by
  obtain ⟨r, hr⟩ := hx
  have hfst : (x.run c₂).1 = .ok a := by
    rw [(hr c₂ h₂).1, ← (hr c₁ h₁).1, h]
  exact ⟨(x.run c₂).2, Prod.ext hfst rfl⟩

theorem steady_ofExcept (e : Except StubFault α) : Steady source (ofExcept e) :=
  ⟨e, fun _ hc => ⟨rfl, hc⟩⟩

theorem steady_pure (a : α) : Steady source (pure a : Lookup α) :=
  steady_ofExcept (.ok a)

theorem steady_fail (e : StubFault) : Steady source (fail e : Lookup α) :=
  steady_ofExcept (.error e)

theorem Steady.bind {x : Lookup α} {f : α → Lookup β} (hx : Steady source x)
    (hf : ∀ a, Steady source (f a)) : Steady source (x >>= f) := by
  obtain ⟨r, hr⟩ := hx
  have hrun (c : Cache) (hc : Agrees source c) : x.run c = (r, (x.run c).2) :=
    Prod.ext (hr c hc).1 rfl
  cases r with
  | error e =>
    refine ⟨.error e, fun c hc => ?_⟩
    rw [run_bind, hrun c hc]
    exact ⟨rfl, (hr c hc).2⟩
  | ok a =>
    obtain ⟨r', hr'⟩ := hf a
    refine ⟨r', fun c hc => ?_⟩
    rw [run_bind, hrun c hc]
    exact hr' _ (hr c hc).2

end Lookup

/-- A package gives itself again under the path it says it has. -/
def Source.Consistent (source : Source) : Prop :=
  ∀ path p, source path = .ok p → source p.importPath = .ok p

theorem Source.consistent_single (p : PackageScope) (fault : String → StubFault) :
    Source.Consistent fun path =>
      if path = p.importPath then .ok p else .error (fault path) := by
  intro path q h
  dsimp only at h ⊢
  split at h
  next =>
    cases h
    exact if_pos rfl
  next => cases h

namespace Lookup

variable {source : Source} {site : Site}

variable {c : Cache} {path : String} {p : PackageScope}

theorem run_package_of_cached (hc : c.get? path = some p) :
    (package source path).run c = (.ok p, c) := by
  simp only [package, ExceptT.run_mk, hc]

theorem run_package_of_error {e : StubFault} (hc : c.get? path = none)
    (he : source path = .error e) : (package source path).run c = (.error e, c) := by
  simp only [package, ExceptT.run_mk, hc, he]

theorem run_package_of_ok (hc : c.get? path = none) (hp : source path = .ok p) :
    (package source path).run c = (.ok p, (c.insert path p).insert p.importPath p) := by
  simp only [package, ExceptT.run_mk, hc, hp]

theorem Agrees.insert (hc : Agrees source c) (hp : source path = .ok p) :
    Agrees source (c.insert path p) := by
  intro path' p' h
  rw [Dict.get?_insert] at h
  split at h
  next heq =>
    cases h
    rw [heq, hp]
  next => exact hc path' p' h

/-- Packages of the source come out as the source gives them, loaded before or not. -/
theorem fst_run_package (hc : Agrees source c) (path : String) :
    ((package source path).run c).1 = source path := by
  cases hcached : c.get? path with
  | some p => rw [run_package_of_cached hcached, hc path p hcached]
  | none =>
    cases hp : source path with
    | error e => rw [run_package_of_error hcached hp]
    | ok p => rw [run_package_of_ok hcached hp]

theorem steady_package (hs : source.Consistent) (path : String) :
    Steady source (package source path) := by
  refine ⟨source path, fun c hc => ⟨fst_run_package hc path, ?_⟩⟩
  cases hcached : c.get? path with
  | some p =>
    rw [run_package_of_cached hcached]
    exact hc
  | none =>
    cases hp : source path with
    | error e =>
      rw [run_package_of_error hcached hp]
      exact hc
    | ok p =>
      rw [run_package_of_ok hcached hp]
      exact (hc.insert hp).insert (hs path p hp)

/-- With a consistent source look-ups are steady. -/
theorem compositional_steady (hs : source.Consistent) :
    Compositional source site fun _ x => Steady source x where
  ofExcept _ := steady_ofExcept _
  bind hx hf := hx.bind hf
  package := steady_package hs

end Lookup

namespace Lookup.Compositional

variable {source : Source} {site : Site} {K : (α : Type) → Lookup α → Prop} {α : Type}

theorem holds_pure (hk : Compositional source site K) (a : α) : K α (pure a) :=
  hk.ofExcept (failsAt_ok a)

theorem holds_fault (hk : Compositional source site K) (obstacle : Obstacle) :
    K α (fail (site.fault obstacle)) :=
  hk.ofExcept (failsAt_error (.fault obstacle))

theorem holds_missing (hk : Compositional source site K) (package name : String) :
    K α (fail (.missing package name)) :=
  hk.ofExcept (failsAt_error (.missing package name))

theorem holds_packageAt (hk : Compositional source site K) (path : String) :
    K _ (packageAt source site path) := by
  unfold packageAt
  split
  · exact hk.holds_pure _
  · exact hk.package path

theorem holds_interfaceBehind (hk : Compositional source site K) (depth : Nat)
    (package : PackageScope) (name : String) (args : List GoType) :
    K _ (interfaceBehind source site depth package name args) := by
  induction depth generalizing package name args with
  | zero => exact hk.holds_fault _
  | succ depth ih =>
    unfold interfaceBehind
    split
    · exact hk.holds_missing _ _
    · split
      · exact hk.holds_pure _
      · split
        · exact hk.bind (hk.holds_packageAt _) fun _ => ih _ _ _
        · exact hk.holds_pure _
      · exact hk.holds_pure _

theorem holds_addEmbedded (hk : Compositional source site K)
    {inner : PackageScope → InterfaceBody → Lookup InterfaceBody}
    (hinner : ∀ owner body, K _ (inner owner body)) (owner : PackageScope)
    (types : List GoType) (s : MethodSet) :
    K _ (addEmbedded source site inner owner types s) := by
  induction types generalizing s with
  | nil => exact hk.holds_pure s
  | cons type rest ih =>
    cases type with
    | builtin name => exact ih _
    | named package name args =>
      have hfound (declaring : PackageScope) :
          K _ (interfaceBehind source site stepLimit declaring name args) :=
        hk.holds_interfaceBehind stepLimit declaring name args
      rw [addEmbedded]
      split
      all_goals
        refine hk.bind ?_ fun declaring => hk.bind (hfound declaring) fun found => ?_
      · exact hk.holds_pure owner
      · cases found with
        | none => exact ih _
        | some found =>
          exact hk.bind (hk.holds_packageAt _) fun _ => hk.bind (hinner _ _) fun _ => ih _
      · exact hk.holds_packageAt package
      · cases found with
        | none => exact ih _
        | some found =>
          exact hk.bind (hk.holds_packageAt _) fun _ => hk.bind (hinner _ _) fun _ => ih _
    | _ => exact ih _

theorem holds_methodSet (hk : Compositional source site K) (depth : Nat) (owner : PackageScope)
    (body : InterfaceBody) : K _ (methodSet source site depth owner body) := by
  induction depth generalizing owner body with
  | zero => exact hk.holds_fault _
  | succ depth ih => exact hk.bind (hk.holds_addEmbedded ih owner _ _) fun s => hk.holds_pure _

theorem holds_constantKind (hk : Compositional source site K) (depth : Nat) (type : GoType) :
    K _ (constantKind source site depth type) := by
  induction depth generalizing type with
  | zero => exact hk.holds_fault _
  | succ depth ih =>
    unfold constantKind
    split
    · split
      · exact hk.holds_pure _
      · exact hk.holds_fault _
    · refine hk.bind (hk.holds_packageAt _) fun owner => ?_
      split
      · exact hk.holds_missing _ _
      · exact ih _
    · exact hk.holds_fault _

theorem holds_conversionTarget (hk : Compositional source site K) (package : PackageScope)
    (callee : CallTarget) : K _ (conversionTarget source site package callee) := by
  cases callee with
  | conversion type => exact hk.holds_pure _
  | own name => exact hk.holds_pure _
  | foreign path name => exact hk.bind (hk.holds_packageAt path) fun owner => hk.holds_pure _

theorem holds_constantType (hk : Compositional source site K) (depth : Nat) (package : PackageScope)
    (decl : ValueBinding) : K _ (constantType source site depth package decl) := by
  induction depth generalizing package decl with
  | zero => exact hk.holds_fault _
  | succ depth ih =>
    unfold constantType
    split
    · exact hk.bind (hk.holds_constantKind _ _) fun _ => hk.holds_pure _
    · exact hk.holds_pure _
    · split
      · exact hk.holds_fault _
      · exact ih _ _
    · refine hk.bind (hk.holds_packageAt _) fun owner => ?_
      split
      · exact hk.holds_missing _ _
      · exact ih _ _
    · refine hk.bind (hk.holds_conversionTarget _ _) fun type => ?_
      split
      · exact hk.holds_fault _
      · exact hk.bind (hk.holds_constantKind _ _) fun _ => hk.holds_pure _
    · exact hk.holds_fault _

theorem holds_calledFunction (hk : Compositional source site K) (package : PackageScope)
    (callee : CallTarget) : K _ (calledFunction source site package callee) := by
  cases callee with
  | conversion type => exact hk.holds_pure _
  | own name => exact hk.holds_pure _
  | foreign path name => exact hk.bind (hk.holds_packageAt path) fun owner => hk.holds_pure _

theorem holds_resultType (hk : Compositional source site K) (package : PackageScope) (name : String)
    (callee : CallTarget) (index : Nat) :
    K _ (resultType source site package name callee index) := by
  unfold resultType
  split
  · exact hk.holds_pure _
  · refine hk.bind (hk.holds_conversionTarget package callee) fun type => ?_
    split
    · exact hk.holds_pure _
    · refine hk.bind (hk.holds_calledFunction package callee) fun function => ?_
      split
      · exact hk.holds_fault _
      · split
        · exact hk.holds_fault _
        · split
          · exact hk.holds_pure _
          · exact hk.holds_fault _

theorem holds_variableType (hk : Compositional source site K) (depth : Nat) (package : PackageScope)
    (decl : ValueBinding) : K _ (variableType source site depth package decl) := by
  induction depth generalizing package decl with
  | zero => exact hk.holds_fault _
  | succ depth ih =>
    have hfollow (owner : PackageScope) (next : ValueBinding) : K _
        (if next.constant then return variableTypeOf (← constantType source site depth owner next)
        else variableType source site depth owner next) := by
      split
      · exact hk.bind (hk.holds_constantType _ _ _) fun _ => hk.holds_pure _
      · exact ih _ _
    unfold variableType
    split
    · exact hk.holds_pure _
    · exact hk.holds_pure _
    · exact hk.holds_pure _
    · exact hk.holds_pure _
    · split
      · exact hk.holds_fault _
      · exact hfollow _ _
    · refine hk.bind (hk.holds_packageAt _) fun owner => ?_
      split
      · exact hk.holds_missing _ _
      · exact hfollow _ _
    · exact hk.holds_resultType _ _ _ _
    · exact hk.holds_fault _
    · exact hk.holds_fault _

end Lookup.Compositional

open Lookup

variable {source : Source} {site : Site}

theorem steady_packageAt (hs : source.Consistent) (path : String) :
    Steady source (packageAt source site path) :=
  (compositional_steady hs).holds_packageAt path

theorem steady_interfaceBehind (hs : source.Consistent) (depth : Nat) (package : PackageScope)
    (name : String) (args : List GoType) :
    Steady source (interfaceBehind source site depth package name args) :=
  (compositional_steady hs).holds_interfaceBehind depth package name args

theorem steady_methodSet (hs : source.Consistent) (depth : Nat) (owner : PackageScope)
    (body : InterfaceBody) : Steady source (methodSet source site depth owner body) :=
  (compositional_steady hs).holds_methodSet depth owner body

theorem steady_conversionTarget (hs : source.Consistent) (package : PackageScope)
    (callee : CallTarget) : Steady source (conversionTarget source site package callee) :=
  (compositional_steady hs).holds_conversionTarget package callee

end GoStub
