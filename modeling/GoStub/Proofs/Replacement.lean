import GoStub.Package.Reading
import GoStub.Proofs.MethodSet
import GoStub.Proofs.Need
import GoStub.Proofs.Settle
import GoStub.Proofs.Substitution

/-! Another package in the place of one. Look-ups through named types see of a type only its head,
so they come to the same if the types on their way are declared again with the same heads; and the
packages that do not lead back to the replaced one are as they were. -/

namespace GoStub

/-- What a look-up through named types sees of a type. -/
inductive TypeHead
  | builtin (name : String)
  | named (package name : String)
  | interface
  | param
  | other
  deriving DecidableEq

namespace GoType

def head : GoType → TypeHead
  | .builtin name => .builtin name
  | .named package name _ => .named package name
  | .interface _ => .interface
  | .param _ => .param
  | _ => .other

theorem head_substitute {t : GoType} (h : t.head ≠ .param) (s : Substitution) :
    (t.substitute s).head = t.head := by
  have ht (name : String) : t ≠ .param name := by
    rintro rfl
    exact h rfl
  rw [substitute_eq_mapParts ht]
  cases t <;> rfl

theorem head_settle {site : Site} {t t' : GoType} (h : t.settle site = .ok t') :
    t'.head = t.head := by
  rw [eq_mapLengths_of_settle h]
  cases t <;> rw [mapLengths] <;> rfl

theorem eq_named_of_head {t : GoType} {package name : String} (h : t.head = .named package name) :
    ∃ args, t = .named package name args := by
  cases t with
  | named package' name' args =>
    cases h
    exact ⟨args, rfl⟩
  | _ => cases h

theorem usesPackage_of_head {t : GoType} {package name : String}
    (h : t.head = .named package name) : t.UsesPackage package := by
  obtain ⟨args, rfl⟩ := eq_named_of_head h
  exact ⟨_, .here, exists_names_iff.mpr (Or.inl ⟨name, args, rfl⟩)⟩

end GoType

namespace Lookup

variable {α β : Type} {source : Source} {site : Site}

/-- Whatever packages of the source are loaded before, the look-up succeeds with `a`. -/
def Returns (source : Source) (x : Lookup α) (a : α) : Prop :=
  ∀ c, Agrees source c → ∃ c', x.Yields c a c' ∧ Agrees source c'

theorem returns_pure (a : α) : Returns source (pure a : Lookup α) a :=
  fun c hc => ⟨c, yields_pure.mpr ⟨rfl, rfl⟩, hc⟩

theorem returns_ofExcept {e : Except StubFault α} {a : α} (h : e = .ok a) :
    Returns source (ofExcept e) a :=
  fun c hc => ⟨c, yields_ofExcept.mpr ⟨h, rfl⟩, hc⟩

theorem Returns.bind {x : Lookup α} {f : α → Lookup β} {a : α} {b : β} (hx : Returns source x a)
    (hf : Returns source (f a) b) : Returns source (x >>= f) b := by
  intro c hc
  obtain ⟨c₁, hy₁, hc₁⟩ := hx c hc
  obtain ⟨c₂, hy₂, hc₂⟩ := hf c₁ hc₁
  exact ⟨c₂, yields_bind.mpr ⟨a, c₁, hy₁, hy₂⟩, hc₂⟩

theorem returns_package (hs : source.Consistent) {path : String} {p : PackageScope}
    (h : source path = .ok p) : Returns source (package source path) p := by
  intro c hc
  have hfst := (fst_run_package hc path).trans h
  have hy : (package source path).Yields c p ((package source path).run c).2 := Prod.ext hfst rfl
  exact ⟨_, hy, (steady_package hs path).agrees hc hy⟩

theorem returns_packageAt (hs : source.Consistent) {path : String} {p : PackageScope}
    (h : site.packageOf source path = .ok p) : Returns source (packageAt source site path) p := by
  unfold Site.packageOf at h
  unfold packageAt
  split
  next hown =>
    rw [if_pos hown] at h
    cases h
    exact returns_pure _
  next hown =>
    rw [if_neg hown] at h
    exact returns_package hs h

end Lookup

open Lookup

section Behind

variable {source : Source} {site : Site} {depth : Nat} {q : PackageScope} {name : String}
  {args : List GoType} {decl : TypeDecl} {c c' : Cache}

/-- A type that no interface is behind is not declared as one; if it is an alias of a named type,
none is behind that either. -/
theorem behind_none_step
    (hparam : ∀ decl, q.types.get? name = some decl → decl.type.head ≠ .param)
    (h : (interfaceBehind source site (depth + 1) q name args).Yields c none c') :
    ∃ decl, q.types.get? name = some decl ∧ decl.type.head ≠ .interface ∧
      ∀ next nextName, decl.isAlias = true → decl.type.head = .named next nextName →
        ∃ nextArgs nextPackage c₁, (packageAt source site next).Yields c nextPackage c₁ ∧
          (interfaceBehind source site depth nextPackage nextName nextArgs).Yields c₁ none c' := by
  unfold interfaceBehind at h
  split at h
  · exact absurd h not_yields_fail
  next decl hdecl =>
    have hhead := GoType.head_substitute (hparam decl hdecl) (.ofParams decl.params args)
    refine ⟨decl, hdecl, ?_⟩
    split at h
    next body hbody => cases (yields_pure.mp h).1
    next next nextName nextArgs hnext =>
      rw [hnext] at hhead
      refine ⟨fun hface => (by cases hhead.trans hface), fun next' nextName' ha hnext' => ?_⟩
      cases hhead.trans hnext'
      rw [if_pos ha] at h
      obtain ⟨nextPackage, c₁, hpackage, h⟩ := yields_bind.mp h
      exact ⟨nextArgs, nextPackage, c₁, hpackage, h⟩
    next hface hnamed =>
      rw [← hhead]
      constructor
      · intro hinterface
        cases ht : decl.type.substitute (.ofParams decl.params args) with
        | interface body => exact hface body ht
        | _ => simp [ht, GoType.head] at hinterface
      · intro next nextName _ hnext
        obtain ⟨nextArgs, ht⟩ := GoType.eq_named_of_head hnext
        exact absurd ht (hnamed next nextName nextArgs)

theorem returns_behind_none (hdecl : q.types.get? name = some decl)
    (hparam : decl.type.head ≠ .param) (hface : decl.type.head ≠ .interface)
    (hnext : ∀ next nextName, decl.isAlias = true → decl.type.head = .named next nextName →
      ∀ nextArgs, ∃ nextPackage, Returns source (packageAt source site next) nextPackage ∧
        Returns source (interfaceBehind source site depth nextPackage nextName nextArgs) none) :
    Returns source (interfaceBehind source site (depth + 1) q name args) none := by
  unfold interfaceBehind
  simp only [hdecl]
  have hhead := GoType.head_substitute hparam (.ofParams decl.params args)
  split
  next body hbody =>
    rw [hbody] at hhead
    exact absurd hhead.symm hface
  next next nextName nextArgs ht =>
    rw [ht] at hhead
    split
    next ha =>
      obtain ⟨nextPackage, hpackage, hbehind⟩ := hnext next nextName ha hhead.symm nextArgs
      exact hpackage.bind hbehind
    next => exact returns_pure none
  next => exact returns_pure none

end Behind

variable {source source' : Source} {site site' : Site} {Kept : String → String → Prop}

/-- The types that are kept are declared again when the source and the target have changed: with
the same heads, and leading to kept types only. -/
def Redeclared (source : Source) (site : Site) (source' : Source) (site' : Site)
    (Kept : String → String → Prop) : Prop :=
  ∀ path name q decl, Kept path name → site.packageOf source path = .ok q →
    q.types.get? name = some decl →
      decl.type.head ≠ .param ∧
      (∀ next nextName, decl.type.head = .named next nextName → Kept next nextName) ∧
      ∃ q' decl', site'.packageOf source' path = .ok q' ∧ q'.types.get? name = some decl' ∧
        decl'.isAlias = decl.isAlias ∧ decl'.type.head = decl.type.head

namespace Redeclared

theorem returns_constantKind (h : Redeclared source site source' site' Kept)
    (hs : source.Consistent) (hs' : source'.Consistent) {depth : Nat} {type type' : GoType} {kind : ConstantKind}
    {c c' : Cache} (hhead : type'.head = type.head)
    (hkept : ∀ path name, type.head = .named path name → Kept path name) (hc : Agrees source c)
    (hy : (constantKind source site depth type).Yields c kind c') :
    Returns source' (constantKind source' site' depth type') kind := by
  induction depth generalizing type type' c with
  | zero => exact absurd hy not_yields_fail
  | succ depth ih =>
    unfold constantKind at hy
    split at hy
    next name =>
      cases type' with
      | builtin name' =>
        cases hhead
        unfold constantKind
        dsimp only at hy ⊢
        split at hy
        next kind' hkind =>
          obtain ⟨rfl, -⟩ := yields_pure.mp hy
          exact returns_pure kind'
        next => exact absurd hy not_yields_fail
      | _ => cases hhead
    next path name args =>
      obtain ⟨args', rfl⟩ := GoType.eq_named_of_head hhead
      obtain ⟨owner, c₁, howner, hy⟩ := yields_bind.mp hy
      split at hy
      · exact absurd hy not_yields_fail
      next decl hdecl =>
        obtain ⟨-, hnext, owner', decl', howner', hdecl', -, hhead'⟩ := h path name owner decl
          (hkept path name rfl) (Site.packageOf_of_packageAt hc howner) hdecl
        refine (returns_packageAt hs' howner').bind ?_
        simp only [hdecl']
        exact ih hhead' hnext ((steady_packageAt hs path).agrees hc howner) hy
    next => exact absurd hy not_yields_fail

theorem returns_behind (h : Redeclared source site source' site' Kept) (hs : source.Consistent)
    (hs' : source'.Consistent) {depth : Nat} {path name : String} {q : PackageScope}
    {args : List GoType} {c c' : Cache} (hkept : Kept path name)
    (hq : site.packageOf source path = .ok q) (hc : Agrees source c)
    (hy : (interfaceBehind source site depth q name args).Yields c none c') :
    ∃ q', site'.packageOf source' path = .ok q' ∧
      ∀ args', Returns source' (interfaceBehind source' site' depth q' name args') none := by
  induction depth generalizing path name q args c with
  | zero => exact absurd hy not_yields_fail
  | succ depth ih =>
    obtain ⟨decl, hdecl, hface, hnone⟩ :=
      behind_none_step (fun decl hd => (h path name q decl hkept hq hd).1) hy
    obtain ⟨hparam, hnext, q', decl', hq', hdecl', halias, hhead⟩ :=
      h path name q decl hkept hq hdecl
    refine ⟨q', hq', fun args' => returns_behind_none hdecl' (hhead ▸ hparam) (hhead ▸ hface) ?_⟩
    intro next nextName ha hnamed nextArgs'
    rw [halias] at ha
    rw [hhead] at hnamed
    obtain ⟨nextArgs, nextPackage, c₁, hpackage, hbehind⟩ := hnone next nextName ha hnamed
    obtain ⟨p', hp', hreturns⟩ := ih (hnext next nextName hnamed)
      (Site.packageOf_of_packageAt hc hpackage) ((steady_packageAt hs next).agrees hc hpackage)
      hbehind
    exact ⟨p', returns_packageAt hs' hp', hreturns nextArgs'⟩

end Redeclared

namespace Source

/-- The source with `s` for every package that says it is `own`. -/
def replacing (source : Source) (own : String) (s : PackageScope) : Source := fun path =>
  (source path).map fun p => if p.importPath = own then s else p

/-- The package at a path is `own`, or its types mention a package that leads to it. -/
inductive Leads (source : Source) (own : String) : String → Prop
  | here {path : String} {p : PackageScope} (h : source path = .ok p) (hp : p.importPath = own) :
      Leads source own path
  | through {path name next : String} {p : PackageScope} {decl : TypeDecl}
      (h : source path = .ok p) (hd : p.types.get? name = some decl)
      (hn : decl.type.UsesPackage next) (hl : Leads source own next) : Leads source own path

variable {own path : String} {p s : PackageScope}

theorem replacing_own (h : source path = .ok p) (hp : p.importPath = own) :
    source.replacing own s path = .ok s := by
  simp [replacing, h, hp, Except.map]

theorem replacing_other (h : source path = .ok p) (hp : p.importPath ≠ own) :
    source.replacing own s path = .ok p := by
  simp [replacing, h, hp, Except.map]

theorem Consistent.replacing (hs : source.Consistent) (hown : s.importPath = own) :
    (source.replacing own s).Consistent := by
  intro path q hq
  cases hp : source path with
  | error e =>
    rw [Source.replacing, hp] at hq
    cases hq
  | ok p =>
    have hagain := hs path p hp
    by_cases himport : p.importPath = own
    · cases (replacing_own hp himport).symm.trans hq
      rw [hown]
      exact replacing_own (himport ▸ hagain) himport
    · cases (replacing_other hp himport).symm.trans hq
      exact replacing_other hagain himport

end Source

section Sifting

/-- Every element of these that could be embedded is a named type behind which no interface was
found. -/
def Sifted (source : Source) (site : Site) (typeSets : List GoType) : Prop :=
  ∀ t ∈ typeSets, t.isEmbeddable = true → t.FoundPlain source site

/-- Whether a type may be declared so: not as a bare type parameter, nor as an interface with an
element of its type sets that is one, or that could be embedded instead. -/
def GoType.isRegular : GoType → Bool
  | .param _ => false
  | .interface body => body.typeSets.all fun t => !t.isEmbeddable && t.head != .param
  | _ => true

/-- Every type is declared so. -/
def PackageScope.Regular (p : PackageScope) : Prop :=
  ∀ name decl, p.types.get? name = some decl → decl.type.isRegular = true

namespace PackageScope.Regular

variable {p : PackageScope} {name : String} {decl : TypeDecl}

theorem types (h : p.Regular) (hd : p.types.get? name = some decl) : decl.type.head ≠ .param := by
  have hregular := h name decl hd
  intro hhead
  cases hdecl : decl.type with
  | param n => simp [hdecl, GoType.isRegular] at hregular
  | _ => simp [hdecl, GoType.head] at hhead

theorem typeSets (h : p.Regular) (hd : p.types.get? name = some decl) {body : InterfaceBody}
    (hbody : decl.type = .interface body) {t : GoType} (ht : t ∈ body.typeSets) :
    t.isEmbeddable = false ∧ t.head ≠ .param := by
  have hregular := h name decl hd
  rw [hbody, GoType.isRegular, List.all_eq_true] at hregular
  simpa using hregular t ht

end PackageScope.Regular

instance (p : PackageScope) : Decidable p.Regular :=
  decidable_of_iff (∀ name ∈ p.types.keys, (p.types.get? name).all (·.type.isRegular) = true) <| by
    constructor
    · intro h name decl hdecl
      have hkey : name ∈ p.types.keys := Dict.mem_keys_iff.mpr (Dict.contains_iff.mpr ⟨decl, hdecl⟩)
      simpa [hdecl] using h name hkey
    · intro h name hkey
      obtain ⟨decl, hdecl⟩ := Dict.contains_iff.mp (Dict.mem_keys_iff.mp hkey)
      rw [hdecl, Option.all_some, h name decl hdecl]

theorem GoType.isEmbeddable_of_head {t u : GoType} (h : t.head = u.head) :
    t.isEmbeddable = u.isEmbeddable := by
  cases t <;> cases u <;> cases h <;> rfl

theorem sifted_of_unembeddable {typeSets : List GoType}
    (h : ∀ t ∈ typeSets, t.isEmbeddable = false) : Sifted source site typeSets := by
  intro t ht hembeddable
  simp [h t ht] at hembeddable

/-- The type sets of an interface that a name denotes have nothing that could be embedded. -/
theorem Denotes.unembeddable (hregular : ∀ path p, site.packageOf source path = .ok p → p.Regular)
    {t : GoType} {body : InterfaceBody} (h : Denotes source site t body) :
    ∀ u ∈ body.typeSets, u.isEmbeddable = false := by
  induction h with
  | @literal package name args p decl body hp hd ht =>
    have hr := hregular package p hp
    cases htype : decl.type with
    | interface b =>
      rw [htype, GoType.substitute_interface] at ht
      cases ht
      obtain ⟨methods, embedded, typeSets⟩ := b
      intro u hu
      simp only [InterfaceBody.substitute, substituteAll_eq, List.mem_map] at hu
      obtain ⟨v, hv, rfl⟩ := hu
      obtain ⟨hv₁, hv₂⟩ := hr.typeSets hd htype hv
      rw [GoType.isEmbeddable_of_head (GoType.head_substitute hv₂ _), hv₁]
    | param n => exact absurd (by rw [htype]; rfl) (hr.types hd)
    | _ =>
      rw [htype, GoType.substitute_eq_mapParts (by simp)] at ht
      cases ht
  | viaAlias hp hd ha ht h ih => exact ih

variable {inner : PackageScope → InterfaceBody → Lookup InterfaceBody} {owner : PackageScope}
  {c c' : Cache}

/-- An element keeps the type sets sifted if those of the interfaces it may denote are. -/
theorem Sifted.adds {s s' : MethodSet} {t : GoType}
    (hregular : ∀ path p, site.packageOf source path = .ok p → p.Regular)
    (hinner : ∀ owner body c flat c', site.packageOf source owner.importPath = .ok owner →
      Agrees source c → (∀ t ∈ body.typeSets, t.isEmbeddable = false) →
      (inner owner body).Yields c flat c' → Sifted source site flat.typeSets)
    (h : Sifted source site s.typeSets) (hadds : Adds source site inner s t s') :
    Sifted source site s'.typeSets := by
  cases hadds with
  | error | any => exact h
  | other ht hplain =>
    intro u hu hembeddable
    rcases List.mem_append.mp hu with hu | hu
    · exact h u hu hembeddable
    · obtain rfl := List.mem_singleton.mp hu
      cases u with
      | named path name args => exact hplain path name args rfl
      | builtin name =>
        -- only `error` and `any` could be embedded, and these are interfaces
        refine absurd ?_ ht
        simpa [GoType.isEmbeddable, GoType.IsInterface, not_denotes_builtin] using hembeddable
      | _ => simp [GoType.isEmbeddable] at hembeddable
  | interface ht howner hc hnested =>
    have hflat := hinner _ _ _ _ _ howner hc (ht.unembeddable hregular) hnested
    intro u hu
    rcases List.mem_append.mp hu with hu | hu
    · exact h u hu
    · exact hflat u hu

/-- In a method set, an element of the type sets that could be embedded was found to be no
interface. -/
theorem sifted_of_methodSet (hs : source.Consistent)
    (hregular : ∀ path p, site.packageOf source path = .ok p → p.Regular) {depth : Nat}
    (howner : site.packageOf source owner.importPath = .ok owner) {body flat : InterfaceBody}
    (hc : Agrees source c) (hbody : ∀ t ∈ body.typeSets, t.isEmbeddable = false)
    (h : (methodSet source site depth owner body).Yields c flat c') :
    Sifted source site flat.typeSets := by
  induction depth generalizing owner body flat c c' with
  | zero => exact absurd h not_yields_fail
  | succ depth ih =>
    obtain ⟨s, c₁, hgathered, h⟩ := yields_bind.mp h
    obtain ⟨rfl, -⟩ := yields_pure.mp h
    exact addEmbedded_induction (P := fun _ s => Sifted source site s.typeSets) hs
      (steady_methodSet hs depth) howner
      (fun _ _ _ _ h hadds => h.adds hregular (fun _ _ _ _ _ ho hc hb h => ih ho hc hb h) hadds) hc
      (sifted_of_unembeddable hbody) hgathered

end Sifting

end GoStub
