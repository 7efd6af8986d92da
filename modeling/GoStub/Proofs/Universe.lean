import GoStub.Proofs.Lookup
import GoStub.Proofs.Settle
import GoStub.Proofs.Shape
import GoStub.Proofs.Substitution

/-! Universes of packages in which declarations mention only their own type parameters and give
every generic type as many arguments as it has parameters. Look-ups stay in the universe, and an
interface that is written out across its packages keeps to one binder. -/

namespace GoStub

/-- Which packages may be found under which path. What is found is also found under the path it says
it has. -/
structure Universe where
  Finds : String → PackageScope → Prop
  own : ∀ {path : String} {p : PackageScope}, Finds path p → Finds p.importPath p

/-- The names that a list of type parameters binds. -/
def typeParamNames (params : List TypeParam) : List String :=
  params.map (·.name)

variable {u : Universe} {bound bound' : List String} {source : Source} {site : Site}

namespace GoType

/-- Every type parameter that occurs is bound. -/
def ParamsIn (bound : List String) (t : GoType) : Prop :=
  ∀ name, (param name).Occurs t → name ∈ bound

/-- A parameter is bound; a generic type has as many arguments as it has parameters, whichever
package its path leads to. -/
def FitsHere (u : Universe) (bound : List String) : GoType → Prop
  | .param name => name ∈ bound
  | .named package name args =>
    ∀ p decl, u.Finds package p → p.types.get? name = some decl → args.length = decl.params.length
  | _ => True

def Fits (u : Universe) (bound : List String) (t : GoType) : Prop :=
  ∀ v : GoType, v.Occurs t → v.FitsHere u bound

variable {t t' : GoType}

theorem Fits.paramsIn (h : t.Fits u bound) : t.ParamsIn bound :=
  fun name hn => h (.param name) hn

theorem Fits.part {part : GoType} (h : t.Fits u bound) (hp : part ∈ t.parts) : part.Fits u bound :=
  fun v hv => h v (.inside hp hv)

theorem fits_builtin (name : String) : (builtin name).Fits u bound := by
  intro v hv
  rcases occurs_iff.mp hv with rfl | ⟨part, hp, -⟩
  · trivial
  · cases hp

theorem paramsIn_plain (package name : String) : (plain package name).ParamsIn bound := by
  intro n hn
  rcases occurs_iff.mp hn with h | ⟨part, hp, -⟩
  · cases h
  · cases hp

theorem ParamsIn.pointer (h : t.ParamsIn bound) : (pointer t).ParamsIn bound := by
  intro n hn
  rcases occurs_iff.mp hn with h' | ⟨part, hp, hpart⟩
  · cases h'
  · obtain rfl := List.mem_singleton.mp hp
    exact h n hpart

/-- Parameters that are all replaced leave only those of what they are replaced by. -/
theorem Fits.substitute {s : Substitution} (h : t.Fits u bound)
    (hs : ∀ name ∈ bound, ∃ image, s.get? name = some image ∧ image.Fits u bound') :
    (t.substitute s).Fits u bound' := by
  intro v hv
  rcases occurs_substitute hv with ⟨w, hw, rfl⟩ | ⟨m, image, hm, himage, hv⟩
  · cases w with
    | param m =>
      obtain ⟨image, himage, hfits⟩ := hs m (h _ hw)
      rw [substitute_param, himage]
      exact hfits image .here
    | named package name args =>
      rw [substitute_named]
      intro p decl hp hd
      rw [List.length_map]
      exact h _ hw p decl hp hd
    | _ =>
      rw [substitute_eq_mapParts (by simp)]
      trivial
  · obtain ⟨image', himage', hfits⟩ := hs m (h _ hm)
    cases himage.symm.trans himage'
    exact hfits v hv

theorem ParamsIn.settle (h : t.ParamsIn bound) (hs : t.settle site = .ok t') :
    t'.ParamsIn bound := by
  induction t using inductionOnParts generalizing t' with
  | step t ih =>
    obtain ⟨-, hparts⟩ := settle_step hs
    intro name hn
    rcases occurs_iff.mp hn with rfl | ⟨part', hp', hn⟩
    · -- only a parameter settles to a parameter
      have hkept : t.mapLengths site.target.inlineLength = .param name :=
        (eq_mapLengths_of_settle hs).symm
      cases t with
      | param m =>
        rw [mapLengths] at hkept
        cases hkept
        exact h name .here
      | _ => simp [mapLengths] at hkept
    · obtain ⟨part, hp, hpart⟩ := exists_of_forall₂ hparts hp'
      exact ih part hp (fun n hn => h n (.inside hp hn)) hpart name hn

theorem paramsIn_of_forall₂ {ts ts' : List GoType} (h : ∀ t ∈ ts, t.ParamsIn bound)
    (hs : List.Forall₂ (fun t t' => t.settle site = .ok t') ts ts') :
    ∀ t' ∈ ts', t'.ParamsIn bound := by
  intro t' ht'
  obtain ⟨t, ht, hsettle⟩ := exists_of_forall₂ hs ht'
  exact (h t ht).settle hsettle

end GoType

namespace Substitution

variable {params : List TypeParam} {args : List GoType}

/-- With as many arguments as parameters every parameter has one. -/
theorem exists_get?_ofParams (hlen : args.length = params.length) {name : String}
    (hn : name ∈ typeParamNames params) :
    ∃ image, (ofParams params args).get? name = some image ∧ image ∈ args := by
  have hfst : ((typeParamNames params).zip args).map (·.1) = typeParamNames params :=
    List.map_fst_zip (by simp [typeParamNames, hlen])
  rw [← hfst] at hn
  obtain ⟨⟨n, arg⟩, hmem, rfl⟩ := List.mem_map.mp hn
  obtain ⟨image, himage⟩ := Dict.contains_iff.mp (Dict.contains_ofList.mpr ⟨arg, hmem⟩)
  exact ⟨image, himage, (List.of_mem_zip (Dict.mem_of_get?_ofList himage)).2⟩

end Substitution

/-- The types in an initializer. -/
def Initializer.types : Initializer → List GoType
  | .composite type => [type]
  | .addressOf type => [type]
  | .call (.conversion type) _ => [type]
  | _ => []

def ValueBinding.types (decl : ValueBinding) : List GoType :=
  decl.type.toList ++ decl.init.toList.flatMap (·.types)

/-- The declarations of a package mention only type parameters of their own, methods those of their
receiver, and its types use generic types as they are declared. -/
structure PackageScope.Scoped (u : Universe) (p : PackageScope) : Prop where
  types : ∀ {name decl}, p.types.get? name = some decl →
    decl.type.Fits u (typeParamNames decl.params) ∧
      ∀ t ∈ constraintTypes decl.params, t.ParamsIn (typeParamNames decl.params)
  funcs : ∀ {name decl}, p.funcs.get? name = some decl →
    ∀ t ∈ constraintTypes decl.params ++ decl.signature.types,
      t.ParamsIn (typeParamNames decl.params)
  methods : ∀ type, ∀ m ∈ p.methodsOf type, ∀ t ∈ m.signature.types, t.ParamsIn m.receiverParams
  values : ∀ {name decl}, p.values.get? name = some decl → ∀ t ∈ decl.types, t.ParamsIn []

/-- The packages in `c` are of the universe. -/
def Universe.Holds (u : Universe) (c : Cache) : Prop :=
  ∀ path p, c.get? path = some p → u.Finds path p

/-- The universe has what the source gives. -/
def Universe.Covers (u : Universe) (source : Source) : Prop :=
  ∀ path p, source path = .ok p → u.Finds path p

/-- The universe has what the source gives, and all its packages are well scoped. -/
structure Universe.Sound (u : Universe) (source : Source) : Prop where
  loaded : ∀ {path p}, source path = .ok p → u.Finds path p
  wellScoped : ∀ {path p}, u.Finds path p → p.Scoped u

theorem Universe.Sound.covers (hu : u.Sound source) : u.Covers source :=
  fun _ _ h => hu.loaded h

namespace Lookup

variable {α β : Type} {x : Lookup α} {Q : α → Prop} {R : β → Prop}

/-- The look-up loads packages of the universe only, and what it gives has the property `Q`. -/
def Ensures (u : Universe) (x : Lookup α) (Q : α → Prop) : Prop :=
  ∀ ⦃c a c'⦄, u.Holds c → x.Yields c a c' → u.Holds c' ∧ Q a

theorem ensures_pure {a : α} (h : Q a) : Ensures u (pure a) Q := by
  intro c a' c' hc hy
  obtain ⟨rfl, rfl⟩ := yields_pure.mp hy
  exact ⟨hc, h⟩

theorem ensures_fail (e : StubFault) : Ensures u (fail e) Q :=
  fun _ _ _ _ hy => absurd hy not_yields_fail

theorem ensures_ofExcept {e : Except StubFault α} (h : ∀ a, e = .ok a → Q a) :
    Ensures u (ofExcept e) Q := by
  intro c a c' hc hy
  obtain ⟨he, rfl⟩ := yields_ofExcept.mp hy
  exact ⟨hc, h a he⟩

theorem Ensures.bind {f : α → Lookup β} (hx : Ensures u x Q)
    (hf : ∀ a, Q a → Ensures u (f a) R) : Ensures u (x >>= f) R := by
  intro c b c' hc hy
  obtain ⟨a, c₁, ha, hb⟩ := yields_bind.mp hy
  obtain ⟨hc₁, hq⟩ := hx hc ha
  exact hf a hq hc₁ hb

theorem Ensures.mono {Q' : α → Prop} (hx : Ensures u x Q) (hq : ∀ a, Q a → Q' a) :
    Ensures u x Q' := by
  intro c a c' hc hy
  obtain ⟨hc', ha⟩ := hx hc hy
  exact ⟨hc', hq a ha⟩

/-- Two ways of getting the same kind of value, and one way to go on from it. -/
theorem ensures_ite_bind {p : Prop} [Decidable p] {y : Lookup α} {f : α → Lookup β}
    (hx : p → Ensures u x Q) (hy : ¬p → Ensures u y Q) (hf : ∀ a, Q a → Ensures u (f a) R) :
    Ensures u (if p then x >>= f else y >>= f) R := by
  split
  next h => exact (hx h).bind hf
  next h => exact (hy h).bind hf

end Lookup

open Lookup

theorem Universe.Covers.ensures_package (hu : u.Covers source) (path : String) :
    Ensures u (package source path) (u.Finds path) := by
  intro c p c' hc hy
  unfold Yields at hy
  cases hcached : c.get? path with
  | some q =>
    rw [run_package_of_cached hcached] at hy
    cases hy
    exact ⟨hc, hc path _ hcached⟩
  | none =>
    cases hq : source path with
    | error e =>
      rw [run_package_of_error hcached hq] at hy
      cases hy
    | ok q =>
      rw [run_package_of_ok hcached hq] at hy
      cases hy
      have hfound : u.Finds path p := hu path p hq
      refine ⟨fun path' p' h => ?_, hfound⟩
      simp only [Dict.get?_insert] at h
      split at h
      next heq =>
        cases h
        exact heq ▸ u.own hfound
      next =>
        split at h
        next heq =>
          cases h
          exact heq ▸ hfound
        next => exact hc path' p' h

theorem ensures_package (hu : u.Sound source) (path : String) :
    Ensures u (package source path) (u.Finds path) :=
  hu.covers.ensures_package path

theorem Universe.Covers.ensures_packageAt (hu : u.Covers source)
    (ht : u.Finds site.target.importPath site.target) (path : String) :
    Ensures u (packageAt source site path) (u.Finds path) := by
  unfold packageAt
  split
  next heq => exact ensures_pure (heq ▸ ht)
  next => exact hu.ensures_package path

theorem ensures_packageAt (hu : u.Sound source) (ht : u.Finds site.target.importPath site.target)
    (path : String) : Ensures u (packageAt source site path) (u.Finds path) :=
  hu.covers.ensures_packageAt ht path

/-- Look-ups keep to a universe that has what their source gives. -/
theorem Universe.Covers.compositional (hu : u.Covers source) :
    Compositional source site fun _ x => Ensures u x fun _ => True where
  ofExcept _ := ensures_ofExcept fun _ _ => trivial
  bind hx hf := hx.bind fun a _ => hf a
  package path _ _ _ hc hy := ⟨(hu.ensures_package path hc hy).1, trivial⟩

/-- The packages that can come up when a plan is made: the target, those the source gives and those
loaded before, each also under the path it says it has. -/
def Universe.around (source : Source) (c : Cache) (target : PackageScope) : Universe where
  Finds path p := source path = .ok p ∨ c.get? path = some p ∨ path = p.importPath ∧
    (p = target ∨ ∃ other, source other = .ok p ∨ c.get? other = some p)
  own := by
    rintro path p (h | h | ⟨-, h⟩)
    · exact Or.inr (Or.inr ⟨rfl, Or.inr ⟨path, Or.inl h⟩⟩)
    · exact Or.inr (Or.inr ⟨rfl, Or.inr ⟨path, Or.inr h⟩⟩)
    · exact Or.inr (Or.inr ⟨rfl, h⟩)

namespace Universe

variable (source : Source) (c : Cache) (target : PackageScope)

theorem covers_around : (around source c target).Covers source :=
  fun _ _ h => Or.inl h

theorem holds_around : (around source c target).Holds c :=
  fun _ _ h => Or.inr (Or.inl h)

theorem finds_target : (around source c target).Finds target.importPath target :=
  Or.inr (Or.inr ⟨rfl, Or.inl rfl⟩)

/-- With one package in the source there are only that one and the target. -/
theorem finds_around_single {q p : PackageScope} {fault : String → StubFault} {path : String}
    (h : (around (fun path => if path = q.importPath then .ok q else .error (fault path)) .empty
      target).Finds path p) : path = p.importPath ∧ (p = q ∨ p = target) := by
  have hgiven {path : String}
      (h : (if path = q.importPath then Except.ok q else .error (fault path)) = .ok p) :
      path = p.importPath ∧ p = q := by
    split at h
    next hpath =>
      cases h
      exact ⟨hpath, rfl⟩
    next => cases h
  rcases h with h | h | ⟨hpath, h | ⟨other, h | h⟩⟩
  · exact ⟨(hgiven h).1, Or.inl (hgiven h).2⟩
  · cases h
  · exact ⟨hpath, Or.inr h⟩
  · exact ⟨hpath, Or.inl (hgiven h).2⟩
  · cases h

end Universe

/-- Every type in the body is well scoped. -/
def InterfaceBody.Fits (u : Universe) (bound : List String) (b : InterfaceBody) : Prop :=
  ∀ t ∈ b.types, t.Fits u bound

/-- Following aliases and replacing parameters, an interface comes out over the binder of the
arguments. -/
theorem ensures_interfaceBehind (hu : u.Sound source)
    (ht : u.Finds site.target.importPath site.target) (depth : Nat) {path name : String}
    {package : PackageScope} {args : List GoType} (hp : u.Finds path package)
    (hlen : ∀ decl, package.types.get? name = some decl → args.length = decl.params.length)
    (hargs : ∀ arg ∈ args, arg.Fits u bound) :
    Ensures u (interfaceBehind source site depth package name args)
      fun found => ∀ path body, found = some (path, body) → body.Fits u bound := by
  induction depth generalizing path package name args with
  | zero => exact ensures_fail _
  | succ depth ih =>
    unfold interfaceBehind
    split
    · exact ensures_fail _
    next decl hdecl =>
      have hfits : (decl.type.substitute (.ofParams decl.params args)).Fits u bound := by
        refine ((hu.wellScoped hp).types hdecl).1.substitute fun n hn => ?_
        obtain ⟨image, himage, hmem⟩ := Substitution.exists_get?_ofParams (hlen decl hdecl) hn
        exact ⟨image, himage, hargs image hmem⟩
      split
      next body hbody =>
        refine ensures_pure fun path body h => ?_
        cases h
        rw [hbody] at hfits
        exact fun t ht => hfits.part ht
      next next nextName nextArgs hnext =>
        rw [hnext] at hfits
        split
        · refine (ensures_packageAt hu ht next).bind fun nextPackage hnextPackage => ?_
          exact ih hnextPackage (fun decl hd => hfits _ .here nextPackage decl hnextPackage hd)
            fun arg ha => hfits.part ha
        · exact ensures_pure fun _ _ h => by cases h
      · exact ensures_pure fun _ _ h => by cases h

namespace MethodSet

/-- Every type in the method set is well scoped. -/
structure Fits (u : Universe) (bound : List String) (s : MethodSet) : Prop where
  methods : ∀ e ∈ s.methods.entries, ∀ t ∈ e.2.types, t.Fits u bound
  typeSets : ∀ t ∈ s.typeSets, t.Fits u bound

variable {s : MethodSet} {b : InterfaceBody}

theorem fits_ofBody (h : b.Fits u bound) : (ofBody b).Fits u bound where
  methods e he t ht := by
    obtain ⟨m, hm, rfl⟩ := List.mem_map.mp (Dict.mem_entries_ofList he)
    exact h t (List.mem_append_left _
      (List.mem_flatMap.mpr ⟨m, (List.mem_filter.mp hm).1, ht⟩))
  typeSets t ht := h t (List.mem_append_right _ (List.mem_append_right _ ht))

theorem Fits.addBody (hs : s.Fits u bound) (h : b.Fits u bound) : (s.addBody b).Fits u bound where
  methods e he t ht := by
    rcases Dict.mem_entries_foldl_insertNew he with ⟨m, hm, rfl⟩ | he
    · exact h t (List.mem_append_left _ (List.mem_flatMap.mpr ⟨m, hm, ht⟩))
    · exact hs.methods e he t ht
  typeSets t ht := by
    rcases List.mem_append.mp ht with ht | ht
    · exact hs.typeSets t ht
    · exact h t (List.mem_append_right _ (List.mem_append_right _ ht))

theorem Fits.addError (hs : s.Fits u bound) : s.addError.Fits u bound where
  methods e he t ht := by
    rcases Dict.mem_entries_insert he with rfl | he
    · obtain rfl : t = .builtin "string" := by
        simpa [errorMethod, Signature.types] using ht
      exact GoType.fits_builtin _
    · exact hs.methods e he t ht
  typeSets := hs.typeSets

theorem Fits.addTypeSet {type : GoType} (hs : s.Fits u bound) (h : type.Fits u bound) :
    (s.addTypeSet type).Fits u bound where
  methods := hs.methods
  typeSets t ht := by
    rcases List.mem_append.mp ht with ht | ht
    · exact hs.typeSets t ht
    · exact List.mem_singleton.mp ht ▸ h

theorem Fits.toBody (hs : s.Fits u bound) : s.toBody.Fits u bound := by
  intro t ht
  simp only [InterfaceBody.types, MethodSet.toBody, List.flatMap_map, List.nil_append,
    List.mem_append, List.mem_flatMap] at ht
  rcases ht with ⟨e, he, ht⟩ | ht
  · exact hs.methods e he t ht
  · exact hs.typeSets t ht

end MethodSet

theorem ensures_addEmbedded (hu : u.Sound source)
    (ht : u.Finds site.target.importPath site.target)
    {inner : PackageScope → InterfaceBody → Lookup InterfaceBody}
    (hinner : ∀ owner body, u.Finds owner.importPath owner → body.Fits u bound →
      Ensures u (inner owner body) (·.Fits u bound))
    {owner : PackageScope} (ho : u.Finds owner.importPath owner) {types : List GoType}
    (htypes : ∀ t ∈ types, t.Fits u bound) {s : MethodSet} (hs : s.Fits u bound) :
    Ensures u (addEmbedded source site inner owner types s) (·.Fits u bound) := by
  induction types generalizing s with
  | nil => exact ensures_pure hs
  | cons type rest ih =>
    obtain ⟨htype, hrest⟩ := List.forall_mem_cons.mp htypes
    cases type with
    | builtin name =>
      refine ih hrest ?_
      split
      · exact hs.addError
      · split
        · exact hs
        · exact hs.addTypeSet htype
    | named package name args =>
      rw [addEmbedded]
      refine ensures_ite_bind (fun heq => ensures_pure (heq ▸ ho))
        (fun _ => ensures_packageAt hu ht package) fun declaring hd => ?_
      refine (ensures_interfaceBehind hu ht stepLimit hd
        (fun decl h => htype _ .here declaring decl hd h)
        fun arg ha => htype.part ha).bind fun found hfound => ?_
      rcases found with _ | ⟨path, body⟩
      · exact ih hrest (hs.addTypeSet htype)
      · refine (ensures_packageAt hu ht path).bind fun bodyOwner hbodyOwner => ?_
        exact (hinner bodyOwner body (u.own hbodyOwner) (hfound path body rfl)).bind
          fun nested hnested => ih hrest (hs.addBody hnested)
    | _ => exact ih hrest (hs.addTypeSet htype)

/-- An interface is written out over its own binder. -/
theorem ensures_methodSet (hu : u.Sound source) (ht : u.Finds site.target.importPath site.target)
    (depth : Nat) {owner : PackageScope} (ho : u.Finds owner.importPath owner)
    {body : InterfaceBody} (hb : body.Fits u bound) :
    Ensures u (methodSet source site depth owner body) (·.Fits u bound) := by
  induction depth generalizing owner body with
  | zero => exact ensures_fail _
  | succ depth ih =>
    have hembedded : ∀ t ∈ body.embedded, t.Fits u bound :=
      fun t ht => hb t (List.mem_append_right _ (List.mem_append_left _ ht))
    exact (ensures_addEmbedded hu ht (fun _ _ ho hb => ih ho hb) ho hembedded
      (MethodSet.fits_ofBody hb)).bind fun s hs => ensures_pure hs.toBody

/-- Some packages, each found under its own path. -/
def Universe.ofPackages (packages : List PackageScope) : Universe where
  Finds path p := p ∈ packages ∧ p.importPath = path
  own h := ⟨h.1, rfl⟩

variable {packages : List PackageScope}

/-- Among finitely many packages a node can be checked. -/
instance GoType.decidableFitsHere :
    (v : GoType) → Decidable (v.FitsHere (.ofPackages packages) bound)
  | .param name => inferInstanceAs (Decidable (name ∈ bound))
  | .named package name args =>
    decidable_of_iff (∀ p ∈ packages, p.importPath = package →
        ∀ decl ∈ p.types.get? name, args.length = decl.params.length)
      ⟨fun h p decl hp hd => h p hp.1 hp.2 decl hd,
        fun h p hp hpath decl hd => h p decl ⟨hp, hpath⟩ hd⟩
  | .builtin _ | .pointer _ | .slice _ | .array _ _ | .map _ _ | .chan _ _ | .func _ | .struct _
  | .interface _ | .tilde _ | .union _ | .unsupported _ => .isTrue trivial

/-- Whether all nodes of a type fit, as far as `depth` levels show. -/
def GoType.fitsWithin (packages : List PackageScope) (bound : List String) (depth : Nat)
    (t : GoType) : Bool :=
  t.allWithin (fun v => decide (v.FitsHere (.ofPackages packages) bound)) depth

theorem GoType.fits_of_fitsWithin {depth : Nat} {t : GoType}
    (h : t.fitsWithin packages bound depth = true) : t.Fits (.ofPackages packages) bound :=
  fun _ hv => of_decide_eq_true (check_of_allWithin h hv)

namespace PackageScope

/-- Whether a package is well scoped, as far as `depth` levels of its types show. -/
def scopedWithin (packages : List PackageScope) (depth : Nat) (p : PackageScope) : Bool :=
  p.types.entries.all (fun e => (e.2.type :: constraintTypes e.2.params).all
      (·.fitsWithin packages (typeParamNames e.2.params) depth)) &&
    p.funcs.entries.all (fun e => (constraintTypes e.2.params ++ e.2.signature.types).all
      (·.fitsWithin packages (typeParamNames e.2.params) depth)) &&
    p.methods.entries.all (fun e => e.2.all fun m =>
      m.signature.types.all (·.fitsWithin packages m.receiverParams depth)) &&
    p.values.entries.all (fun e => e.2.types.all (·.fitsWithin packages [] depth))

theorem scoped_of_scopedWithin {depth : Nat} {p : PackageScope}
    (h : p.scopedWithin packages depth = true) : p.Scoped (.ofPackages packages) := by
  simp only [scopedWithin, Bool.and_eq_true, List.all_eq_true] at h
  obtain ⟨⟨⟨htypes, hfuncs⟩, hmethods⟩, hvalues⟩ := h
  constructor
  case types =>
    intro name decl hd
    obtain ⟨htype, hparams⟩ := List.forall_mem_cons.mp (htypes _ (Dict.mem_entries_of_get? hd))
    exact ⟨GoType.fits_of_fitsWithin htype,
      fun t ht => (GoType.fits_of_fitsWithin (hparams t ht)).paramsIn⟩
  case funcs =>
    intro name decl hd t ht
    exact (GoType.fits_of_fitsWithin (hfuncs _ (Dict.mem_entries_of_get? hd) t ht)).paramsIn
  case methods =>
    intro type m hm t ht
    unfold methodsOf at hm
    cases hd : p.methods.get? type with
    | none => simp [hd] at hm
    | some declared =>
      rw [hd, Option.getD_some] at hm
      exact (GoType.fits_of_fitsWithin
        (hmethods _ (Dict.mem_entries_of_get? hd) m hm t ht)).paramsIn
  case values =>
    intro name decl hd t ht
    exact (GoType.fits_of_fitsWithin (hvalues _ (Dict.mem_entries_of_get? hd) t ht)).paramsIn

end PackageScope

end GoStub
