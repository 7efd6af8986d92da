import GoStub.Proofs.Lookup
import Mathlib.Logic.Relation

/-! The method set of an interface against the interfaces it reaches by embedding: every exported
method that one of these declares is there under its name, with a signature that the nearest
declaration gives it, and nothing in a type set is lost. -/

namespace GoStub

open Lookup

variable {source : Source} {site : Site}

namespace Site

/-- The package a path stands for, seen from the one being stubbed. -/
def packageOf (source : Source) (site : Site) (path : String) : Except StubFault PackageScope :=
  if path = site.target.importPath then .ok site.target else source path

theorem packageOf_own : site.packageOf source site.target.importPath = .ok site.target :=
  if_pos rfl

variable {path : String} {p owner : PackageScope}

/-- What is found under the path that a package says it has is found again under its own path. -/
theorem packageOf_importPath (hs : source.Consistent) (hp : site.packageOf source path = .ok p)
    (ho : site.packageOf source p.importPath = .ok owner) :
    site.packageOf source owner.importPath = .ok owner := by
  by_cases hown : p.importPath = site.target.importPath
  · rw [hown, packageOf_own] at ho
    cases ho
    exact packageOf_own
  · -- `p` is not the target, so it comes from the source, and so does `owner`
    have hpath : path ≠ site.target.importPath := by
      intro h
      rw [h, packageOf_own] at hp
      cases hp
      exact hown rfl
    rw [packageOf, if_neg hpath] at hp
    have hsame : p = owner := by
      rw [packageOf, if_neg hown, hs path p hp] at ho
      exact Except.ok.inj ho
    rw [← hsame] at ho ⊢
    exact ho

theorem packageOf_of_packageAt {c c' : Cache} (hc : Agrees source c)
    (h : (packageAt source site path).Yields c p c') : site.packageOf source path = .ok p := by
  unfold packageAt at h
  unfold packageOf
  split at h
  next hown =>
    obtain ⟨rfl, -⟩ := yields_pure.mp h
    rw [if_pos hown]
  next hown =>
    rw [if_neg hown, ← fst_run_package hc path, h]

end Site

/-- A named type denotes an interface if it is declared as one, with the arguments in place of the
parameters, or if it is an alias of a type that does. -/
inductive Denotes (source : Source) (site : Site) : GoType → InterfaceBody → Prop
  | literal {package name : String} {args : List GoType} {p : PackageScope} {decl : TypeDecl}
      {body : InterfaceBody} (hp : site.packageOf source package = .ok p)
      (hd : p.types.get? name = some decl)
      (ht : decl.type.substitute (.ofParams decl.params args) = .interface body) :
      Denotes source site (.named package name args) body
  | viaAlias {package name next nextName : String} {args nextArgs : List GoType} {p : PackageScope}
      {decl : TypeDecl} {body : InterfaceBody} (hp : site.packageOf source package = .ok p)
      (hd : p.types.get? name = some decl) (ha : decl.isAlias = true)
      (ht : decl.type.substitute (.ofParams decl.params args) = .named next nextName nextArgs)
      (h : Denotes source site (.named next nextName nextArgs) body) :
      Denotes source site (.named package name args) body

/-- An element that stands for an interface: a predeclared one, or a type that denotes one. -/
def GoType.IsInterface (source : Source) (site : Site) (t : GoType) : Prop :=
  t = .builtin "error" ∨ t = .builtin "any" ∨ ∃ body, Denotes source site t body

namespace InterfaceBody

/-- The interface itself has an exported method of this name, or the one of the predeclared error.
-/
def Declares (b : InterfaceBody) (name : String) : Prop :=
  (∃ m ∈ b.methods, m.name = name ∧ Name.isExported m.name = true) ∨
    name = "Error" ∧ .builtin "error" ∈ b.embedded

/-- The interface itself has this type in its type sets, or embeds it though it stands for no
interface. -/
def Keeps (source : Source) (site : Site) (b : InterfaceBody) (t : GoType) : Prop :=
  t ∈ b.typeSets ∨ t ∈ b.embedded ∧ ¬ t.IsInterface source site

/-- One of the embedded elements denotes the interface `inner`. -/
def Embeds (source : Source) (site : Site) (b inner : InterfaceBody) : Prop :=
  ∃ t ∈ b.embedded, Denotes source site t inner

/-- The interface is `inner`, or reaches it by embedding. -/
def Reaches (source : Source) (site : Site) : InterfaceBody → InterfaceBody → Prop :=
  Relation.ReflTransGen (Embeds source site)

/-- The methods an interface supplies: that of the predeclared error if it embeds it, its own, and
of the embedded interfaces those it does not declare itself. -/
inductive Supplies (source : Source) (site : Site) : InterfaceBody → Method → Prop
  | error {b : InterfaceBody} (h : .builtin "error" ∈ b.embedded) :
      Supplies source site b ⟨"Error", errorMethod⟩
  | own {b : InterfaceBody} {m : Method} (hm : m ∈ b.methods)
      (hx : Name.isExported m.name = true)
      (hno : m.name = "Error" → .builtin "error" ∉ b.embedded) : Supplies source site b m
  | embedded {b inner : InterfaceBody} {m : Method} (hno : ¬ b.Declares m.name)
      (he : b.Embeds source site inner) (h : Supplies source site inner m) :
      Supplies source site b m

/-- The interface with one more embedded element. -/
def embedding (b : InterfaceBody) (t : GoType) : InterfaceBody :=
  { b with embedded := b.embedded ++ [t] }

variable {b inner : InterfaceBody} {t u : GoType} {name : String}

theorem foldl_embedding (b : InterfaceBody) :
    b.embedded.foldl embedding { b with embedded := [] } = b := by
  have hall (types : List GoType) (b : InterfaceBody) :
      types.foldl embedding b = ⟨b.methods, b.embedded ++ types, b.typeSets⟩ := by
    induction types generalizing b with
    | nil => cases b; simp
    | cons t rest ih => simp [ih, embedding]
  cases b
  simp [hall]

theorem embedding_declares_iff : (b.embedding t).Declares name ↔
    b.Declares name ∨ name = "Error" ∧ t = .builtin "error" := by
  simp only [Declares, embedding, List.mem_append, List.mem_singleton]
  rw [and_or_left, or_assoc, eq_comm (a := t)]

theorem embedding_keeps_iff : (b.embedding t).Keeps source site u ↔
    b.Keeps source site u ∨ u = t ∧ ¬ t.IsInterface source site := by
  simp only [Keeps, embedding, List.mem_append, List.mem_singleton, or_and_right, or_assoc]
  refine or_congr_right (or_congr_right (and_congr_right fun heq => ?_))
  rw [heq]

theorem embedding_embeds_iff : (b.embedding t).Embeds source site inner ↔
    b.Embeds source site inner ∨ Denotes source site t inner := by
  simp only [Embeds, embedding, List.mem_append, List.mem_singleton, or_and_right, exists_or,
    exists_eq_left]

/-- Something is found in the interfaces that are reached if it is found in the interface itself or
in those reached from one it embeds. -/
theorem exists_reaches_iff {P : InterfaceBody → Prop} :
    (∃ inner, b.Reaches source site inner ∧ P inner) ↔
      P b ∨ ∃ mid, b.Embeds source site mid ∧ ∃ inner, mid.Reaches source site inner ∧ P inner := by
  constructor
  · rintro ⟨inner, hr, hP⟩
    rcases Relation.ReflTransGen.cases_head_iff.mp hr with rfl | ⟨mid, he, hr⟩
    · exact Or.inl hP
    · exact Or.inr ⟨mid, he, inner, hr, hP⟩
  · rintro (hP | ⟨mid, he, inner, hr, hP⟩)
    · exact ⟨b, .refl, hP⟩
    · exact ⟨inner, .head he hr, hP⟩

/-- One more element adds what it denotes, besides what the interface then has itself. -/
theorem exists_reaches_embedding_iff {P : InterfaceBody → Prop} {Q : Prop}
    (hP : P (b.embedding t) ↔ P b ∨ Q) :
    (∃ inner, (b.embedding t).Reaches source site inner ∧ P inner) ↔
      (∃ inner, b.Reaches source site inner ∧ P inner) ∨ Q ∨
        ∃ mid, Denotes source site t mid ∧ ∃ inner, mid.Reaches source site inner ∧ P inner := by
  rw [exists_reaches_iff, exists_reaches_iff (b := b), hP]
  simp only [embedding_embeds_iff, or_and_right, exists_or]
  exact or_or_or_comm

/-- One more element leaves the methods supplied as they are, unless it is the predeclared error. -/
theorem Supplies.embedding {m : Method} (h : b.Supplies source site m)
    (hne : m.name = "Error" → t ≠ .builtin "error") : (b.embedding t).Supplies source site m := by
  cases h with
  | error h => exact .error (List.mem_append_left _ h)
  | own hm hx hno =>
    refine .own hm hx fun hname => ?_
    simp only [InterfaceBody.embedding, List.mem_append, List.mem_singleton, not_or]
    exact ⟨hno hname, (hne hname).symm⟩
  | embedded hno he h =>
    refine .embedded ?_ (embedding_embeds_iff.mpr (Or.inl he)) h
    rw [embedding_declares_iff]
    rintro (hd | ⟨hname, ht⟩)
    · exact hno hd
    · exact hne hname ht

theorem Supplies.isExported {m : Method} (h : b.Supplies source site m) :
    Name.isExported m.name = true := by
  induction h with
  | error => decide +kernel
  | own _ hx _ => exact hx
  | embedded _ _ _ ih => exact ih

end InterfaceBody

section Denoting

variable {package name : String} {args : List GoType} {p : PackageScope} {decl : TypeDecl}
  {body body' : InterfaceBody} {t : GoType}

theorem denotes_named_iff (hp : site.packageOf source package = .ok p)
    (hd : p.types.get? name = some decl) :
    Denotes source site (.named package name args) body ↔
      decl.type.substitute (.ofParams decl.params args) = .interface body ∨
        decl.isAlias = true ∧ ∃ next nextName nextArgs,
          decl.type.substitute (.ofParams decl.params args) = .named next nextName nextArgs ∧
            Denotes source site (.named next nextName nextArgs) body := by
  constructor
  · intro h
    cases h with
    | literal hp' hd' ht =>
      cases hp.symm.trans hp'
      cases hd.symm.trans hd'
      exact Or.inl ht
    | viaAlias hp' hd' ha ht h =>
      cases hp.symm.trans hp'
      cases hd.symm.trans hd'
      exact Or.inr ⟨ha, _, _, _, ht, h⟩
  · rintro (ht | ⟨ha, next, nextName, nextArgs, ht, h⟩)
    · exact .literal hp hd ht
    · exact .viaAlias hp hd ha ht h

theorem not_denotes_builtin : ¬ Denotes source site (.builtin name) body := by
  intro h
  cases h

theorem GoType.not_isInterface (hb : ∀ name, t ≠ .builtin name)
    (hd : ∀ body, ¬ Denotes source site t body) : ¬ t.IsInterface source site := by
  rintro (heq | heq | ⟨body, hbody⟩)
  · exact hb "error" heq
  · exact hb "any" heq
  · exact hd body hbody

theorem Denotes.unique (h : Denotes source site t body) (h' : Denotes source site t body') :
    body = body' := by
  induction h with
  | literal hp hd ht =>
    rcases (denotes_named_iff hp hd).mp h' with ht' | ⟨-, next, nextName, nextArgs, ht', -⟩
    · cases ht.symm.trans ht'
      rfl
    · cases ht.symm.trans ht'
  | viaAlias hp hd ha ht h ih =>
    rcases (denotes_named_iff hp hd).mp h' with ht' | ⟨-, next, nextName, nextArgs, ht', h'⟩
    · cases ht.symm.trans ht'
    · cases ht.symm.trans ht'
      exact ih h'

/-- An answer to what a named type denotes: no interface, or an interface with the path of a package
that was found. -/
def BehindType (source : Source) (site : Site) (t : GoType) :
    Option (String × InterfaceBody) → Prop
  | none => ∀ body, ¬ Denotes source site t body
  | some (path, body) => Denotes source site t body ∧
      ∃ path' p, site.packageOf source path' = .ok p ∧ p.importPath = path

theorem behindType_of_interfaceBehind (hs : source.Consistent) {depth : Nat} {c c' : Cache}
    {found : Option (String × InterfaceBody)} (hc : Agrees source c)
    (hp : site.packageOf source package = .ok p)
    (h : (interfaceBehind source site depth p name args).Yields c found c') :
    BehindType source site (.named package name args) found := by
  induction depth generalizing package p name args c with
  | zero => exact absurd h not_yields_fail
  | succ depth ih =>
    unfold interfaceBehind at h
    split at h
    · exact absurd h not_yields_fail
    next decl hd =>
      have hiff (body : InterfaceBody) : Denotes source site (.named package name args) body ↔ _ :=
        denotes_named_iff hp hd
      split at h
      next body ht =>
        obtain ⟨rfl, -⟩ := yields_pure.mp h
        exact ⟨.literal hp hd ht, package, p, hp, rfl⟩
      next next nextName nextArgs ht =>
        split at h
        next ha =>
          obtain ⟨nextPackage, c₁, hnext, h⟩ := yields_bind.mp h
          have hfound := ih ((steady_packageAt hs next).agrees hc hnext)
            (Site.packageOf_of_packageAt hc hnext) h
          cases found with
          | none =>
            intro body hbody
            rcases (hiff body).mp hbody with ht' | ⟨-, _, _, _, ht', hbody⟩
            · cases ht.symm.trans ht'
            · cases ht.symm.trans ht'
              exact hfound body hbody
          | some answer => exact ⟨.viaAlias hp hd ha ht hfound.1, hfound.2⟩
        next ha =>
          obtain ⟨rfl, -⟩ := yields_pure.mp h
          intro body hbody
          rcases (hiff body).mp hbody with ht' | ⟨ha', -⟩
          · cases ht.symm.trans ht'
          · exact ha ha'
      next hface hnamed =>
        obtain ⟨rfl, -⟩ := yields_pure.mp h
        intro body hbody
        rcases (hiff body).mp hbody with ht | ⟨-, next, nextName, nextArgs, ht, -⟩
        · exact hface body ht
        · exact hnamed next nextName nextArgs ht

end Denoting

namespace MethodSet

variable {s : MethodSet} {body : InterfaceBody} {name : String} {signature : Signature}

theorem mem_toBody_iff (h : s.methods.Sorted) {m : Method} :
    m ∈ s.toBody.methods ↔ s.methods.get? m.name = some m.signature := by
  obtain ⟨name, signature⟩ := m
  rw [← h.mem_entries_iff]
  simp [toBody]

theorem names_toBody (s : MethodSet) : s.toBody.methods.map (·.name) = s.methods.keys := by
  simp [toBody, Dict.keys]

theorem get?_foldl_insertNew {methods : List Method} {d : Dict Signature}
    (h : (methods.foldl (fun d m => d.insertNew m.name m.signature) d).get? name =
      some signature) :
    d.get? name = some signature ∨ d.get? name = none ∧ ⟨name, signature⟩ ∈ methods := by
  induction methods generalizing d with
  | nil => exact Or.inl h
  | cons m rest ih =>
    obtain ⟨first, firstSignature⟩ := m
    rcases ih h with hd | ⟨hd, hm⟩
    · rw [Dict.get?_insertNew] at hd
      cases hold : d.get? name with
      | some old =>
        rw [hold, Option.some_or] at hd
        exact Or.inl hd
      | none =>
        rw [hold, Option.none_or] at hd
        split at hd
        next hname =>
          subst hname
          cases hd
          exact Or.inr ⟨rfl, List.mem_cons_self⟩
        next => cases hd
    · rw [Dict.get?_insertNew, Option.or_eq_none_iff] at hd
      exact Or.inr ⟨hd.1, List.mem_cons_of_mem _ hm⟩

theorem contains_foldl_insertNew {methods : List Method} {d : Dict Signature} :
    (methods.foldl (fun d m => d.insertNew m.name m.signature) d).contains name = true ↔
      d.contains name = true ∨ name ∈ methods.map (·.name) := by
  induction methods generalizing d with
  | nil => simp
  | cons m rest ih =>
    rw [List.foldl_cons, ih, List.map_cons, List.mem_cons, ← or_assoc]
    refine or_congr_left ?_
    unfold Dict.contains
    rw [Dict.get?_insertNew, Option.isSome_or]
    by_cases hname : name = m.name <;> simp [hname]

theorem sorted_foldl_insertNew {methods : List Method} {d : Dict Signature} (h : d.Sorted) :
    (methods.foldl (fun d m => d.insertNew m.name m.signature) d).Sorted := by
  induction methods generalizing d with
  | nil => exact h
  | cons m rest ih => exact ih (h.insertNew m.name m.signature)

/-- The methods and type sets gathered are those of the interface and of all it reaches. -/
structure Gathers (source : Source) (site : Site) (b : InterfaceBody) (s : MethodSet) : Prop where
  sorted : s.methods.Sorted
  contains_iff : ∀ name, s.methods.contains name = true ↔
    ∃ inner, b.Reaches source site inner ∧ inner.Declares name
  supplied : ∀ name signature, s.methods.get? name = some signature →
    b.Supplies source site ⟨name, signature⟩
  typeSets : ∀ t, t ∈ s.typeSets ↔ ∃ inner, b.Reaches source site inner ∧ inner.Keeps source site t

namespace Gathers

variable {b : InterfaceBody} {t : GoType}

/-- An interface that embeds nothing has what it declares. -/
theorem ofBody (h : b.embedded = []) : Gathers source site b (.ofBody b) := by
  have hreach {P : InterfaceBody → Prop} :
      (∃ inner, b.Reaches source site inner ∧ P inner) ↔ P b := by
    rw [InterfaceBody.exists_reaches_iff]
    simp [InterfaceBody.Embeds, h]
  have hmem {name : String} {signature : Signature} : (name, signature) ∈ ((b.methods.filter
      fun m => Name.isExported m.name).map fun m => (m.name, m.signature)) ↔
        ⟨name, signature⟩ ∈ b.methods ∧ Name.isExported name = true := by
    rw [List.mem_map]
    constructor
    · rintro ⟨⟨_, _⟩, hm, heq⟩
      cases heq
      exact List.mem_filter.mp hm
    · intro hm
      exact ⟨⟨name, signature⟩, List.mem_filter.mpr hm, rfl⟩
  refine ⟨Dict.sorted_ofList _, fun name => ?_, fun name signature hget => ?_, fun t => ?_⟩
  · rw [hreach, MethodSet.ofBody, Dict.contains_ofList]
    simp only [hmem, InterfaceBody.Declares, h, List.not_mem_nil, and_false, or_false]
    constructor
    · rintro ⟨signature, hm, hx⟩
      exact ⟨⟨name, signature⟩, hm, rfl, hx⟩
    · rintro ⟨⟨_, signature⟩, hm, rfl, hx⟩
      exact ⟨signature, hm, hx⟩
  · obtain ⟨hm, hx⟩ := hmem.mp (Dict.mem_of_get?_ofList hget)
    exact .own hm hx fun _ => by simp [h]
  · rw [hreach]
    simp [InterfaceBody.Keeps, h, MethodSet.ofBody]

/-- What one more element brings in, method names and types alike. -/
theorem contains_embedding_iff (h : Gathers source site b s) :
    (∃ inner, (b.embedding t).Reaches source site inner ∧ inner.Declares name) ↔
      s.methods.contains name = true ∨ (name = "Error" ∧ t = .builtin "error") ∨
        ∃ mid, Denotes source site t mid ∧
          ∃ inner, mid.Reaches source site inner ∧ inner.Declares name := by
  rw [InterfaceBody.exists_reaches_embedding_iff InterfaceBody.embedding_declares_iff,
    h.contains_iff]

theorem typeSets_embedding_iff (h : Gathers source site b s) {u : GoType} :
    (∃ inner, (b.embedding t).Reaches source site inner ∧ inner.Keeps source site u) ↔
      u ∈ s.typeSets ∨ (u = t ∧ ¬ t.IsInterface source site) ∨
        ∃ mid, Denotes source site t mid ∧
          ∃ inner, mid.Reaches source site inner ∧ inner.Keeps source site u := by
  rw [InterfaceBody.exists_reaches_embedding_iff InterfaceBody.embedding_keeps_iff, h.typeSets]

theorem embedError (h : Gathers source site b s) :
    Gathers source site (b.embedding (.builtin "error")) s.addError := by
  refine ⟨h.sorted.insert _ _, fun name => ?_, fun name signature hget => ?_, fun u => ?_⟩
  · rw [h.contains_embedding_iff, addError, Dict.contains_insert]
    simp [not_denotes_builtin, or_comm]
  · rw [addError, Dict.get?_insert] at hget
    split at hget
    next hname =>
      subst hname
      cases hget
      exact .error (List.mem_append_right _ List.mem_cons_self)
    next hname => exact (h.supplied name signature hget).embedding fun hn => absurd hn hname
  · rw [h.typeSets_embedding_iff]
    simp [not_denotes_builtin, GoType.IsInterface, addError]

theorem embedAny (h : Gathers source site b s) :
    Gathers source site (b.embedding (.builtin "any")) s := by
  refine ⟨h.sorted, fun name => ?_, fun name signature hget => ?_, fun u => ?_⟩
  · rw [h.contains_embedding_iff]
    simp [not_denotes_builtin]
  · exact (h.supplied name signature hget).embedding fun _ => by simp
  · rw [h.typeSets_embedding_iff]
    simp [not_denotes_builtin, GoType.IsInterface]

/-- An element that is no interface goes to the type sets. -/
theorem embedOther (h : Gathers source site b s) (ht : ¬ t.IsInterface source site) :
    Gathers source site (b.embedding t) (s.addTypeSet t) := by
  have herror : t ≠ .builtin "error" := fun heq => ht (Or.inl heq)
  have hnone (mid : InterfaceBody) : ¬ Denotes source site t mid :=
    fun hd => ht (Or.inr (Or.inr ⟨mid, hd⟩))
  refine ⟨h.sorted, fun name => ?_, fun name signature hget => ?_, fun u => ?_⟩
  · rw [h.contains_embedding_iff]
    simp [herror, hnone, addTypeSet]
  · exact (h.supplied name signature hget).embedding fun _ => herror
  · rw [h.typeSets_embedding_iff]
    simp [hnone, ht, addTypeSet]

/-- An element that denotes an interface adds the methods that were not there, and all type sets. -/
theorem embedInterface {inner : InterfaceBody} {s' : MethodSet} (h : Gathers source site b s)
    (ht : Denotes source site t inner) (h' : Gathers source site inner s') :
    Gathers source site (b.embedding t) (s.addBody s'.toBody) := by
  have herror : t ≠ .builtin "error" := by
    rintro rfl
    exact not_denotes_builtin ht
  have hdenotes {P : InterfaceBody → Prop} : (∃ mid, Denotes source site t mid ∧
      ∃ inner, mid.Reaches source site inner ∧ P inner) ↔
        ∃ inner', inner.Reaches source site inner' ∧ P inner' := by
    constructor
    · rintro ⟨mid, hmid, hP⟩
      rwa [hmid.unique ht] at hP
    · intro hP
      exact ⟨inner, ht, hP⟩
  refine ⟨sorted_foldl_insertNew h.sorted, fun name => ?_, fun name signature hget => ?_,
    fun u => ?_⟩
  · rw [h.contains_embedding_iff, hdenotes, ← h'.contains_iff, addBody, contains_foldl_insertNew,
      names_toBody, Dict.mem_keys_iff]
    simp [herror]
  · rcases get?_foldl_insertNew hget with hold | ⟨hnone, hm⟩
    · exact (h.supplied name signature hold).embedding fun _ => herror
    · have hmethod := (mem_toBody_iff h'.sorted).mp hm
      have hnew : ¬ (b.embedding t).Declares name := by
        intro hd
        rw [InterfaceBody.embedding_declares_iff] at hd
        have hown := hd.resolve_right fun he => herror he.2
        have hcontains := (h.contains_iff name).mpr ⟨b, .refl, hown⟩
        simp [Dict.contains, hnone] at hcontains
      exact .embedded hnew (InterfaceBody.embedding_embeds_iff.mpr (Or.inr ht))
        (h'.supplied name signature hmethod)
  · have hface : t.IsInterface source site := Or.inr (Or.inr ⟨inner, ht⟩)
    rw [h.typeSets_embedding_iff, hdenotes, ← h'.typeSets]
    simp [hface, addBody, toBody]

end Gathers

end MethodSet

open MethodSet

section Gathering

variable {owner : PackageScope} {body : InterfaceBody} {c c' : Cache}
  {inner : PackageScope → InterfaceBody → Lookup InterfaceBody}

/-- The method sets found for interfaces a package declares are theirs. -/
def GathersEach (source : Source) (site : Site)
    (inner : PackageScope → InterfaceBody → Lookup InterfaceBody) : Prop :=
  ∀ owner body c flat c', site.packageOf source owner.importPath = .ok owner → Agrees source c →
    (inner owner body).Yields c flat c' → ∃ s, Gathers source site body s ∧ flat = s.toBody

/-- An embedded named type is looked for in the package of its path. -/
theorem yields_addEmbedded_named (hs : source.Consistent) (hc : Agrees source c)
    (howner : site.packageOf source owner.importPath = .ok owner) {package name : String}
    {args rest : List GoType} {s s' : MethodSet}
    (h : (addEmbedded source site inner owner (.named package name args :: rest) s).Yields
      c s' c') :
    ∃ declaring found c₁ c₂, site.packageOf source package = .ok declaring ∧ Agrees source c₁ ∧
      (interfaceBehind source site stepLimit declaring name args).Yields c₁ found c₂ ∧
      (match found with
        | none => addEmbedded source site inner owner rest (s.addTypeSet (.named package name args))
        | some (path, body) => do
          let bodyOwner ← packageAt source site path
          let nested ← inner bodyOwner body
          addEmbedded source site inner owner rest (s.addBody nested)).Yields c₂ s' c' := by
  rw [addEmbedded] at h
  split at h
  next hown =>
    obtain ⟨declaring, c₁, hdeclaring, h⟩ := yields_bind.mp h
    obtain ⟨rfl, rfl⟩ := yields_pure.mp hdeclaring
    obtain ⟨found, c₂, hfound, h⟩ := yields_bind.mp h
    exact ⟨owner, found, c, c₂, hown ▸ howner, hc, hfound, h⟩
  next =>
    obtain ⟨declaring, c₁, hdeclaring, h⟩ := yields_bind.mp h
    obtain ⟨found, c₂, hfound, h⟩ := yields_bind.mp h
    exact ⟨declaring, found, c₁, c₂, Site.packageOf_of_packageAt hc hdeclaring,
      (steady_packageAt hs package).agrees hc hdeclaring, hfound, h⟩

/-- A named type behind which no interface was found. -/
def GoType.FoundPlain (source : Source) (site : Site) (t : GoType) : Prop :=
  ∃ path name args q c c', t = .named path name args ∧ site.packageOf source path = .ok q ∧
    Agrees source c ∧ (interfaceBehind source site stepLimit q name args).Yields c none c'

/-- What one embedded element does to what was gathered before it. -/
inductive Adds (source : Source) (site : Site)
    (inner : PackageScope → InterfaceBody → Lookup InterfaceBody) (s : MethodSet) :
    GoType → MethodSet → Prop
  | error : Adds source site inner s (.builtin "error") s.addError
  | any : Adds source site inner s (.builtin "any") s
  | other {t : GoType} (ht : ¬ t.IsInterface source site)
      (hplain : ∀ path name args, t = .named path name args → t.FoundPlain source site) :
      Adds source site inner s t (s.addTypeSet t)
  | interface {t : GoType} {body nested : InterfaceBody} {owner : PackageScope} {c c' : Cache}
      (ht : Denotes source site t body)
      (howner : site.packageOf source owner.importPath = .ok owner) (hc : Agrees source c)
      (h : (inner owner body).Yields c nested c') : Adds source site inner s t (s.addBody nested)

/-- Going through embedded elements adds the first of them, and then the rest. -/
theorem exists_adds (hs : source.Consistent)
    (hsteady : ∀ owner body, Steady source (inner owner body))
    (howner : site.packageOf source owner.importPath = .ok owner) {t : GoType}
    {rest : List GoType} {s s' : MethodSet} (hc : Agrees source c)
    (h : (addEmbedded source site inner owner (t :: rest) s).Yields c s' c') :
    ∃ s₁ c₁, Adds source site inner s t s₁ ∧ Agrees source c₁ ∧
      (addEmbedded source site inner owner rest s₁).Yields c₁ s' c' := by
  cases t with
  | builtin name =>
    rw [addEmbedded] at h
    refine ⟨_, c, ?_, hc, h⟩
    split
    next hname =>
      subst hname
      exact .error
    next hname =>
      split
      next hany =>
        subst hany
        exact .any
      next hany =>
        refine .other ?_ fun _ _ _ heq => by cases heq
        simp [GoType.IsInterface, hname, hany, not_denotes_builtin]
  | named package name args =>
    obtain ⟨declaring, found, c₁, c₂, hdeclaring, hc₁, hfound, h⟩ :=
      yields_addEmbedded_named hs hc howner h
    have hc₂ := (steady_interfaceBehind hs _ _ _ _).agrees hc₁ hfound
    have hbehind := behindType_of_interfaceBehind hs hc₁ hdeclaring hfound
    cases found with
    | none =>
      have hplain : GoType.FoundPlain source site (.named package name args) :=
        ⟨package, name, args, declaring, c₁, c₂, rfl, hdeclaring, hc₁, hfound⟩
      exact ⟨_, c₂, .other (GoType.not_isInterface (by simp) hbehind) fun _ _ _ _ => hplain, hc₂, h⟩
    | some found =>
      obtain ⟨path, body⟩ := found
      obtain ⟨hdenotes, path', p, hp, rfl⟩ := hbehind
      obtain ⟨bodyOwner, c₃, hbodyOwner, h⟩ := yields_bind.mp h
      obtain ⟨nested, c₄, hnested, h⟩ := yields_bind.mp h
      have hc₃ := (steady_packageAt hs _).agrees hc₂ hbodyOwner
      have hpath := Site.packageOf_importPath hs hp (Site.packageOf_of_packageAt hc₂ hbodyOwner)
      exact ⟨_, c₄, .interface hdenotes hpath hc₃ hnested, (hsteady _ _).agrees hc₃ hnested, h⟩
  | _ =>
    rw [addEmbedded] at h
    · refine ⟨_, c, .other (GoType.not_isInterface (by simp) ?_) (by simp), hc, h⟩
      intro body hbody
      cases hbody
    all_goals simp

/-- What holds before any element is added and is kept by adding one holds after all of them. -/
theorem addEmbedded_induction {P : List GoType → MethodSet → Prop} (hs : source.Consistent)
    (hsteady : ∀ owner body, Steady source (inner owner body))
    (howner : site.packageOf source owner.importPath = .ok owner)
    (hadd : ∀ before t s s', P before s → Adds source site inner s t s' → P (before ++ [t]) s')
    {types : List GoType} {s s' : MethodSet} (hc : Agrees source c) (hstart : P [] s)
    (h : (addEmbedded source site inner owner types s).Yields c s' c') : P types s' := by
  suffices hall : ∀ before s c, Agrees source c → P before s →
      (addEmbedded source site inner owner types s).Yields c s' c' → P (before ++ types) s' from
    hall [] s c hc hstart h
  clear h hstart hc
  induction types with
  | nil =>
    intro before s c _ hbefore h
    obtain ⟨rfl, -⟩ := yields_pure.mp h
    rwa [List.append_nil]
  | cons t rest ih =>
    intro before s c hc hbefore h
    obtain ⟨s₁, c₁, hadds, hc₁, hrest⟩ := exists_adds hs hsteady howner hc h
    have hall := ih (before ++ [t]) s₁ c₁ hc₁ (hadd before t s s₁ hbefore hadds) hrest
    rwa [List.append_assoc, List.singleton_append] at hall

theorem MethodSet.Gathers.adds {s s' : MethodSet} {t : GoType}
    (hinner : GathersEach source site inner) (h : Gathers source site body s)
    (hadds : Adds source site inner s t s') : Gathers source site (body.embedding t) s' := by
  cases hadds with
  | error => exact h.embedError
  | any => exact h.embedAny
  | other ht => exact h.embedOther ht
  | interface ht howner hc hnested =>
    obtain ⟨s₁, h₁, rfl⟩ := hinner _ _ _ _ _ howner hc hnested
    exact h.embedInterface ht h₁

theorem gathersEach_methodSet (hs : source.Consistent) (depth : Nat) :
    GathersEach source site (methodSet source site depth) := by
  induction depth with
  | zero =>
    intro owner body c flat c' _ _ h
    exact absurd h not_yields_fail
  | succ depth ih =>
    intro owner body c flat c' howner hc h
    obtain ⟨s, c₁, hs', h⟩ := yields_bind.mp h
    obtain ⟨rfl, -⟩ := yields_pure.mp h
    -- the elements are added one by one to the interface without them
    have hown : Gathers source site { body with embedded := [] } (.ofBody body) := .ofBody rfl
    have hall : Gathers source site
        (body.embedded.foldl InterfaceBody.embedding { body with embedded := [] }) s := by
      refine addEmbedded_induction (P := fun types s => Gathers source site
        (types.foldl InterfaceBody.embedding { body with embedded := [] }) s) hs
        (steady_methodSet hs depth) howner (fun before t s s' h hadds => ?_) hc hown hs'
      rw [List.foldl_append]
      exact h.adds ih hadds
    rw [InterfaceBody.foldl_embedding] at hall
    exact ⟨s, hall, rfl⟩

/-- The method set of an interface has, in the order of their names, the exported methods of all
interfaces it reaches by embedding, each with the signature of a nearest declaration; it embeds
nothing, and has the type sets of them all with the embedded elements that are no interface. -/
theorem methodSet_exact {depth : Nat} {flat : InterfaceBody} (hs : source.Consistent)
    (hc : Agrees source c) (howner : site.packageOf source owner.importPath = .ok owner)
    (h : (methodSet source site depth owner body).Yields c flat c') :
    flat.embedded = [] ∧
      (flat.methods.map (·.name)).Pairwise (· < ·) ∧
      (∀ m ∈ flat.methods, Name.isExported m.name = true) ∧
      (∀ name, name ∈ flat.methods.map (·.name) ↔
        ∃ inner, body.Reaches source site inner ∧ inner.Declares name) ∧
      (∀ m ∈ flat.methods, body.Supplies source site m) ∧
      ∀ t, t ∈ flat.typeSets ↔
        ∃ inner, body.Reaches source site inner ∧ inner.Keeps source site t := by
  obtain ⟨s, hgathers, rfl⟩ := gathersEach_methodSet hs depth owner body c flat c' howner hc h
  have hsupplies (m : Method) (hm : m ∈ s.toBody.methods) : body.Supplies source site m := by
    obtain ⟨name, signature⟩ := m
    exact hgathers.supplied name signature ((mem_toBody_iff hgathers.sorted).mp hm)
  refine ⟨rfl, ?_, fun m hm => (hsupplies m hm).isExported, fun name => ?_, hsupplies,
    hgathers.typeSets⟩
  · rw [names_toBody]
    exact hgathers.sorted
  · rw [names_toBody, Dict.mem_keys_iff, hgathers.contains_iff]

end Gathering

/-- A package with the interface `Stream`, which embeds `feed.Source[int]` and the predeclared error
and has the method `Name` beside one that is not exported. -/
def streams : PackageScope where
  importPath := "example.com/streams"
  name := "streams"
  dir := ⟨"streams"⟩
  moduleDir := none
  types := ⟨[("Stream", ⟨"Stream", [], false, .interface stream⟩)]⟩
  funcs := .empty
  values := .empty
  methods := .empty
  importNames := .empty
where stream : InterfaceBody :=
  ⟨[⟨"Name", ⟨[], false, [.builtin "string"]⟩⟩, ⟨"close", ⟨[], false, []⟩⟩],
    [.named "example.com/feed" "Source" [.builtin "int"], .builtin "error"], []⟩

/-- A package with `Source[T]`, an alias of `Feed[T]`, which has a type set, the method `Next` and
another method `Name`. -/
def feed : PackageScope where
  importPath := "example.com/feed"
  name := "feed"
  dir := ⟨"feed"⟩
  moduleDir := none
  types := ⟨[
    ("Feed", ⟨"Feed", [⟨"T", .builtin "any"⟩], false, .interface
      ⟨[⟨"Name", ⟨[], false, [.param "T"]⟩⟩, ⟨"Next", ⟨[], false, [.param "T"]⟩⟩], [],
        [.tilde (.param "T")]⟩⟩),
    ("Source", ⟨"Source", [⟨"T", .builtin "any"⟩], true,
      .named "example.com/feed" "Feed" [.param "T"]⟩)]⟩
  funcs := .empty
  values := .empty
  methods := .empty
  importNames := .empty

def feedSource : Source := fun path =>
  if path = feed.importPath then .ok feed else .error (.load path .unmapped)

theorem stream_methodSet_exact :
    ∃ flat c', (methodSet feedSource ⟨streams, "Stream"⟩ stepLimit streams streams.stream).Yields
        .empty flat c' ∧
      (flat.methods.map fun m => (m.name, m.signature.results.map (·.embeddedAs))) =
        [("Error", [some "string"]), ("Name", [some "string"]), ("Next", [some "int"])] ∧
      flat.typeSets.length = 1 ∧
      (∀ m ∈ flat.methods, streams.stream.Supplies feedSource ⟨streams, "Stream"⟩ m) ∧
      ∀ t, t ∈ flat.typeSets ↔ ∃ inner,
        streams.stream.Reaches feedSource ⟨streams, "Stream"⟩ inner ∧
          inner.Keeps feedSource ⟨streams, "Stream"⟩ t := by
  have hrun : (((methodSet feedSource ⟨streams, "Stream"⟩ stepLimit streams streams.stream).run
      .empty).1.toOption.map fun flat =>
        (flat.methods.map fun m => (m.name, m.signature.results.map (·.embeddedAs)),
          flat.typeSets.length)) =
      some ([("Error", [some "string"]), ("Name", [some "string"]), ("Next", [some "int"])], 1) :=
    by decide +kernel
  obtain ⟨flat, c', h, hview⟩ := exists_yields hrun
  have hs : feedSource.Consistent := Source.consistent_single feed _
  obtain ⟨-, -, -, -, hsupplies, htypeSets⟩ :=
    methodSet_exact hs (agrees_empty feedSource) Site.packageOf_own h
  exact ⟨flat, c', h, congrArg Prod.fst hview, congrArg Prod.snd hview, hsupplies, htypeSets⟩

end GoStub
