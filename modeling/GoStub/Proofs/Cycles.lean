import GoStub.Proofs.Termination
import GoStub.Proofs.Universe
import GoStub.Proofs.WrittenTypes

/-! Declarations that lead into a cycle. Interfaces are written out and values are followed for a
limited number of steps only, and a walk that leads into a cycle of declarations uses them up: no
record comes out of it, neither of the symbol itself nor of one that has to mention it. -/

namespace GoStub

open Lookup

/-- Steps lead from `a` to some point from which they lead back to it. -/
def LeadsIntoCycle {α : Type} (r : α → α → Prop) (a : α) : Prop :=
  ∃ b, Relation.ReflTransGen r a b ∧ Relation.TransGen r b b

/-- What leads into a cycle has a next step that does so too. -/
theorem LeadsIntoCycle.step {α : Type} {r : α → α → Prop} {a : α} (h : LeadsIntoCycle r a) :
    ∃ b, r a b ∧ LeadsIntoCycle r b := by
  obtain ⟨b, hab, hb⟩ := h
  rcases Relation.ReflTransGen.cases_head hab with rfl | ⟨next, hnext, hrest⟩
  · obtain ⟨next, hnext, hrest⟩ := Relation.TransGen.head'_iff.mp hb
    exact ⟨next, hnext, a, hrest, hb⟩
  · exact ⟨next, hnext, b, hrest, hb⟩

namespace Universe

/-- Whatever package the path leads to declares the type like this. -/
def Declares (u : Universe) (path name : String) (decl : TypeDecl) : Prop :=
  ∀ p, u.Finds path p → p.types.get? name = some decl

/-- Whatever package the path leads to declares the value like this. -/
def Binds (u : Universe) (path name : String) (decl : ValueBinding) : Prop :=
  ∀ p, u.Finds path p → p.values.get? name = some decl

/-- To write out the first type one has to know the second: the first is an alias of it, or an
interface literal that embeds it. -/
inductive Expands (u : Universe) : String × String → String × String → Prop
  | aliased {path name path' name' : String} {args : List GoType} {decl : TypeDecl}
      (hd : u.Declares path name decl) (ha : decl.isAlias = true)
      (ht : decl.type = .named path' name' args) : Expands u (path, name) (path', name')
  | embedded {path name path' name' : String} {args : List GoType} {decl : TypeDecl}
      {body : InterfaceBody} (hd : u.Declares path name decl) (ht : decl.type = .interface body)
      (he : .named path' name' args ∈ body.embedded) : Expands u (path, name) (path', name')

/-- The first value has no type, is no integer itself and is defined as the second. -/
inductive DefinedBy (u : Universe) : String × String → String × String → Prop
  | own {path name other : String} {decl : ValueBinding} (hb : u.Binds path name decl)
      (ht : decl.type = none) (hl : decl.intLiteral = none) (hi : decl.init = some (.own other)) :
      DefinedBy u (path, name) (path, other)
  | foreign {path name path' other : String} {decl : ValueBinding} (hb : u.Binds path name decl)
      (ht : decl.type = none) (hl : decl.intLiteral = none)
      (hi : decl.init = some (.foreign path' other)) : DefinedBy u (path, name) (path', other)

end Universe

variable {u : Universe} {source : Source} {site : Site}

section Interfaces

/-- One of the embedded elements leads into a cycle. -/
def InterfaceBody.Cyclic (u : Universe) (b : InterfaceBody) : Prop :=
  ∃ path name args, .named path name args ∈ b.embedded ∧ LeadsIntoCycle u.Expands (path, name)

theorem InterfaceBody.Cyclic.substitute {b : InterfaceBody} (h : b.Cyclic u) (s : Substitution) :
    (b.substitute s).Cyclic u := by
  obtain ⟨path, name, args, he, hcycle⟩ := h
  refine ⟨path, name, args.map (·.substitute s), ?_, hcycle⟩
  rw [InterfaceBody.substitute_eq, ← GoType.substitute_named]
  exact List.mem_map_of_mem he

/-- A type that leads into a cycle is an alias of one that does so too, or an interface with such an
element. -/
theorem LeadsIntoCycle.next_type {path name : String} {package : PackageScope} {decl : TypeDecl}
    (h : LeadsIntoCycle u.Expands (path, name)) (hp : u.Finds path package)
    (hd : package.types.get? name = some decl) :
    (∃ path' name' args, decl.isAlias = true ∧ decl.type = .named path' name' args ∧
      LeadsIntoCycle u.Expands (path', name')) ∨
    ∃ body, decl.type = .interface body ∧ body.Cyclic u := by
  obtain ⟨next, hnext, hcycle⟩ := h.step
  cases hnext with
  | aliased hdecl ha ht =>
    obtain rfl := Option.some.inj (hd.symm.trans (hdecl package hp))
    exact Or.inl ⟨_, _, _, ha, ht, hcycle⟩
  | embedded hdecl ht he =>
    obtain rfl := Option.some.inj (hd.symm.trans (hdecl package hp))
    exact Or.inr ⟨_, ht, _, _, _, he, hcycle⟩

/-- A name that leads into a cycle stands for no interface but one that does so too. -/
theorem cyclic_of_interfaceBehind (hu : u.Covers source)
    (ht : u.Finds site.target.importPath site.target) (depth : Nat) {path name : String}
    {package : PackageScope} {args : List GoType} (hp : u.Finds path package) :
    Ensures u (interfaceBehind source site depth package name args)
      fun found => LeadsIntoCycle u.Expands (path, name) →
        ∃ owner body, found = some (owner, body) ∧ body.Cyclic u := by
  induction depth generalizing path package name args with
  | zero => exact ensures_fail _
  | succ depth ih =>
    unfold interfaceBehind
    split
    next => exact ensures_fail _
    next decl hdecl =>
      split
      next body hbody =>
        refine ensures_pure fun hcycle => ?_
        rcases hcycle.next_type hp hdecl with
          ⟨path', name', args', -, htype, -⟩ | ⟨literal, htype, hliteral⟩
        · simp [htype] at hbody
        · obtain rfl : literal.substitute _ = body := by
            simpa only [htype, GoType.substitute_interface, GoType.interface.injEq] using hbody
          exact ⟨_, _, rfl, hliteral.substitute _⟩
      next next nextName nextArgs hnext =>
        split
        next halias =>
          refine (hu.ensures_packageAt ht next).bind fun nextPackage hnextPackage => ?_
          refine (ih hnextPackage).mono fun found hfound hcycle => hfound ?_
          rcases hcycle.next_type hp hdecl with
            ⟨path', name', args', -, htype, hcycle'⟩ | ⟨literal, htype, -⟩
          · simp only [htype, GoType.substitute_named, GoType.named.injEq] at hnext
            obtain ⟨rfl, rfl, -⟩ := hnext
            exact hcycle'
          · simp [htype] at hnext
        next halias =>
          refine ensures_pure fun hcycle => ?_
          rcases hcycle.next_type hp hdecl with
            ⟨path', name', args', ha, -⟩ | ⟨literal, htype, -⟩
          · exact absurd ha halias
          · simp [htype] at hnext
      next hbody hnext =>
        refine ensures_pure fun hcycle => ?_
        rcases hcycle.next_type hp hdecl with
          ⟨path', name', args', -, htype, -⟩ | ⟨literal, htype, -⟩
        · exact absurd (by rw [htype, GoType.substitute_named]) (hnext path' name' _)
        · exact absurd (by rw [htype, GoType.substitute_interface]) (hbody _)

theorem acyclic_of_addEmbedded (hu : u.Covers source)
    (ht : u.Finds site.target.importPath site.target)
    {inner : PackageScope → InterfaceBody → Lookup InterfaceBody}
    (hinner : ∀ owner body, u.Finds owner.importPath owner →
      Ensures u (inner owner body) fun _ => ¬ body.Cyclic u)
    {owner : PackageScope} (ho : u.Finds owner.importPath owner) (types : List GoType)
    (s : MethodSet) :
    Ensures u (addEmbedded source site inner owner types s) fun _ =>
      ∀ path name args, .named path name args ∈ types →
        ¬ LeadsIntoCycle u.Expands (path, name) := by
  induction types generalizing s with
  | nil => exact ensures_pure fun _ _ _ h => absurd h List.not_mem_nil
  | cons type rest ih =>
    have hcons (hfree : ∀ path name args, type = .named path name args →
        ¬ LeadsIntoCycle u.Expands (path, name)) (s : MethodSet) :
        Ensures u (addEmbedded source site inner owner rest s) fun _ =>
          ∀ path name args, .named path name args ∈ type :: rest →
            ¬ LeadsIntoCycle u.Expands (path, name) := by
      refine (ih s).mono fun _ hrest path name args hmem => ?_
      rcases List.mem_cons.mp hmem with heq | hmem
      · exact hfree path name args heq.symm
      · exact hrest path name args hmem
    cases type with
    | named package name args =>
      rw [addEmbedded]
      refine ensures_ite_bind (fun heq => ensures_pure (heq ▸ ho))
        (fun _ => hu.ensures_packageAt ht package) fun declaring hd => ?_
      refine (cyclic_of_interfaceBehind hu ht stepLimit hd).bind fun found hfound => ?_
      rcases found with _ | ⟨path, body⟩
      · refine hcons (fun path name args heq hcycle => ?_) _
        cases heq
        obtain ⟨_, _, hnone, -⟩ := hfound hcycle
        cases hnone
      · refine (hu.ensures_packageAt ht path).bind fun bodyOwner hbodyOwner => ?_
        refine (hinner bodyOwner body (u.own hbodyOwner)).bind fun nested hfree => ?_
        refine hcons (fun path name args heq hcycle => ?_) _
        cases heq
        obtain ⟨_, _, hsome, hcyclic⟩ := hfound hcycle
        cases hsome
        exact hfree hcyclic
    | builtin name => exact hcons (fun _ _ _ heq => by cases heq) _
    | _ => exact hcons (fun _ _ _ heq => by cases heq) _

/-- An interface that can be written out leads into no cycle. -/
theorem acyclic_of_methodSet (hu : u.Covers source)
    (ht : u.Finds site.target.importPath site.target) (depth : Nat) {owner : PackageScope}
    (ho : u.Finds owner.importPath owner) (body : InterfaceBody) :
    Ensures u (methodSet source site depth owner body) fun _ => ¬ body.Cyclic u := by
  induction depth generalizing owner body with
  | zero => exact ensures_fail _
  | succ depth ih =>
    refine (acyclic_of_addEmbedded hu ht (fun _ body ho => ih ho body) ho _ _).bind
      fun s hfree => ensures_pure ?_
    rintro ⟨path, name, args, hmem, hcycle⟩
    exact hfree path name args hmem hcycle

end Interfaces

section Values

variable {path name : String} {package : PackageScope} {decl : ValueBinding}

/-- A value that leads into a cycle has no type and is defined as one that does so too. -/
theorem LeadsIntoCycle.next_value (h : LeadsIntoCycle u.DefinedBy (path, name))
    (hp : u.Finds path package) (hd : package.values.get? name = some decl) :
    decl.type = none ∧ decl.intLiteral = none ∧ ∃ path' other,
      (decl.init = some (.own other) ∧ path' = path ∨ decl.init = some (.foreign path' other)) ∧
      LeadsIntoCycle u.DefinedBy (path', other) := by
  obtain ⟨next, hnext, hcycle⟩ := h.step
  cases hnext with
  | own hb ht hl hi =>
    obtain rfl := Option.some.inj (hd.symm.trans (hb package hp))
    exact ⟨ht, hl, _, _, Or.inl ⟨hi, rfl⟩, hcycle⟩
  | foreign hb ht hl hi =>
    obtain rfl := Option.some.inj (hd.symm.trans (hb package hp))
    exact ⟨ht, hl, _, _, Or.inr hi, hcycle⟩

theorem acyclic_of_constantType (hu : u.Covers source)
    (ht : u.Finds site.target.importPath site.target) (depth : Nat) (hp : u.Finds path package)
    (hd : package.values.get? name = some decl) :
    Ensures u (constantType source site depth package decl)
      fun _ => ¬ LeadsIntoCycle u.DefinedBy (path, name) := by
  induction depth generalizing path name package decl with
  | zero => exact ensures_fail _
  | succ depth ih =>
    by_cases hcycle : LeadsIntoCycle u.DefinedBy (path, name)
    · obtain ⟨htype, -, path', other, ⟨hinit, rfl⟩ | hinit, hnext⟩ := hcycle.next_value hp hd
      · simp only [constantType, htype, hinit]
        split
        next => exact ensures_fail _
        next next hget =>
          exact (ih hp (Option.filter_eq_some_iff.mp hget).1).mono fun _ h => absurd hnext h
      · simp only [constantType, htype, hinit]
        refine (hu.ensures_packageAt ht path').bind fun owner howner => ?_
        split
        next => exact ensures_fail _
        next next hget =>
          exact (ih howner (Option.filter_eq_some_iff.mp hget).1).mono fun _ h => absurd hnext h
    · exact Ensures.mono (hu.compositional.holds_constantType _ _ _) fun _ _ => hcycle

theorem acyclic_of_variableType (hu : u.Covers source)
    (ht : u.Finds site.target.importPath site.target) (depth : Nat) (hp : u.Finds path package)
    (hd : package.values.get? name = some decl) :
    Ensures u (variableType source site depth package decl)
      fun _ => ¬ LeadsIntoCycle u.DefinedBy (path, name) := by
  induction depth generalizing path name package decl with
  | zero => exact ensures_fail _
  | succ depth ih =>
    have hfollow {path name : String} {owner : PackageScope} {next : ValueBinding}
        (ho : u.Finds path owner) (hn : owner.values.get? name = some next) : Ensures u
        (if next.constant then return variableTypeOf (← constantType source site depth owner next)
        else variableType source site depth owner next)
        fun _ => ¬ LeadsIntoCycle u.DefinedBy (path, name) := by
      split
      · exact (acyclic_of_constantType hu ht depth ho hn).bind fun _ h => ensures_pure h
      · exact ih ho hn
    by_cases hcycle : LeadsIntoCycle u.DefinedBy (path, name)
    · obtain ⟨htype, -, path', other, ⟨hinit, rfl⟩ | hinit, hnext⟩ := hcycle.next_value hp hd
      · simp only [variableType, htype, hinit]
        split
        next => exact ensures_fail _
        next next hget => exact (hfollow hp hget).mono fun _ h => absurd hnext h
      · simp only [variableType, htype, hinit]
        refine (hu.ensures_packageAt ht path').bind fun owner howner => ?_
        split
        next => exact ensures_fail _
        next next hget => exact (hfollow howner hget).mono fun _ h => absurd hnext h
    · exact Ensures.mono (hu.compositional.holds_variableType _ _ _) fun _ _ => hcycle

/-- A length that leads into a cycle has no integer behind it. -/
theorem acyclic_of_literalBehind {literal : String}
    (hp : u.Finds package.importPath package) (h : package.LiteralBehind name literal) :
    ¬ LeadsIntoCycle u.DefinedBy (package.importPath, name) := by
  induction h with
  | plain hd hc hl =>
    intro hcycle
    obtain ⟨-, hnone, -⟩ := hcycle.next_value hp hd
    simp [hl] at hnone
  | next hd hc hl hi _ ih =>
    intro hcycle
    obtain ⟨-, -, path', other, ⟨hinit, rfl⟩ | hinit, hnext⟩ := hcycle.next_value hp hd
    · rw [hi] at hinit
      cases hinit
      exact ih hnext
    · rw [hi] at hinit
      cases hinit

end Values

namespace Site.Drafted

variable {withMethods : Bool} {c : Cache} {d : Draft}

/-- An interface that leads into a cycle has no draft. -/
theorem acyclic_interface (hu : u.Covers source) (ht : u.Finds site.target.importPath site.target)
    (hc : u.Holds c) (h : site.Drafted source withMethods c d) {decl : TypeDecl}
    {body : InterfaceBody} (hdecl : site.target.types.get? site.symbol = some decl)
    (halias : decl.isAlias = false) (htype : decl.type = .interface body) :
    ¬ LeadsIntoCycle u.Expands (site.target.importPath, site.symbol) := by
  have hbody : ¬ body.Cyclic u := by
    cases h with
    | ofAlias hd ha =>
      obtain rfl := Option.some.inj (hdecl.symm.trans hd)
      simp [halias] at ha
    | ofInterface hd ha hi hp hm hf hs =>
      obtain rfl := Option.some.inj (hdecl.symm.trans hd)
      obtain rfl := GoType.interface.inj (htype.symm.trans hi)
      exact (acyclic_of_methodSet hu ht stepLimit ht body hc hf).2
    | ofStruct hd ha hi =>
      obtain rfl := Option.some.inj (hdecl.symm.trans hd)
      simp [htype] at hi
    | ofOther hd ha hi =>
      obtain rfl := Option.some.inj (hdecl.symm.trans hd)
      exact absurd htype (hi body)
    | ofFunction hn | ofUntyped hn | ofConstant hn | ofVariable hn => simp [hdecl] at hn
  intro hcycle
  rcases hcycle.next_type ht hdecl with ⟨_, _, _, ha, -⟩ | ⟨body', htype', hcyclic⟩
  · simp [halias] at ha
  · obtain rfl := GoType.interface.inj (htype.symm.trans htype')
    exact hbody hcyclic

/-- A value that leads into a cycle has no draft. -/
theorem acyclic_value (hu : u.Covers source) (ht : u.Finds site.target.importPath site.target)
    (hc : u.Holds c) (h : site.Drafted source withMethods c d)
    (htypes : site.target.types.get? site.symbol = none)
    (hfuncs : site.target.funcs.get? site.symbol = none) :
    ¬ LeadsIntoCycle u.DefinedBy (site.target.importPath, site.symbol) := by
  cases h with
  | ofAlias hd | ofInterface hd | ofStruct hd | ofOther hd => simp [htypes] at hd
  | ofFunction hn hd => simp [hfuncs] at hd
  | ofUntyped hn hf hd hconst hk => exact (acyclic_of_constantType hu ht stepLimit ht hd hc hk).2
  | ofConstant hn hf hd hconst hk => exact (acyclic_of_constantType hu ht stepLimit ht hd hc hk).2
  | ofVariable hn hf hd hconst hk => exact (acyclic_of_variableType hu ht stepLimit ht hd hc hk).2

end Site.Drafted

/-- Making the record of the symbol runs into a cycle: it is an interface or a value that leads into
one, an array length in its declaration does, or it has to mention a type of the package that runs
into one. Aliases and interfaces inside other types are not written out. -/
inductive PackageScope.RunsIntoCycle (u : Universe) (p : PackageScope) : Bool → String → Prop
  | interface {withMethods : Bool} {name : String} {decl : TypeDecl} {body : InterfaceBody}
      (hd : p.types.get? name = some decl) (ha : decl.isAlias = false)
      (ht : decl.type = .interface body) (h : LeadsIntoCycle u.Expands (p.importPath, name)) :
      RunsIntoCycle u p withMethods name
  | value {withMethods : Bool} {name : String} (ht : p.types.get? name = none)
      (hf : p.funcs.get? name = none) (h : LeadsIntoCycle u.DefinedBy (p.importPath, name)) :
      RunsIntoCycle u p withMethods name
  | length {withMethods : Bool} {name constant : String} {t elem : GoType}
      (ht : t ∈ (⟨p, name⟩ : Site).writtenTypes withMethods)
      (ho : (GoType.array (.constant p.importPath constant) elem).Occurs t)
      (h : LeadsIntoCycle u.DefinedBy (p.importPath, constant)) : RunsIntoCycle u p withMethods name
  | mention {withMethods : Bool} {name other : String} {t : GoType} {args : List GoType}
      (ht : t ∈ (⟨p, name⟩ : Site).writtenTypes withMethods)
      (ho : (GoType.named p.importPath other args).Occurs t)
      (h : RunsIntoCycle u p false other) : RunsIntoCycle u p withMethods name

namespace Subject

variable {request : Request} {target : PackageScope} {first : List Record} {done : Dict Record}
  {w : Progress}

/-- No record of a finished plan runs into a cycle. -/
theorem Ledger.not_runsIntoCycle (hu : u.Covers source) (ht : u.Finds target.importPath target)
    (hledger : (ofRequest source request target).Ledger u.Holds first done w)
    (hw : w.pending = []) (hnames : first.map (·.name) = request.names) {withMethods : Bool}
    {name : String} (h : target.RunsIntoCycle u withMethods name) :
    ∀ r ∈ first ++ done.values, r.name = name → (withMethods = true → r.requested = true) →
      False := by
  induction h with
  | interface hd ha htype h =>
    rintro r hr rfl -
    obtain ⟨_, ⟨c, d, c', hc, hdraft, -⟩, -⟩ := hledger.made_requested hr
    exact (Site.drafted_of_draft hdraft).acyclic_interface hu ht hc hd ha htype h
  | value htypes hfuncs h =>
    rintro r hr rfl -
    obtain ⟨_, ⟨c, d, c', hc, hdraft, -⟩, -⟩ := hledger.made_requested hr
    exact (Site.drafted_of_draft hdraft).acyclic_value hu ht hc htypes hfuncs h
  | length hwritten ho h =>
    rintro r hr rfl hreq
    obtain ⟨_, ⟨c, d, c', hc, hdraft, -⟩, hmethods⟩ := hledger.made_requested hr
    obtain ⟨t', -, hsettle⟩ := (Site.drafted_of_draft hdraft).exists_settled
      (Site.writtenTypes_subset (fun h => hmethods (hreq h)) hwritten)
    obtain ⟨literal, hliteral⟩ := GoType.literalBehind_of_settle hsettle ho
    exact acyclic_of_literalBehind ht hliteral h
  | mention hwritten ho _ ih =>
    rintro r hr rfl hreq
    obtain ⟨_, ⟨c, d, c', hc, hdraft, hrecord⟩, hmethods⟩ := hledger.made_requested hr
    have hmentions := (Site.drafted_of_draft hdraft).mentions_of_written
      (Site.writtenTypes_subset (fun h => hmethods (hreq h)) hwritten) ho
    have hshape : r.shape = d.shape := congrArg Record.shape hrecord
    obtain ⟨r', hr', hname⟩ :=
      hledger.exists_record_of_mentioned hw hnames hr (hshape ▸ hmentions)
    exact ih r' hr' hname fun h => by cases h

end Subject

/-- Making a plan ends. Without any bound its loop over the pending types comes to an end, taking up
only types of the package, each at most twice, and so at most twice as many as there are; the bound
it is run with changes nothing. No record comes out of a cycle: a plan has no record of a symbol
that runs into one, and if such a symbol is requested there is an error. -/
theorem planning_ends_and_cycles_fail (source : Source) (request : Request)
    (target : PackageScope) (c : Cache) :
    (∃ names, Planning source request target c names ((planFrom source request target).run c)) ∧
    (∀ names result, Planning source request target c names result →
      result = (planFrom source request target).run c ∧
      (∀ n ∈ names, target.types.contains n = true ∧ names.count n ≤ 2) ∧
      names.length ≤ 2 * target.types.size) ∧
    (∀ p c', (planFrom source request target).Yields c p c' → ∀ r ∈ p.records,
      ¬ target.RunsIntoCycle (.around source c target) r.requested r.name ∧
      ∀ n, r.shape.Mentions target.importPath n →
        ¬ target.RunsIntoCycle (.around source c target) false n) ∧
    ∀ name ∈ request.names, target.RunsIntoCycle (.around source c target) true name →
      ∃ e, ((planFrom source request target).run c).1 = .error e := by
  have hu := Universe.covers_around source c target
  have ht := Universe.finds_target source c target
  have hrun {p : StubPlan} {c' : Cache} (h : (planFrom source request target).Yields c p c') :=
    Subject.planFrom_ledger (P := (Universe.around source c target).Holds) rfl
      (Universe.holds_around source c target)
      (fun hc hd => (Site.holds_draft hu.compositional hc hd).1) h
  refine ⟨?_, fun names result h => ?_, fun p c' h r hr => ?_, fun name hname hcycle => ?_⟩
  · obtain ⟨names, result, h⟩ := exists_planning source request target c
    exact ⟨names, h.run_eq ▸ h⟩
  · obtain ⟨hknown, hcount, hlength⟩ := h.bounds
    exact ⟨h.run_eq.symm, fun n hn => ⟨hknown n hn, hcount n⟩, hlength⟩
  · obtain ⟨first, done, w, hledger, hw, hnames, -, rfl⟩ := hrun h
    refine ⟨fun hcycle => hledger.not_runsIntoCycle hu ht hw hnames hcycle r hr rfl id,
      fun n hmention hcycle => ?_⟩
    obtain ⟨r', hr', hname⟩ := hledger.exists_record_of_mentioned hw hnames hr hmention
    exact hledger.not_runsIntoCycle hu ht hw hnames hcycle r' hr' hname fun h => by cases h
  · rcases hresult : (planFrom source request target).run c with ⟨e | p, c'⟩
    · exact ⟨e, rfl⟩
    · obtain ⟨first, done, w, hledger, hw, hnames, hrequested, rfl⟩ := hrun hresult
      obtain ⟨r, hr, hn⟩ := List.mem_map.mp (hnames ▸ hname)
      have hrecord := List.mem_append_left done.values hr
      exact (hledger.not_runsIntoCycle hu ht hw hnames hcycle r hrecord hn
        fun _ => hrequested r hr).elim

/-- A package in which the aliases `Door` and `Gate` embed each other, a `Hall` embeds a door and a
`Wing` is made of halls, and the size of a `Yard` is one of two constants that define each other. -/
def maze : PackageScope where
  importPath := "example.com/maze"
  name := "maze"
  dir := ⟨"maze"⟩
  moduleDir := none
  types := ⟨[
    ("Door", ⟨"Door", [], true, .interface ⟨[], [own "Gate"], []⟩⟩),
    ("Gate", ⟨"Gate", [], true, .interface ⟨[], [own "Door"], []⟩⟩),
    ("Hall", ⟨"Hall", [], false, .interface ⟨[], [own "Door"], []⟩⟩),
    ("Wing", ⟨"Wing", [], false, .slice (own "Hall")⟩),
    ("Yard", ⟨"Yard", [], false, .array (.constant "example.com/maze" "Left") (.builtin "int")⟩)]⟩
  funcs := .empty
  values := ⟨[
    ("Left", ⟨"Left", true, none, some (.own "Right"), none⟩),
    ("Right", ⟨"Right", true, none, some (.own "Left"), none⟩)]⟩
  methods := .empty
  importNames := .empty
where own (name : String) : GoType := .plain "example.com/maze" name

def mazeSource : Source := fun path =>
  if path = maze.importPath then .ok maze else .error (.load path .unmapped)

def mazeUniverse : Universe :=
  .around mazeSource .empty maze

theorem eq_maze_of_finds {path : String} {p : PackageScope} (h : mazeUniverse.Finds path p) :
    p = maze := by
  rcases (Universe.finds_around_single maze h).2 with rfl | rfl
  · rfl
  · rfl

theorem maze_declares {path name : String} {decl : TypeDecl}
    (h : maze.types.get? name = some decl) : mazeUniverse.Declares path name decl :=
  fun _ hp => eq_maze_of_finds hp ▸ h

theorem maze_binds {path name : String} {decl : ValueBinding}
    (h : maze.values.get? name = some decl) : mazeUniverse.Binds path name decl :=
  fun _ hp => eq_maze_of_finds hp ▸ h

theorem maze_door_leads_into_cycle :
    LeadsIntoCycle mazeUniverse.Expands ("example.com/maze", "Door") := by
  have hdoor : mazeUniverse.Expands ("example.com/maze", "Door") ("example.com/maze", "Gate") :=
    .embedded (maze_declares rfl) rfl (.head _)
  have hgate : mazeUniverse.Expands ("example.com/maze", "Gate") ("example.com/maze", "Door") :=
    .embedded (maze_declares rfl) rfl (.head _)
  exact ⟨_, .refl, .tail (.single hdoor) hgate⟩

theorem maze_left_leads_into_cycle :
    LeadsIntoCycle mazeUniverse.DefinedBy ("example.com/maze", "Left") := by
  have hleft : mazeUniverse.DefinedBy ("example.com/maze", "Left") ("example.com/maze", "Right") :=
    .own (maze_binds rfl) rfl rfl rfl
  have hright : mazeUniverse.DefinedBy ("example.com/maze", "Right") ("example.com/maze", "Left") :=
    .own (maze_binds rfl) rfl rfl rfl
  exact ⟨_, .refl, .tail (.single hleft) hright⟩

/-- A hall leads into the cycle of doors and gates. -/
theorem maze_hall_runs_into_cycle (withMethods : Bool) :
    maze.RunsIntoCycle mazeUniverse withMethods "Hall" := by
  have hhall : mazeUniverse.Expands ("example.com/maze", "Hall") ("example.com/maze", "Door") :=
    .embedded (maze_declares rfl) rfl (.head _)
  obtain ⟨b, hb, hcycle⟩ := maze_door_leads_into_cycle
  exact .interface rfl rfl rfl ⟨b, .head hhall hb, hcycle⟩

theorem maze_runs_into_cycle :
    ∀ name ∈ ["Hall", "Wing", "Yard", "Left"], maze.RunsIntoCycle mazeUniverse true name := by
  have hwritten {name : String} {t : GoType}
      (h : t ∈ (⟨maze, name⟩ : Site).writtenTypes false) :
      t ∈ (⟨maze, name⟩ : Site).writtenTypes true := Site.writtenTypes_subset (fun _ => rfl) h
  have hwing : GoType.slice (.plain "example.com/maze" "Hall") ∈
      (⟨maze, "Wing"⟩ : Site).writtenTypes false := List.mem_singleton_self _
  have hhall : (GoType.plain "example.com/maze" "Hall").Occurs
      (.slice (.plain "example.com/maze" "Hall")) := .inside (List.mem_singleton_self _) .here
  have hyard : GoType.array (.constant "example.com/maze" "Left") (.builtin "int") ∈
      (⟨maze, "Yard"⟩ : Site).writtenTypes false := List.mem_singleton_self _
  rw [List.forall_mem_cons, List.forall_mem_cons, List.forall_mem_cons, List.forall_mem_singleton]
  exact ⟨maze_hall_runs_into_cycle true,
    .mention (hwritten hwing) hhall (maze_hall_runs_into_cycle false),
    .length (hwritten hyard) .here maze_left_leads_into_cycle,
    .value rfl rfl maze_left_leads_into_cycle⟩

theorem maze_planning_ends_and_cycles_fail :
    ∀ name ∈ ["Hall", "Wing", "Yard", "Left"],
      (∃ names, Planning mazeSource (.ofNames "example.com/maze" [] [name]) maze .empty names
          ((planFrom mazeSource (.ofNames "example.com/maze" [] [name]) maze).run .empty) ∧
        names.length ≤ 10) ∧
      ∃ e, ((planFrom mazeSource (.ofNames "example.com/maze" [] [name]) maze).run .empty).1 =
        .error e := by
  intro name hname
  have hrequested : name ∈ (Request.ofNames "example.com/maze" [] [name]).names :=
    List.mem_singleton_self name
  obtain ⟨⟨names, hends⟩, hbounds, -, herror⟩ :=
    planning_ends_and_cycles_fail mazeSource (.ofNames "example.com/maze" [] [name]) maze .empty
  exact ⟨⟨names, hends, (hbounds names _ hends).2.2⟩,
    herror name hrequested (maze_runs_into_cycle name hname)⟩

/-- An alias is kept as it is written: the doors that embed each other have records. -/
theorem maze_door_has_record :
    LeadsIntoCycle mazeUniverse.Expands ("example.com/maze", "Door") ∧
      ∃ p c', (planFrom mazeSource (.ofNames "example.com/maze" ["Door"] []) maze).Yields .empty p
          c' ∧ p.records.map (·.name) = ["Door", "Gate"] := by
  have hrun : (((planFrom mazeSource (.ofNames "example.com/maze" ["Door"] []) maze).run
      .empty).1.toOption.map fun p => p.records.map (·.name)) = some ["Door", "Gate"] := by
    decide +kernel
  exact ⟨maze_door_leads_into_cycle, exists_yields hrun⟩

end GoStub
