import GoStub.Proofs.FreeNames
import GoStub.Proofs.Promotion
import GoStub.Proofs.Replacement
import GoStub.Proofs.Wanted

/-! Packages that declare the records of a plan and nothing else. What a plan has settled settles to
itself, so each symbol of such a package has the shape its record has. -/

namespace GoStub

open Lookup

section Settling

variable {site : Site}

theorem settleAll_self {ts : List GoType} (h : ∀ t ∈ ts, t.settle site = .ok t) :
    settleAll site ts = .ok ts := by
  induction ts with
  | nil => rfl
  | cons t ts ih =>
    obtain ⟨ht, hts⟩ := List.forall_mem_cons.mp h
    exact Except.bind_eq_ok.mpr ⟨t, ht, Except.bind_eq_ok.mpr ⟨ts, ih hts, rfl⟩⟩

theorem Signature.settle_self {s : Signature} (h : ∀ t ∈ s.types, t.settle site = .ok t) :
    s.settle site = .ok s := by
  obtain ⟨params, variadic, results⟩ := s
  obtain ⟨hparams, hresults⟩ := List.forall_mem_append.mp h
  exact Except.bind_eq_ok.mpr ⟨params, settleAll_self hparams,
    Except.bind_eq_ok.mpr ⟨results, settleAll_self hresults, rfl⟩⟩

theorem settleFields_self {fields : List Field}
    (h : ∀ t ∈ fields.map (·.type), t.settle site = .ok t) :
    settleFields site fields = .ok fields := by
  induction fields with
  | nil => rfl
  | cons f fields ih =>
    obtain ⟨name, type, embedded, tag⟩ := f
    obtain ⟨hf, hfields⟩ := List.forall_mem_cons.mp h
    exact Except.bind_eq_ok.mpr ⟨type, hf, Except.bind_eq_ok.mpr ⟨fields, ih hfields, rfl⟩⟩

theorem settleMethods_self {methods : List Method}
    (h : ∀ t ∈ methods.flatMap (·.signature.types), t.settle site = .ok t) :
    settleMethods site methods = .ok methods := by
  induction methods with
  | nil => rfl
  | cons m methods ih =>
    obtain ⟨name, signature⟩ := m
    obtain ⟨hm, hmethods⟩ := List.forall_mem_append.mp h
    exact Except.bind_eq_ok.mpr ⟨signature, Signature.settle_self hm,
      Except.bind_eq_ok.mpr ⟨methods, ih hmethods, rfl⟩⟩

theorem InterfaceBody.settle_self {b : InterfaceBody} (h : ∀ t ∈ b.types, t.settle site = .ok t) :
    b.settle site = .ok b := by
  obtain ⟨methods, embedded, typeSets⟩ := b
  simp only [InterfaceBody.types, List.forall_mem_append] at h
  obtain ⟨hmethods, hembedded, htypeSets⟩ := h
  exact Except.bind_eq_ok.mpr ⟨methods, settleMethods_self hmethods,
    Except.bind_eq_ok.mpr ⟨embedded, settleAll_self hembedded,
      Except.bind_eq_ok.mpr ⟨typeSets, settleAll_self htypeSets, rfl⟩⟩⟩

theorem settleParams_self {params : List TypeParam}
    (h : ∀ t ∈ constraintTypes params, t.settle site = .ok t) :
    settleParams site params = .ok params := by
  induction params with
  | nil => rfl
  | cons p params ih =>
    obtain ⟨name, constraint⟩ := p
    obtain ⟨hp, hparams⟩ := List.forall_mem_cons.mp h
    exact Except.bind_eq_ok.mpr ⟨constraint, hp, Except.bind_eq_ok.mpr ⟨params, ih hparams, rfl⟩⟩

theorem Site.settleLength_self {length : ArrayLength} (h : length.Settled site.target) :
    site.settleLength length = .ok length := by
  cases length with
  | literal value => rfl
  | expr text => exact absurd h id
  | constant package name => simp [Site.settleLength, h.1, h.2]

theorem Site.checkName_of_settledHere {package name : String} {args : List GoType}
    (h : (GoType.named package name args).SettledHere site.target) :
    site.checkName package name = .ok () := by
  unfold Site.checkName
  simp only [GoType.SettledHere] at h
  split at h
  next hown => rw [if_pos hown, if_pos h]
  next hown => rw [if_neg hown, if_pos h]

/-- A settled type settles to itself. -/
theorem GoType.settle_of_settled {t : GoType} (h : t.Settled site.target) :
    t.settle site = .ok t := by
  induction t using inductionOnParts with
  | step t ih =>
    have hhere := h t .here
    have hparts (part : GoType) (hp : part ∈ t.parts) : part.settle site = .ok part :=
      ih part hp fun u hu => h u (.inside hp hu)
    cases t with
    | builtin name | param name => rfl
    | unsupported reason => exact absurd hhere id
    | named package name args =>
      exact Except.bind_eq_ok.mpr ⟨args, settleAll_self hparts,
        Except.bind_eq_ok.mpr ⟨(), Site.checkName_of_settledHere hhere, rfl⟩⟩
    | pointer elem | slice elem | chan direction elem | tilde elem =>
      exact Except.bind_eq_ok.mpr ⟨elem, hparts elem List.mem_cons_self, rfl⟩
    | array length elem =>
      exact Except.bind_eq_ok.mpr ⟨length, Site.settleLength_self hhere,
        Except.bind_eq_ok.mpr ⟨elem, hparts elem List.mem_cons_self, rfl⟩⟩
    | map key value =>
      exact Except.bind_eq_ok.mpr ⟨key, hparts key List.mem_cons_self,
        Except.bind_eq_ok.mpr ⟨value, hparts value (.tail _ List.mem_cons_self), rfl⟩⟩
    | func signature =>
      exact Except.bind_eq_ok.mpr ⟨signature, Signature.settle_self hparts, rfl⟩
    | struct fields => exact Except.bind_eq_ok.mpr ⟨fields, settleFields_self hparts, rfl⟩
    | interface body => exact Except.bind_eq_ok.mpr ⟨body, InterfaceBody.settle_self hparts, rfl⟩
    | union terms => exact Except.bind_eq_ok.mpr ⟨terms, settleAll_self hparts, rfl⟩

/-- Methods that settle to themselves are recorded as they are. -/
theorem Site.methodRecords_self {receiver : String} {methods : List DeclaredMethod}
    (h : ∀ m ∈ methods, m.signature.settle site = .ok m.signature) :
    site.methodRecords (methods.map fun m =>
      ⟨receiver, m.pointer, m.receiverParams, m.name, m.signature⟩) = .ok methods := by
  induction methods with
  | nil => rfl
  | cons m methods ih =>
    obtain ⟨hm, hmethods⟩ := List.forall_mem_cons.mp h
    exact Except.bind_eq_ok.mpr ⟨m.signature, hm,
      Except.bind_eq_ok.mpr ⟨methods, ih hmethods, rfl⟩⟩

end Settling

/-- An interface as it is read from its members: those that could be embedded are. -/
def InterfaceBody.reread (b : InterfaceBody) : InterfaceBody :=
  ⟨b.methods, (b.embedded ++ b.typeSets).filter (·.isEmbeddable),
    (b.embedded ++ b.typeSets).filter (!·.isEmbeddable)⟩

/-- An interface whose members are sorted is read as it is. -/
theorem InterfaceBody.reread_eq {b : InterfaceBody}
    (hembedded : ∀ t ∈ b.embedded, t.isEmbeddable = true)
    (htypeSets : ∀ t ∈ b.typeSets, t.isEmbeddable = false) : b.reread = b := by
  obtain ⟨methods, embedded, typeSets⟩ := b
  have hnone : typeSets.filter (·.isEmbeddable) = [] := by simpa using htypeSets
  have hnone' : embedded.filter (!·.isEmbeddable) = [] := by simpa using hembedded
  have hself : typeSets.filter (!·.isEmbeddable) = typeSets := by simpa using htypeSets
  simp only [reread, List.filter_append, List.filter_eq_self.mpr hembedded, hnone, hnone', hself,
    List.append_nil, List.nil_append]

/-- After an element that could be embedded come only such elements. -/
def InterfaceBody.Ordered (b : InterfaceBody) : Prop :=
  b.typeSets.Pairwise fun t u => t.isEmbeddable = true → u.isEmbeddable = true

namespace Shape

/-- The declaration of a type with this shape. -/
def typeDecl? (name : String) : Shape → Option TypeDecl
  | .interface params body => some ⟨name, params, false, .interface body.reread⟩
  | .struct params fields _ => some ⟨name, params, false, .struct fields⟩
  | .named params underlying isAlias _ => some ⟨name, params, isAlias, underlying⟩
  | _ => none

def functionDecl? (name : String) : Shape → Option FunctionDecl
  | .function params signature => some ⟨name, params, signature⟩
  | _ => none

/-- Whether a variable or constant has the type of the shape, or without one an initializer of its
kind. -/
def Binds (b : ValueBinding) : Shape → Prop
  | .value type constant basic => b.constant = constant ∧ b.type = type ∧
      (type = none → ∃ kind, basic = some kind ∧ b.init = some (.basic kind))
  | _ => False

/-- The methods of a type with this shape. -/
def methodDecls (name : String) (s : Shape) : List MethodDecl :=
  s.methods.map fun m => ⟨name, m.pointer, m.receiverParams, m.name, m.signature⟩

end Shape

/-- The package declares the records of the plan and no other types and functions, and calls its
imports as the plan does. -/
structure PackageScope.Restates (s : PackageScope) (p : StubPlan) : Prop where
  importPath : s.importPath = p.package
  name : s.name = p.packageName
  types : ∀ name decl, s.types.get? name = some decl ↔
    ∃ r ∈ p.records, r.name = name ∧ r.shape.typeDecl? name = some decl
  funcs : ∀ name decl, s.funcs.get? name = some decl ↔
    ∃ r ∈ p.records, r.name = name ∧ r.shape.functionDecl? name = some decl
  values : ∀ r ∈ p.records, ∀ type constant basic, r.shape = .value type constant basic →
    ∃ b, s.values.get? r.name = some b ∧ r.shape.Binds b
  methods : ∀ r ∈ p.records, s.methodsOf r.name = r.shape.methodDecls r.name
  importNames : ∀ path name, p.imports.localName? path = some name →
    s.importNames.get? path = some name

/-- What a plan comes to: every record is a draft of its symbol, every type of the package that is
mentioned has a record, and every other package is imported. -/
structure StubPlan.Completes (source : Source) (target : PackageScope) (p : StubPlan) : Prop where
  package : p.package = target.importPath
  packageName : p.packageName = target.name
  nodup : (p.records.map (·.name)).Nodup
  drafted : ∀ r ∈ p.records, ∃ withMethods c d, Agrees source c ∧
    (⟨target, r.name⟩ : Site).Drafted source withMethods c d ∧ r.shape = d.shape
  closed : ∀ r ∈ p.records, ∀ n, r.shape.Mentions target.importPath n →
    ∃ r' ∈ p.records, r'.name = n
  imported : ∀ r ∈ p.records, ∀ path, path ≠ target.importPath → ∀ t ∈ r.shape.types,
    t.UsesPackage path → p.imports.contains path = true

theorem completes_of_planFrom {source : Source} {request : Request} {target : PackageScope}
    {p : StubPlan} {c c' : Cache} (hs : source.Consistent) (hc : Agrees source c)
    (hnodup : request.names.Nodup) (h : (planFrom source request target).Yields c p c') :
    p.Completes source target := by
  obtain ⟨first, done, w, hfin, hp⟩ := Subject.planFrom_finished rfl hs hc h
  have hledger := hfin.ledger
  have hrecords : p.records = first ++ done.values := by rw [hp]
  refine ⟨by rw [hp], by rw [hp], ?_, ?_, ?_, ?_⟩
  · rw [hrecords]
    exact hledger.nodup_names hfin.names_eq hnodup
  · intro r hr
    rw [hrecords] at hr
    obtain ⟨withMethods, c₁, d, c₂, hc₁, hd, hr'⟩ := hledger.made hr
    exact ⟨withMethods, c₁, d, hc₁, Site.drafted_of_draft hd, congrArg Record.shape hr'⟩
  · intro r hr n hn
    rw [hrecords] at hr ⊢
    by_cases hname : n ∈ request.names
    · rw [← hfin.names_eq] at hname
      obtain ⟨r', hr', rfl⟩ := List.mem_map.mp hname
      exact ⟨r', List.mem_append_left _ hr', rfl⟩
    · have hdone := hledger.contains_of_mentioned hfin.empty hr hn hname
      obtain ⟨r', hr'⟩ := Dict.contains_iff.mp hdone
      exact ⟨r', hledger.mem_records.mpr (Or.inr ⟨n, hr'⟩), (hledger.auxiliary n r' hr').name_eq⟩
  · intro r hr path hpath t ht huses
    obtain ⟨name, hname⟩ := exists_localName_of_uses h hr hpath ht huses
    exact Dict.contains_iff.mpr ⟨name, hname⟩

namespace Site.Drafted

variable {source : Source} {site : Site} {withMethods : Bool} {c : Cache} {d : Draft}

/-- The methods of a draft stand in the order of their names, and all are exported. -/
theorem methods_sorted (h : site.Drafted source withMethods c d) :
    (d.shape.methods.Pairwise fun a b => a.name ≤ b.name) ∧
      ∀ m ∈ d.shape.methods, Name.isExported m.name = true := by
  have hkept : ((site.methodsToKeep withMethods).Pairwise fun a b => a.name ≤ b.name) ∧
      ∀ m ∈ site.methodsToKeep withMethods, Name.isExported m.name = true := by
    unfold methodsToKeep
    split
    · refine ⟨site.target.exportedMethods_sorted site.symbol, fun m hm => ?_⟩
      have hmem := (site.target.exportedMethods_perm site.symbol).mem_iff.mp hm
      exact (List.mem_filter.mp hmem).2
    · exact ⟨.nil, fun m hm => by cases hm⟩
  have hrecords {methods : List DeclaredMethod}
      (hm : site.methodRecords (site.methodsToKeep withMethods) = .ok methods) :
      (methods.Pairwise fun a b => a.name ≤ b.name) ∧
        ∀ m ∈ methods, Name.isExported m.name = true := by
    rw [methodRecords_eq hm]
    refine ⟨List.pairwise_map.mpr hkept.1, fun m hmem => ?_⟩
    obtain ⟨m', hm', rfl⟩ := List.mem_map.mp hmem
    exact hkept.2 m' hm'
  cases h with
  | ofStruct hd ha ht hp hm | ofOther hd ha hi ht hp hm => exact hrecords hm
  | _ => exact ⟨.nil, fun m hm => by cases hm⟩

/-- Without methods a draft has none. -/
theorem methods_eq_nil (h : site.Drafted source false c d) : d.shape.methods = [] := by
  cases h with
  | ofStruct hd ha ht hp hm | ofOther hd ha hi ht hp hm => exact methodRecords_eq hm
  | _ => rfl

/-- The declaration that a draft of a type stands for has the same head, and if that is a name it
occurs in the shape. -/
theorem exists_typeDecl (h : site.Drafted source withMethods c d) {decl : TypeDecl}
    (hdecl : site.target.types.get? site.symbol = some decl) :
    ∃ decl', d.shape.typeDecl? site.symbol = some decl' ∧ decl'.isAlias = decl.isAlias ∧
      decl'.type.head = decl.type.head ∧
      ∀ next nextName, decl.type.head = .named next nextName → decl'.type ∈ d.shape.types := by
  cases h with
  | ofAlias hd ha hp hu =>
    cases hdecl.symm.trans hd
    refine ⟨_, rfl, ha.symm, GoType.head_settle hu, fun _ _ _ => ?_⟩
    simp [Shape.types]
  | ofInterface hd ha ht hp hm hf hs =>
    cases hdecl.symm.trans hd
    rw [ht]
    exact ⟨_, rfl, ha.symm, rfl, fun _ _ hname => by cases hname⟩
  | ofStruct hd ha ht hp hm hs =>
    cases hdecl.symm.trans hd
    rw [ht]
    exact ⟨_, rfl, ha.symm, rfl, fun _ _ hname => by cases hname⟩
  | ofOther hd ha hi ht hp hm hu =>
    cases hdecl.symm.trans hd
    refine ⟨_, rfl, ha.symm, GoType.head_settle hu, fun _ _ _ => ?_⟩
    simp [Shape.types]
  | ofFunction hn | ofUntyped hn | ofConstant hn | ofVariable hn => simp [hdecl] at hn

end Site.Drafted

end GoStub
