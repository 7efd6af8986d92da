import GoStub.Proofs.Declaring
import GoStub.Proofs.FreeNames
import GoStub.Proofs.ParamScope
import GoStub.Proofs.SpellingRead
import GoStub.Proofs.StubImports

/-! A file that spells a plan is indexed as a package that restates it. -/

namespace GoStub

open Syntax (TypeNode TypeForm ExprNode ExprForm)

section Records

variable {c : StubScope} {f : FileScope} {name : String} {bound : List String}

theorem readTypeParams_of_spells (hs : f.Serves c) {params : List TypeParam}
    {nodes : List Syntax.TypeParam} (h : c.spellsTypeParams bound params nodes = true) :
    paramNames nodes = typeParamNames params ∧
      (nodes.flatMap fun p => p.names.map fun name =>
        (⟨name, readType f bound p.constraint⟩ : TypeParam)) = params ∧
      ∀ qualifier, qualifier ∈ nodes.flatMap (fun p => typeQualifiers p.constraint) ↔
        ∃ t ∈ constraintTypes params, c.Refers qualifier t := by
  induction params generalizing nodes with
  | nil =>
    cases nodes with
    | nil => simp [paramNames, typeParamNames, constraintTypes]
    | cons node nodes => cases h
  | cons p params ih =>
    cases nodes with
    | nil => cases h
    | cons node nodes =>
      simp only [StubScope.spellsTypeParams, Bool.and_eq_true, beq_iff_eq] at h
      obtain ⟨⟨hname, hconstraint⟩, hrest⟩ := h
      have hnode := readsAs_of_spells hs hconstraint
      obtain ⟨hnames, hparams, hquals⟩ := ih hrest
      refine ⟨?_, ?_, fun qualifier => ?_⟩
      · simp only [paramNames, typeParamNames] at hnames ⊢
        simp [hname, hnames]
      · simp [hname, hnode.type, hparams]
      · simp only [constraintTypes] at hquals ⊢
        simp only [List.flatMap_cons, List.mem_append, hnode.qualifiers, hquals, List.map_cons,
          List.mem_cons, or_and_right, exists_or, exists_eq_left]

theorem readTypeParams_eq (hs : f.Serves c) {params : List TypeParam}
    {nodes : List Syntax.TypeParam}
    (h : c.spellsTypeParams (typeParamNames params) params nodes = true) :
    readTypeParams f nodes = params := by
  obtain ⟨hnames, hparams, -⟩ := readTypeParams_of_spells hs h
  rw [readTypeParams, hnames, hparams]

theorem readOption_of_spells (hs : f.Serves c) {type : Option GoType} {node : Option TypeNode}
    (h : c.spellsOption type node = true) :
    node.map (readType f []) = type ∧
      ∀ qualifier, qualifier ∈ optionQualifiers node ↔ ∃ t ∈ type.toList, c.Refers qualifier t := by
  cases type with
  | none =>
    cases node with
    | none => simp [optionQualifiers]
    | some node => cases h
  | some type =>
    cases node with
    | none => cases h
    | some node =>
      have hnode := readsAs_of_spells hs h
      simp [hnode.type, optionQualifiers, hnode.qualifiers]

/-- The literal of a kind is read as a constant of that kind. -/
theorem ofConstant_of_spellsZero {kind : ConstantKind} {value : ExprNode}
    (h : StubScope.spellsDeclaration.spellsZero kind value.form = true) :
    Initializer.ofConstant f value = .basic kind ∧ constantQualifiers value = [] := by
  obtain ⟨s, form⟩ := value
  unfold StubScope.spellsDeclaration.spellsZero at h
  dsimp only at h
  split at h
  case h_7 => cases h
  all_goals exact ⟨rfl, rfl⟩

/-- A type declaration, given what its type is read as. -/
theorem readTopLevel_type (hs : f.Serves c) {params : List TypeParam}
    {nodes : List Syntax.TypeParam} {type : GoType} {node : TypeNode} (isAlias : Bool)
    (h : c.spellsTypeParams (typeParamNames params) params nodes = true)
    (htype : readType f (typeParamNames params) node = type) :
    readTopLevel f (.stmt (.declare (.types [⟨name, nodes, isAlias, node⟩]))) =
        [.type ⟨name, params, isAlias, type⟩] ∧
      ∀ qualifier,
        qualifier ∈ topLevelQualifiers (.stmt (.declare (.types [⟨name, nodes, isAlias, node⟩]))) ↔
          (∃ t ∈ constraintTypes params, c.Refers qualifier t) ∨
            qualifier ∈ typeQualifiers node := by
  obtain ⟨hnames, -, hquals⟩ := readTypeParams_of_spells hs h
  refine ⟨?_, fun qualifier => ?_⟩
  · rw [readTopLevel, readDecl, List.map_singleton, readTypeSpec, readTypeParams_eq hs h, hnames,
      htype]
  · rw [topLevelQualifiers, declQualifiers, List.flatMap_singleton, List.mem_append, hquals]

theorem readTopLevel_function (hs : f.Serves c) {params : List TypeParam} {signature : Signature}
    {nodes : List Syntax.TypeParam} {node : Syntax.Signature} (body : List Syntax.Stmt)
    (hparams : c.spellsTypeParams (typeParamNames params) params nodes = true)
    (hsignature : c.spellsSignature (typeParamNames params) ["_"] signature node = true) :
    readTopLevel f (.func name nodes node body) = [.func ⟨name, params, signature⟩] ∧
      ∀ qualifier, qualifier ∈ topLevelQualifiers (.func name nodes node body) ↔
        ∃ t ∈ constraintTypes params ++ signature.types, c.Refers qualifier t := by
  obtain ⟨hnames, -, hquals⟩ := readTypeParams_of_spells hs hparams
  have hblank : ["_"].length ≤ 1 := Nat.le_refl 1
  obtain ⟨hread, hqualifiers⟩ := readSignature_of_spellsSignature hblank
    (fun _ _ _ => readsAs_of_spells hs) hsignature
  refine ⟨?_, fun qualifier => ?_⟩
  · rw [readTopLevel, readTypeParams_eq hs hparams, hnames, hread]
  · rw [topLevelQualifiers, List.mem_append, hquals, hqualifiers]
    simp only [List.mem_append, or_and_right, exists_or]

theorem readTopLevel_constant (hs : f.Serves c) {type : Option GoType} {node : Option TypeNode}
    {kind : ConstantKind} {value : ExprNode} (htype : c.spellsOption type node = true)
    (hvalue : StubScope.spellsDeclaration.spellsZero kind value.form = true) :
    readTopLevel f (.stmt (.declare (.consts [⟨[name], node, [value]⟩]))) =
        [.value ⟨name, true, type, some (.basic kind), intLiteral? value⟩] ∧
      ∀ qualifier,
        qualifier ∈ topLevelQualifiers (.stmt (.declare (.consts [⟨[name], node, [value]⟩]))) ↔
          ∃ t ∈ type.toList, c.Refers qualifier t := by
  obtain ⟨hread, hquals⟩ := readOption_of_spells hs htype
  obtain ⟨hinit, hnone⟩ := ofConstant_of_spellsZero (f := f) hvalue
  refine ⟨?_, fun qualifier => ?_⟩
  · cases node <;> simp [readTopLevel, readDecl, readConsts, constants, hinit, ← hread]
  · simp [topLevelQualifiers, declQualifiers, hquals, hnone]

theorem readTopLevel_variable (hs : f.Serves c) {type : GoType} {node : Option TypeNode}
    (htype : c.spellsOption (some type) node = true) :
    readTopLevel f (.stmt (.declare (.vars [⟨[name], node, []⟩]))) =
        [.value ⟨name, false, some type, none, none⟩] ∧
      ∀ qualifier, qualifier ∈ topLevelQualifiers (.stmt (.declare (.vars [⟨[name], node, []⟩]))) ↔
        c.Refers qualifier type := by
  obtain ⟨hread, hquals⟩ := readOption_of_spells hs htype
  refine ⟨?_, fun qualifier => ?_⟩
  · simp [readTopLevel, readDecl, readVars, variableInit, hread]
  · simp [topLevelQualifiers, declQualifiers, hquals, variableValueQualifiers]

/-- The item that spells the declaration of a record is read as it. -/
theorem readTopLevel_of_spellsDeclaration (hs : f.Serves c) {shape : Shape}
    {item : Syntax.TopLevel} (h : c.spellsDeclaration name shape item = true) :
    ∃ d, readTopLevel f item = [d] ∧ shape.DeclaredBy name d ∧
      ∀ qualifier, qualifier ∈ topLevelQualifiers item ↔
        ∃ t ∈ shape.ownTypes, c.Refers qualifier t := by
  unfold StubScope.spellsDeclaration at h
  split at h
  next params signature text nodes node body =>
    simp only [Bool.and_eq_true, beq_iff_eq] at h
    obtain ⟨⟨rfl, hparams⟩, hsignature⟩ := h
    obtain ⟨hread, hquals⟩ := readTopLevel_function hs body hparams hsignature
    exact ⟨_, hread, rfl, hquals⟩
  next params body spec =>
    obtain ⟨specName, nodes, isAlias, ⟨s, form⟩⟩ := spec
    simp only [Bool.and_eq_true, beq_iff_eq, Bool.not_eq_true'] at h
    obtain ⟨⟨⟨rfl, hparams⟩, rfl⟩, hbody⟩ := h
    split at hbody
    next elems =>
      obtain ⟨hread, hqualifiers⟩ :=
        readElems_of_spellsBody (fun _ _ _ => readsAs_of_spells hs) hbody
      have htype : readType f (typeParamNames params) ⟨s, .interface elems⟩ =
          .interface body.reread := by
        rw [readType, readForm]
        exact congrArg GoType.interface hread
      obtain ⟨hread, hquals⟩ := readTopLevel_type hs _ hparams htype
      refine ⟨_, hread, rfl, fun qualifier => ?_⟩
      rw [hquals, typeQualifiers, formQualifiers, hqualifiers]
      simp only [Shape.ownTypes, List.mem_append, or_and_right, exists_or]
    next => cases hbody
  next params fields methods spec =>
    obtain ⟨specName, nodes, isAlias, type⟩ := spec
    simp only [Bool.and_eq_true, beq_iff_eq, Bool.not_eq_true'] at h
    obtain ⟨⟨⟨rfl, hparams⟩, rfl⟩, hstruct⟩ := h
    have hnode := readsAs_of_spells hs hstruct
    obtain ⟨hread, hquals⟩ := readTopLevel_type hs _ hparams hnode.type
    refine ⟨_, hread, rfl, fun qualifier => ?_⟩
    rw [hquals, hnode.qualifiers, StubScope.refers_iff (t := .struct fields)]
    simp only [Shape.ownTypes, List.mem_append, or_and_right, exists_or, GoType.Names, GoType.parts,
      false_and, exists_false, false_or]
  next params underlying isAlias methods spec =>
    obtain ⟨specName, nodes, specAlias, type⟩ := spec
    simp only [Bool.and_eq_true, beq_iff_eq] at h
    obtain ⟨⟨⟨rfl, hparams⟩, rfl⟩, htype⟩ := h
    have hnode := readsAs_of_spells hs htype
    obtain ⟨hread, hquals⟩ := readTopLevel_type hs _ hparams hnode.type
    refine ⟨_, hread, rfl, fun qualifier => ?_⟩
    rw [hquals, hnode.qualifiers]
    simp only [Shape.ownTypes, List.mem_append, List.mem_singleton, or_and_right, exists_or,
      exists_eq_left]
  next type kind spec =>
    obtain ⟨names, node, values⟩ := spec
    simp only [Bool.and_eq_true, beq_iff_eq] at h
    obtain ⟨⟨rfl, htype⟩, hvalue⟩ := h
    split at hvalue
    next value =>
      obtain ⟨hread, hquals⟩ := readTopLevel_constant hs htype hvalue
      exact ⟨_, hread, ⟨rfl, rfl, rfl, fun _ => ⟨kind, rfl, rfl⟩⟩, hquals⟩
    next => cases hvalue
  next type basic spec =>
    obtain ⟨names, node, values⟩ := spec
    simp only [Bool.and_eq_true, beq_iff_eq, List.isEmpty_iff] at h
    obtain ⟨⟨rfl, htype⟩, rfl⟩ := h
    obtain ⟨hread, hquals⟩ := readTopLevel_variable hs htype
    refine ⟨_, hread, ⟨rfl, rfl, rfl, fun hnone => (by cases hnone)⟩, fun qualifier => ?_⟩
    simp [hquals, Shape.ownTypes]
  next => cases h

theorem receiverName_of_isReceiver {receiver : String} {m : DeclaredMethod} {node : TypeNode}
    (h : StubScope.spellsMethod.isReceiver receiver m node = true) :
    peelReceiver node = (false, node) ∧ receiverName node = (receiver, m.receiverParams) := by
  obtain ⟨s, form⟩ := node
  unfold StubScope.spellsMethod.isReceiver at h
  dsimp only at h
  split at h
  next =>
    simp only [Bool.and_eq_true, beq_iff_eq, List.isEmpty_iff] at h
    exact ⟨rfl, by rw [receiverName, h.1, h.2]⟩
  next base args =>
    simp only [Bool.and_eq_true, beq_iff_eq] at h
    exact ⟨rfl, Prod.ext h.1 h.2⟩
  next => cases h

/-- The item that spells a method of a record is read as it. -/
theorem readTopLevel_of_spellsMethod (hs : f.Serves c) {receiver : String} {m : DeclaredMethod}
    {item : Syntax.TopLevel} (h : c.spellsMethod receiver m item = true) :
    readTopLevel f item =
        [.method ⟨receiver, m.pointer, m.receiverParams, m.name, m.signature⟩] ∧
      ∀ qualifier, qualifier ∈ topLevelQualifiers item ↔
        ∃ t ∈ m.signature.types, c.Refers qualifier t := by
  unfold StubScope.spellsMethod at h
  split at h
  next param text node body =>
    simp only [Bool.and_eq_true, beq_iff_eq] at h
    obtain ⟨⟨rfl, hreceiver⟩, hsignature⟩ := h
    have hblank : ["_"].length ≤ 1 := Nat.le_refl 1
    obtain ⟨hread, hquals⟩ := readSignature_of_spellsSignature hblank
      (fun _ _ _ => readsAs_of_spells hs) hsignature
    have hpeeled : ∃ node, peelReceiver param.type = (m.pointer, node) ∧
        receiverName node = (receiver, m.receiverParams) := by
      obtain ⟨names, ⟨s, form⟩, variadic⟩ := param
      dsimp only at hreceiver
      split at hreceiver
      next inner =>
        rw [Bool.and_eq_true] at hreceiver
        obtain ⟨hpeel, hname⟩ := receiverName_of_isReceiver hreceiver.2
        exact ⟨inner, by rw [peelReceiver, hpeel, hreceiver.1], hname⟩
      next =>
        rw [Bool.and_eq_true, Bool.not_eq_true'] at hreceiver
        obtain ⟨hpeel, hname⟩ := receiverName_of_isReceiver hreceiver.2
        exact ⟨⟨s, form⟩, by rw [hpeel, hreceiver.1], hname⟩
    obtain ⟨receiverNode, hpeel, hname⟩ := hpeeled
    refine ⟨?_, fun qualifier => ?_⟩
    · simp [readTopLevel, readMethod, hpeel, hname, hread]
    · simp [topLevelQualifiers, hquals]
  next => cases h

end Records

section Items

variable {c : StubScope} {f : FileScope} {name : String} {item : Syntax.TopLevel}
  {items middle rest : List Syntax.TopLevel} {ds ds' : List Declaration}
  {types types' : List GoType}

/-- The items `items` are read as the declarations `ds` and then as the items `rest` are; they have
the qualifiers of `types` besides those of `rest`. -/
structure ReadsInto (c : StubScope) (f : FileScope) (items : List Syntax.TopLevel)
    (ds : List Declaration) (types : List GoType) (rest : List Syntax.TopLevel) : Prop where
  declarations : items.flatMap (readTopLevel f) = ds ++ rest.flatMap (readTopLevel f)
  qualifiers : ∀ qualifier, qualifier ∈ items.flatMap topLevelQualifiers ↔
    (∃ t ∈ types, c.Refers qualifier t) ∨ qualifier ∈ rest.flatMap topLevelQualifiers

namespace ReadsInto

theorem refl (c : StubScope) (f : FileScope) (items : List Syntax.TopLevel) :
    ReadsInto c f items [] [] items :=
  ⟨rfl, fun qualifier => by simp⟩

theorem single {d : Declaration} (hread : readTopLevel f item = [d])
    (hquals : ∀ qualifier, qualifier ∈ topLevelQualifiers item ↔ ∃ t ∈ types, c.Refers qualifier t)
    (items : List Syntax.TopLevel) : ReadsInto c f (item :: items) [d] types items := by
  refine ⟨?_, fun qualifier => ?_⟩
  · rw [List.flatMap_cons, hread]
  · rw [List.flatMap_cons, List.mem_append, hquals]

theorem trans (h : ReadsInto c f items ds types middle)
    (h' : ReadsInto c f middle ds' types' rest) :
    ReadsInto c f items (ds ++ ds') (types ++ types') rest := by
  refine ⟨?_, fun qualifier => ?_⟩
  · rw [h.declarations, h'.declarations, List.append_assoc]
  · rw [h.qualifiers, h'.qualifiers]
    simp only [List.mem_append, or_and_right, exists_or, or_assoc]

end ReadsInto

/-- The import declarations apart, a file is read from its items one after another. -/
theorem imports_cons_of_spellsDeclaration {shape : Shape}
    (h : c.spellsDeclaration name shape item = true) (items : List Syntax.TopLevel) :
    (⟨item :: items⟩ : Syntax.SourceFile).imports = (⟨items⟩ : Syntax.SourceFile).imports := by
  cases item with
  | imports specs => cases shape <;> simp [StubScope.spellsDeclaration] at h
  | _ => rfl

theorem imports_cons_of_spellsMethod {m : DeclaredMethod} (h : c.spellsMethod name m item = true)
    (items : List Syntax.TopLevel) :
    (⟨item :: items⟩ : Syntax.SourceFile).imports = (⟨items⟩ : Syntax.SourceFile).imports := by
  cases item with
  | imports specs => cases h
  | _ => rfl

theorem imports_of_afterDeclaredMethods? {methods : List DeclaredMethod}
    (h : c.afterDeclaredMethods? name methods items = some rest) :
    (⟨items⟩ : Syntax.SourceFile).imports = (⟨rest⟩ : Syntax.SourceFile).imports := by
  induction methods generalizing items with
  | nil =>
    cases h
    rfl
  | cons m methods ih =>
    cases items with
    | nil => cases h
    | cons item items =>
      rw [StubScope.afterDeclaredMethods?, Option.ite_none_right_eq_some] at h
      rw [imports_cons_of_spellsMethod h.1, ih h.2]

theorem imports_of_afterRecords? {records : List Record}
    (h : c.afterRecords? records items = some rest) :
    (⟨items⟩ : Syntax.SourceFile).imports = (⟨rest⟩ : Syntax.SourceFile).imports := by
  induction records generalizing items with
  | nil =>
    cases h
    rfl
  | cons r records ih =>
    cases items with
    | nil => cases h
    | cons item items =>
      rw [StubScope.afterRecords?, Option.ite_none_right_eq_some, Option.bind_eq_some_iff] at h
      obtain ⟨hitem, middle, hmiddle, hrest⟩ := h
      rw [imports_cons_of_spellsDeclaration hitem, imports_of_afterDeclaredMethods? hmiddle,
        ih hrest]

theorem readsInto_of_afterDeclaredMethods? (hs : f.Serves c) {methods : List DeclaredMethod}
    (h : c.afterDeclaredMethods? name methods items = some rest) :
    ReadsInto c f items
      (methods.map fun m => .method ⟨name, m.pointer, m.receiverParams, m.name, m.signature⟩)
      (methods.flatMap (·.signature.types)) rest := by
  induction methods generalizing items with
  | nil =>
    cases h
    exact .refl c f _
  | cons m methods ih =>
    cases items with
    | nil => cases h
    | cons item items =>
      rw [StubScope.afterDeclaredMethods?, Option.ite_none_right_eq_some] at h
      obtain ⟨hread, hquals⟩ := readTopLevel_of_spellsMethod hs h.1
      exact (ReadsInto.single hread hquals items).trans (ih h.2)

/-- The items that spell records are read as declarations of them. -/
theorem readsInto_of_afterRecords? (hs : f.Serves c) {records : List Record}
    (h : c.afterRecords? records items = some rest) :
    ∃ ds types, ReadsInto c f items ds types rest ∧ Declaring records ds ∧
      ∀ t, t ∈ types ↔ ∃ r ∈ records, t ∈ r.shape.types := by
  induction records generalizing items with
  | nil =>
    cases h
    exact ⟨[], [], .refl c f _, .nil, by simp⟩
  | cons r records ih =>
    cases items with
    | nil => cases h
    | cons item items =>
      rw [StubScope.afterRecords?, Option.ite_none_right_eq_some, Option.bind_eq_some_iff] at h
      obtain ⟨hitem, middle, hmiddle, hrest⟩ := h
      obtain ⟨d, hread, hdeclared, hquals⟩ := readTopLevel_of_spellsDeclaration hs hitem
      obtain ⟨ds, types, hinto, hdeclaring, htypes⟩ := ih hrest
      have hmethods := readsInto_of_afterDeclaredMethods? hs hmiddle
      have hall := (ReadsInto.single hread hquals items).trans (hmethods.trans hinto)
      refine ⟨_, _, hall, ?_, fun t => ?_⟩
      · have hcons := Declaring.cons hdeclared hdeclaring
        rw [Shape.methodDecls, List.map_map] at hcons
        exact hcons
      · simp only [List.mem_append, htypes, List.mem_cons, exists_eq_or_imp, Shape.mem_types_iff,
          List.mem_flatMap, or_assoc]

end Items

section File

variable {p : StubPlan} {f : FileScope} {specs : List Syntax.ImportSpec}
  {items rest : List Syntax.TopLevel}

theorem mem_localNames_iff {s : ImportTable} (hsorted : s.names.Sorted)
    (h : ImportTable.afterImports?.spellsSpecs s specs = true) {path name : String} :
    (name, path) ∈ specs.filterMap (fun spec => spec.localName?.map fun name => (name, spec.path)) ↔
      s.localName? path = some name := by
  rw [ImportTable.afterImports?.spellsSpecs, beq_iff_eq] at h
  have hentry : (path, some name) ∈ specs.map (fun spec => (spec.path, spec.localName?)) ↔
      s.localName? path = some name := by
    rw [h, ImportTable.localName?, ← hsorted.mem_entries_iff]
    by_cases hstandard : Name.isStandard path <;> simp [hstandard]
  rw [← hentry]
  simp [and_comm]

/-- The import declaration of a stub binds the names that the stub uses. -/
theorem serves_of_spellsSpecs (hsorted : p.imports.names.Sorted) (hdistinct : p.imports.Distinct)
    (h : ImportTable.afterImports?.spellsSpecs p.imports specs = true) :
    (FileScope.ofImports p.package specs).Serves (.ofPlan p) := by
  refine ⟨rfl, fun path qualifier hq => ?_⟩
  have hlocal : p.imports.localName? path = some qualifier := by
    rw [StubScope.qualifies, Bool.and_eq_true, beq_iff_eq] at hq
    exact hq.2
  have hlisted := (mem_localNames_iff hsorted h).mpr hlocal
  obtain ⟨path', hpath'⟩ := Dict.contains_iff.mp (Dict.contains_ofList.mpr ⟨path, hlisted⟩)
  have hlocal' := (mem_localNames_iff hsorted h).mp (Dict.mem_of_get?_ofList hpath')
  rw [FileScope.packageOf?, FileScope.ofImports, hpath', hdistinct _ _ _ hlocal' hlocal]

/-- What an import declaration lists, if there is one; it declares nothing. -/
theorem exists_specs_of_afterImports? {s : ImportTable} (h : s.afterImports? items = some rest) :
    ∃ specs, ImportTable.afterImports?.spellsSpecs s specs = true ∧
      (⟨items⟩ : Syntax.SourceFile).imports = specs ++ (⟨rest⟩ : Syntax.SourceFile).imports ∧
      ∀ f, items.flatMap (readTopLevel f) = rest.flatMap (readTopLevel f) ∧
        items.flatMap topLevelQualifiers = rest.flatMap topLevelQualifiers := by
  unfold ImportTable.afterImports? at h
  split at h
  next specs items =>
    rw [Option.ite_none_right_eq_some] at h
    obtain ⟨hspecs, h⟩ := h
    cases h
    exact ⟨specs, hspecs, rfl, fun f => ⟨rfl, rfl⟩⟩
  next =>
    rw [Option.ite_none_right_eq_some] at h
    obtain ⟨hempty, h⟩ := h
    cases h
    refine ⟨[], ?_, rfl, fun f => ⟨rfl, rfl⟩⟩
    rw [List.isEmpty_iff] at hempty
    simp [ImportTable.afterImports?.spellsSpecs, hempty]

theorem FileScope.importNames_eq (f : FileScope) (qualifiers : List String) :
    f.importNames qualifiers =
      (qualifiers.filterMap fun q => (f.packageOf? q).map fun path => (path, q)).foldl
        (fun names e => names.insertNew e.1 e.2) .empty := by
  rw [importNames, List.foldl_filterMap]
  congr 1
  funext names q
  cases f.packageOf? q <;> rfl

/-- A package that is met under one qualifier only has it for its name. -/
theorem FileScope.get?_importNames {qualifiers : List String} {path qualifier : String}
    (hmem : qualifier ∈ qualifiers) (hpath : f.packageOf? qualifier = some path)
    (hunique : ∀ q ∈ qualifiers, f.packageOf? q = some path → q = qualifier) :
    (f.importNames qualifiers).get? path = some qualifier := by
  have hentry : (path, qualifier) ∈
      qualifiers.filterMap fun q => (f.packageOf? q).map fun path => (path, q) :=
    List.mem_filterMap.mpr ⟨qualifier, hmem, by rw [hpath, Option.map_some]⟩
  have hsome : ((qualifiers.filterMap fun q =>
      (f.packageOf? q).map fun path => (path, q)).lookup path).isSome = true :=
    List.lookup_isSome_iff.mpr ⟨_, hentry, beq_self_eq_true path⟩
  obtain ⟨q, hq⟩ := Option.isSome_iff_exists.mp hsome
  obtain ⟨l₁, l₂, hsplit, -⟩ := List.lookup_eq_some_iff.mp hq
  have hfound : (path, q) ∈
      qualifiers.filterMap fun q => (f.packageOf? q).map fun path => (path, q) := by
    rw [hsplit]
    simp
  obtain ⟨q', hq', heq⟩ := List.mem_filterMap.mp hfound
  obtain ⟨path', hpath', hpair⟩ := Option.map_eq_some_iff.mp heq
  cases hpair
  rw [importNames_eq, Dict.get?_foldl_insertNew_entries, hq, hunique q hq' hpath']
  rfl

/-- What a file that spells a plan is made of. -/
theorem exists_of_isSpeltBy {file : Syntax.SourceFile} (h : p.isSpeltBy file = true) :
    ∃ specs items, file.packageName? = some p.packageName ∧
      ImportTable.afterImports?.spellsSpecs p.imports specs = true ∧ file.imports = specs ∧
      (StubScope.ofPlan p).afterRecords? p.records items = some [] ∧
      ∀ f, file.items.flatMap (readTopLevel f) = items.flatMap (readTopLevel f) ∧
        file.items.flatMap topLevelQualifiers = items.flatMap topLevelQualifiers := by
  obtain ⟨items⟩ := file
  unfold StubPlan.isSpeltBy at h
  split at h
  next name items hitems =>
    dsimp only at hitems
    subst hitems
    simp only [Bool.and_eq_true, beq_iff_eq, Option.any_eq_true, List.isEmpty_iff,
      Option.bind_eq_some_iff] at h
    obtain ⟨rfl, rest, ⟨middle, hmiddle, hrest⟩, rfl⟩ := h
    obtain ⟨specs, hspecs, himports, hread⟩ := exists_specs_of_afterImports? hmiddle
    refine ⟨specs, middle, rfl, hspecs, ?_, hrest, hread⟩
    exact himports.trans ((congrArg (specs ++ ·) (imports_of_afterRecords? hrest)).trans
      (List.append_nil specs))
  next => cases h

/-- The qualifiers of a file that spells a plan are the local names of the plan, so the names that
the file gives its imports are these. -/
theorem get?_importNames_of_spells {c : StubScope} {qualifiers : List String} {types : List GoType}
    {path name : String} (hserves : f.Serves c)
    (hquals : ∀ q, q ∈ qualifiers ↔ ∃ t ∈ types, c.Refers q t)
    (hused : ∃ t ∈ types, t.UsesPackage path) (hname : c.qualifies path name = true) :
    (f.importNames qualifiers).get? path = some name := by
  obtain ⟨t, ht, huses⟩ := hused
  refine FileScope.get?_importNames ((hquals name).mpr ⟨t, ht, path, huses, hname⟩)
    (hserves.qualifiers path name hname) fun q hq hpath => ?_
  obtain ⟨t', -, path', -, hq'⟩ := (hquals q).mp hq
  have heq : path' = path :=
    Option.some.inj ((hserves.qualifiers path' q hq').symm.trans hpath)
  exact c.qualifies_eq (heq ▸ hq') hname

/-- A file that spells a plan is indexed as a package that restates it. -/
theorem restates_declareFile {package : PackageFiles} {file : Syntax.SourceFile}
    (hpath : package.importPath = p.package) (hnodup : (p.records.map (·.name)).Nodup)
    (hsorted : p.imports.names.Sorted) (hdistinct : p.imports.Distinct)
    (hused : ∀ path, p.imports.contains path = true → ∃ name, p.Names path name)
    (h : p.isSpeltBy file = true) :
    (PackageScope.declareFile { PackageScope.ofPackage package with name := p.packageName }
      file).Restates p := by
  obtain ⟨specs, items, -, hspecs, himports, hrecords, hread⟩ := exists_of_isSpeltBy h
  have hserves := serves_of_spellsSpecs hsorted hdistinct hspecs
  obtain ⟨ds, types, hinto, hdeclaring, htypes⟩ := readsInto_of_afterRecords? hserves hrecords
  obtain ⟨hitems, hquals⟩ := hread (.ofImports p.package specs)
  rw [hinto.declarations, List.flatMap_nil, List.append_nil] at hitems
  have hmem (q : String) : q ∈ file.items.flatMap topLevelQualifiers ↔
      ∃ t ∈ types, (StubScope.ofPlan p).Refers q t := by
    rw [hquals, hinto.qualifiers, List.flatMap_nil]
    simp only [List.not_mem_nil, or_false]
  have hscope : FileScope.ofImports package.importPath file.imports =
      FileScope.ofImports p.package specs := by
    rw [hpath, himports]
  rw [PackageScope.declareFile]
  dsimp only [PackageScope.ofPackage]
  rw [hscope, hitems]
  refine hdeclaring.restates hnodup hpath fun path name hname => ?_
  obtain ⟨symbol, hown, r, hr, t, ht, u, hu, hnames⟩ :=
    hused path (Dict.contains_iff.mpr ⟨name, hname⟩)
  have hqualifies : (StubScope.ofPlan p).qualifies path name = true := by
    rw [StubScope.qualifies, Bool.and_eq_true, bne_iff_ne, beq_iff_eq]
    exact ⟨hown, hname⟩
  have huses : ∃ t ∈ types, t.UsesPackage path :=
    ⟨t, (htypes t).mpr ⟨r, hr, ht⟩, u, hu, symbol, hnames⟩
  rw [Dict.get?_foldl_insertNew_entries, (PackageScope.foldl_declare_eq ds _).2.2.2.2]
  exact get?_importNames_of_spells hserves hmem huses hqualifies

end File

/-- A package with the one file has its declarations. -/
theorem ofFiles_eq_declareFile {files : FileTree} {package : PackageFiles} {path : Path}
    {text name : String} (hname : package.name.getD name = name) (hne : name ≠ "")
    (hfiles : package.files = [path]) (hread : files.readText path = .ok text)
    (hclause : (Syntax.SourceFile.read text).packageName? = some name) :
    PackageScope.ofFiles files package =
      .ok (PackageScope.declareFile { PackageScope.ofPackage package with name := name }
        (.read text)) := by
  -- The package clause gives the package its name, or repeats it.
  have hnamed : (if (PackageScope.ofPackage package).name = "" then
      { PackageScope.ofPackage package with name := name } else PackageScope.ofPackage package) =
        { PackageScope.ofPackage package with name := name } := by
    split
    next => rfl
    next hnonempty =>
      cases hpackage : package.name with
      | none => simp [PackageScope.ofPackage, hpackage] at hnonempty
      | some name =>
        rw [hpackage, Option.getD_some] at hname
        simp [PackageScope.ofPackage, hpackage, hname]
  have hkept : (PackageScope.declareFile { PackageScope.ofPackage package with name := name }
      (.read text)).name = name :=
    (PackageScope.foldl_declare_eq _ _).2.1
  simp only [PackageScope.ofFiles, hfiles, PackageScope.declareFiles, hread, hclause, hnamed,
    ↓reduceIte, hkept, if_neg hne]

end GoStub
