import GoStub.Package.Qualifiers
import GoStub.Proofs.Universe
import GoStub.Stub.Text

/-! Syntax trees that spell what a stub is written for. A tree spells a type where every name in it
stands, with the type parameters that are bound there and the imports of the stub, for what the type
has in its place, and where a file has these imports, names and lengths are read as that. -/

namespace GoStub

open Syntax (TypeNode TypeForm ExprNode ExprForm)

/-- What stands in parentheses. -/
def Syntax.TypeNode.unparen : TypeNode → TypeNode
  | ⟨_, .paren inner⟩ => inner.unparen
  | node => node

/-- The type of a field with the star that may stand before it. -/
def Syntax.Field.wholeType (field : Syntax.Field) : TypeNode :=
  if field.starred then ⟨field.stretch, .pointer field.type⟩ else field.type

namespace StubScope

/-- Whether a qualifier and a name stand for a name of the package at a path. -/
def qualifies (c : StubScope) (path : String) (qualifier : String) : Bool :=
  path != c.package && c.imports.localName? path == some qualifier

/-- Whether a node is the name of a type: a plain one, neither predeclared nor hidden by a type
parameter, for a type of the package itself. -/
def names (c : StubScope) (bound : List String) (package name : String) (node : TypeNode) : Bool :=
  match node.form with
  | .name text =>
    package == c.package && text == name && !bound.contains text && !Name.isPredeclared text
  | .qualified qualifier text => c.qualifies package qualifier && text == name
  | _ => false

def spellsLength (c : StubScope) : ArrayLength → ExprNode → Bool
  | .literal value, node =>
    match node.form with
    | .literal .int => node.stretch.text == value
    | _ => false
  | .constant package name, node =>
    match node.form with
    | .selector operand field => field == name &&
        match operand.form with
        | .name qualifier => c.qualifies package qualifier
        | _ => false
    | _ => false
  | .expr _, _ => false

mutual

/-- Whether a node spells this type where the parameters `bound` are. -/
def spells (c : StubScope) (bound : List String) : GoType → TypeNode → Bool
  | .builtin name, node =>
    match node.form with
    | .name text => text == name && !bound.contains text && Name.isPredeclared text
    | _ => false
  | .param name, node =>
    match node.form with
    | .name text => text == name && bound.contains text
    | _ => false
  | .named package name args, node =>
    match node.form with
    | .generic base nodes =>
      !args.isEmpty && c.names bound package name base && c.spellsAll bound args nodes
    | _ => args.isEmpty && c.names bound package name node
  | .pointer elem, node =>
    match node.form with
    | .pointer inner => c.spells bound elem inner
    | _ => false
  | .slice elem, node =>
    match node.form with
    | .slice inner => c.spells bound elem inner
    | _ => false
  | .array length elem, node =>
    match node.form with
    | .array count inner => c.spellsLength length count && c.spells bound elem inner
    | _ => false
  | .map key value, node =>
    match node.form with
    | .map first second => c.spells bound key first && c.spells bound value second
    | _ => false
  | .chan direction elem, node =>
    match node.form with
    | .chan arrow inner => arrow == direction && c.spells bound elem inner.unparen
    | _ => false
  | .func signature, node =>
    match node.form with
    | .func inner => c.spellsSignature bound [] signature inner
    | _ => false
  | .struct fields, node =>
    match node.form with
    | .struct inner => c.spellsFields bound fields inner
    | _ => false
  | .interface body, node =>
    match node.form with
    | .interface elems => body.embedded.all (·.isEmbeddable) &&
        body.typeSets.all (!·.isEmbeddable) && c.spellsBody bound body elems
    | _ => false
  | .tilde elem, node =>
    match node.form with
    | .tilde inner => c.spells bound elem inner
    | _ => false
  | .union terms, node =>
    match node.form with
    | .union inner => c.spellsAll bound terms inner
    | _ => false
  | .unsupported _, _ => false

def spellsAll (c : StubScope) (bound : List String) : List GoType → List TypeNode → Bool
  | [], [] => true
  | t :: ts, node :: nodes => c.spells bound t node && c.spellsAll bound ts nodes
  | _, _ => false

/-- Parameters, each with these names; only the last may stand for any number. -/
def spellsParams (c : StubScope) (bound names : List String) (variadic : Bool) :
    List GoType → List Syntax.Param → Bool
  | [], [] => true
  | t :: ts, param :: params => param.names == names &&
      param.variadic == (variadic && ts.isEmpty) && c.spells bound t param.type &&
      c.spellsParams bound names variadic ts params
  | _, _ => false

def spellsSignature (c : StubScope) (bound names : List String) :
    Signature → Syntax.Signature → Bool
  | ⟨params, variadic, results⟩, node => !(variadic && params.isEmpty) &&
      c.spellsParams bound names variadic params node.params &&
      c.spellsParams bound [] false results node.results

/-- Fields, one for each declaration; an embedded one has the name of its type. -/
def spellsFields (c : StubScope) (bound : List String) : List Field → List Syntax.Field → Bool
  | [], [] => true
  | ⟨name, type, embedded, tag⟩ :: fields, node :: nodes =>
    node.tag == tag &&
      (if embedded then node.names.isEmpty && type.embeddedAs == some name
      else node.names == [name] && !node.starred) &&
      c.spells bound type node.wholeType && c.spellsFields bound fields nodes
  | _, _ => false

/-- What follows the elements that spell these types. -/
def afterTypes? (c : StubScope) (bound : List String) :
    List GoType → List Syntax.Elem → Option (List Syntax.Elem)
  | [], elems => some elems
  | t :: ts, .type node :: elems =>
    if c.spells bound t node then c.afterTypes? bound ts elems else none
  | _, _ => none

def afterMethods? (c : StubScope) (bound : List String) :
    List Method → List Syntax.Elem → Option (List Syntax.Elem)
  | [], elems => some elems
  | ⟨name, signature⟩ :: methods, .method text node :: elems =>
    if text == name && c.spellsSignature bound [] signature node then
      c.afterMethods? bound methods elems
    else none
  | _, _ => none

/-- The elements of an interface: what it embeds, its methods, its type sets. -/
def spellsBody (c : StubScope) (bound : List String) : InterfaceBody → List Syntax.Elem → Bool
  | ⟨methods, embedded, typeSets⟩, elems =>
    (((c.afterTypes? bound embedded elems).bind (c.afterMethods? bound methods)).bind
      (c.afterTypes? bound typeSets)).any (·.isEmpty)

end

/-- Type parameters, one for each declaration. -/
def spellsTypeParams (c : StubScope) (bound : List String) :
    List TypeParam → List Syntax.TypeParam → Bool
  | [], [] => true
  | p :: params, node :: nodes => node.names == [p.name] &&
      c.spells bound p.constraint node.constraint && c.spellsTypeParams bound params nodes
  | _, _ => false

def spellsOption (c : StubScope) : Option GoType → Option TypeNode → Bool
  | none, none => true
  | some type, some node => c.spells [] type node
  | _, _ => false

/-- The declaration of a record, its methods apart. -/
def spellsDeclaration (c : StubScope) (name : String) (shape : Shape) (item : Syntax.TopLevel) :
    Bool :=
  match shape, item with
  | .function params signature, .func text nodes node _ => text == name &&
      c.spellsTypeParams (typeParamNames params) params nodes &&
      c.spellsSignature (typeParamNames params) ["_"] signature node
  | .interface params body, .stmt (.declare (.types [spec])) => spec.name == name &&
      c.spellsTypeParams (typeParamNames params) params spec.params && !spec.isAlias &&
      (match spec.type.form with
      | .interface elems => c.spellsBody (typeParamNames params) body elems
      | _ => false)
  | .struct params fields _, .stmt (.declare (.types [spec])) => spec.name == name &&
      c.spellsTypeParams (typeParamNames params) params spec.params && !spec.isAlias &&
      c.spells (typeParamNames params) (.struct fields) spec.type
  | .named params underlying isAlias _, .stmt (.declare (.types [spec])) => spec.name == name &&
      c.spellsTypeParams (typeParamNames params) params spec.params && spec.isAlias == isAlias &&
      c.spells (typeParamNames params) underlying spec.type
  | .value type true (some kind), .stmt (.declare (.consts [spec])) => spec.names == [name] &&
      c.spellsOption type spec.type &&
      (match spec.values with
      | [value] => spellsZero kind value.form
      | _ => false)
  | .value (some type) false _, .stmt (.declare (.vars [spec])) => spec.names == [name] &&
      c.spellsOption (some type) spec.type && spec.values.isEmpty
  | _, _ => false
where
  /-- The literal that is written for a constant of this kind. -/
  spellsZero : ConstantKind → ExprForm → Bool
    | .bool, .truth => true
    | .int, .literal .int => true
    | .rune, .literal .rune => true
    | .float, .literal .float => true
    | .complex, .literal .imaginary => true
    | .string, .literal .string => true
    | _, _ => false

/-- A method with its receiver: a pointer or not, the name of the type, and its type parameters. -/
def spellsMethod (c : StubScope) (receiver : String) (m : DeclaredMethod) :
    Syntax.TopLevel → Bool
  | .method [param] text node _ => text == m.name &&
      (match param.type.form with
      | .pointer inner => m.pointer && isReceiver inner
      | _ => !m.pointer && isReceiver param.type) &&
      c.spellsSignature m.receiverParams ["_"] m.signature node
  | _ => false
where
  isReceiver (node : TypeNode) : Bool :=
    match node.form with
    | .name _ => m.receiverParams.isEmpty && node.stretch.text == receiver
    | .generic base args => base.stretch.text == receiver &&
        args.map (fun a => Text.strip a.stretch.text) == m.receiverParams
    | _ => false

/-- What follows the declarations of a method set. -/
def afterDeclaredMethods? (c : StubScope) (receiver : String) :
    List DeclaredMethod → List Syntax.TopLevel → Option (List Syntax.TopLevel)
  | [], items => some items
  | m :: methods, item :: items =>
    if c.spellsMethod receiver m item then c.afterDeclaredMethods? receiver methods items else none
  | _, _ => none

/-- What follows the declarations of these records. -/
def afterRecords? (c : StubScope) :
    List Record → List Syntax.TopLevel → Option (List Syntax.TopLevel)
  | [], items => some items
  | r :: records, item :: items =>
    if c.spellsDeclaration r.name r.shape item then
      (c.afterDeclaredMethods? r.name r.shape.methods items).bind (c.afterRecords? records)
    else none
  | _, _ => none

end StubScope

/-- What follows the import declaration, if it lists these packages under their local names. -/
def ImportTable.afterImports? (imports : ImportTable) :
    List Syntax.TopLevel → Option (List Syntax.TopLevel)
  | .imports specs :: items => if spellsSpecs specs then some items else none
  | items => if imports.names.entries.isEmpty then some items else none
where
  spellsSpecs (specs : List Syntax.ImportSpec) : Bool :=
    specs.map (fun s => (s.path, s.localName?)) ==
      (imports.names.entries.filter (fun i => Name.isStandard i.1) ++
        imports.names.entries.filter (fun i => !Name.isStandard i.1)).map
          fun i => (i.1, some i.2)

/-- Whether a file spells the plan: its package, its imports, and then the declarations of its
records and nothing else. -/
def StubPlan.isSpeltBy (p : StubPlan) (file : Syntax.SourceFile) : Bool :=
  match file.items with
  | .package name :: items => name == p.packageName &&
      ((p.imports.afterImports? items).bind ((StubScope.ofPlan p).afterRecords? p.records)).any
        (·.isEmpty)
  | _ => false

/-- The names of a file stand for what they stand for in a stub. -/
structure FileScope.Serves (f : FileScope) (c : StubScope) : Prop where
  package : f.package = c.package
  qualifiers : ∀ path qualifier, c.qualifies path qualifier = true →
    f.packageOf? qualifier = some path

/-- The qualifier is the local name of a package that the type refers to. -/
def StubScope.Refers (c : StubScope) (qualifier : String) (t : GoType) : Prop :=
  ∃ path, t.UsesPackage path ∧ c.qualifies path qualifier = true

variable {c : StubScope} {f : FileScope} {bound : List String} {t : GoType} {node : TypeNode}
  {qualifier : String}

theorem GoType.usesPackage_iff {path : String} : t.UsesPackage path ↔
    (∃ name, t.Names path name) ∨ ∃ part ∈ t.parts, part.UsesPackage path := by
  constructor
  · rintro ⟨u, hu, hnames⟩
    rcases occurs_iff.mp hu with rfl | ⟨part, hp, hu⟩
    · exact Or.inl hnames
    · exact Or.inr ⟨part, hp, u, hu, hnames⟩
  · rintro (hnames | ⟨part, hp, u, hu, hnames⟩)
    · exact ⟨t, .here, hnames⟩
    · exact ⟨u, .inside hp hu, hnames⟩

theorem StubScope.refers_iff : c.Refers qualifier t ↔
    (∃ path name, t.Names path name ∧ c.qualifies path qualifier = true) ∨
      ∃ part ∈ t.parts, c.Refers qualifier part := by
  simp only [Refers, GoType.usesPackage_iff (t := t), or_and_right, exists_or]
  constructor
  · rintro (⟨path, ⟨name, hnames⟩, hq⟩ | ⟨path, ⟨part, hp, huses⟩, hq⟩)
    · exact Or.inl ⟨path, name, hnames, hq⟩
    · exact Or.inr ⟨part, hp, path, huses, hq⟩
  · rintro (⟨path, name, hnames, hq⟩ | ⟨part, hp, path, huses, hq⟩)
    · exact Or.inl ⟨path, ⟨name, hnames⟩, hq⟩
    · exact Or.inr ⟨path, ⟨part, hp, huses⟩, hq⟩

/-- The node is read as the type, and its qualifiers are those of the packages the type refers to.
-/
structure ReadsAs (c : StubScope) (f : FileScope) (bound : List String) (node : TypeNode)
    (t : GoType) : Prop where
  type : readType f bound node = t
  qualifiers : ∀ qualifier, qualifier ∈ typeQualifiers node ↔ c.Refers qualifier t

/-- A package has one local name. -/
theorem StubScope.qualifies_eq (c : StubScope) {path q q' : String}
    (h : c.qualifies path q = true) (h' : c.qualifies path q' = true) : q = q' := by
  simp only [qualifies, Bool.and_eq_true, beq_iff_eq] at h h'
  exact Option.some.inj (h.2.symm.trans h'.2)

theorem not_qualifies_own : ¬ c.qualifies c.package qualifier = true := by
  simp [StubScope.qualifies]

/-- A name is read as the type it is the name of. -/
theorem readType_of_names {package name : String} (hs : f.Serves c)
    (h : c.names bound package name node = true) :
    readType f bound node = .plain package name ∧
      ∀ qualifier, qualifier ∈ typeQualifiers node ↔ c.qualifies package qualifier = true := by
  obtain ⟨s, form⟩ := node
  unfold StubScope.names at h
  dsimp only at h
  split at h
  next text =>
    simp only [Bool.and_eq_true, beq_iff_eq, Bool.not_eq_true'] at h
    obtain ⟨⟨⟨rfl, rfl⟩, hbound⟩, hpredeclared⟩ := h
    refine ⟨?_, fun qualifier => ?_⟩
    · simp only [readType, readForm, FileScope.namedType, hbound, hpredeclared, hs.package,
        Bool.false_eq_true, ↓reduceIte]
    · simp [typeQualifiers, formQualifiers, not_qualifies_own]
  next q text =>
    simp only [Bool.and_eq_true, beq_iff_eq] at h
    obtain ⟨hq, rfl⟩ := h
    refine ⟨?_, fun qualifier => ?_⟩
    · simp [readType, readForm, FileScope.qualifiedType, hs.qualifiers _ _ hq]
    · simp only [typeQualifiers, formQualifiers, List.mem_singleton]
      constructor
      · rintro rfl
        exact hq
      · exact fun hq' => c.qualifies_eq hq' hq
  next => cases h

theorem arrayLength_of_spellsLength {length : ArrayLength} {count : ExprNode} (hs : f.Serves c)
    (h : c.spellsLength length count = true) :
    f.arrayLength count = length ∧ ∀ qualifier, qualifier ∈ lengthQualifiers count ↔
      ∃ path name, length = .constant path name ∧ c.qualifies path qualifier = true := by
  obtain ⟨s, form⟩ := count
  cases length with
  | literal value =>
    rw [StubScope.spellsLength] at h
    split at h
    next heq =>
      obtain rfl : form = .literal .int := heq
      obtain rfl : s.text = value := by simpa using h
      simp [FileScope.arrayLength, lengthQualifiers]
    next => cases h
  | constant package name =>
    rw [StubScope.spellsLength] at h
    split at h
    next operand field heq =>
      obtain rfl : form = .selector operand field := heq
      obtain ⟨s', form⟩ := operand
      obtain ⟨hfield, h⟩ := Bool.and_eq_true_iff.mp h
      obtain rfl : field = name := by simpa using hfield
      split at h
      next q heq =>
        obtain rfl : form = .name q := heq
        refine ⟨?_, fun qualifier => ?_⟩
        · simp [FileScope.arrayLength, hs.qualifiers _ _ h]
        · simp only [lengthQualifiers, List.mem_singleton, ArrayLength.constant.injEq]
          constructor
          · rintro rfl
            exact ⟨package, field, ⟨rfl, rfl⟩, h⟩
          · rintro ⟨path, name, ⟨rfl, rfl⟩, hq⟩
            exact c.qualifies_eq hq h
      next => simp at h
    next => cases h
  | expr text => cases h

/-- Of a type that is no name itself the qualifiers are those of its parts. -/
theorem ReadsAs.ofParts (htype : readType f bound node = t)
    (hnames : ∀ path name, ¬ t.Names path name)
    (hqualifiers : ∀ qualifier, qualifier ∈ typeQualifiers node ↔
      ∃ part ∈ t.parts, c.Refers qualifier part) : ReadsAs c f bound node t := by
  refine ⟨htype, fun qualifier => ?_⟩
  rw [hqualifiers, StubScope.refers_iff (t := t)]
  simp [hnames]

/-- A node over one inner node, for a type with one part. -/
theorem ReadsAs.over {elem : GoType} {inner : TypeNode} (h : ReadsAs c f bound inner elem)
    (htype : readType f bound node = t) (hparts : t.parts = [elem])
    (hnames : ∀ path name, ¬ t.Names path name)
    (hqualifiers : typeQualifiers node = typeQualifiers inner) : ReadsAs c f bound node t := by
  refine .ofParts htype hnames fun qualifier => ?_
  simp [hqualifiers, h.qualifiers, hparts]

section Step

variable {s : Syntax.Stretch} {form : TypeForm}

/-- A plain name has no qualifier. -/
theorem ReadsAs.ofName {text : String} (htype : readType f bound ⟨s, .name text⟩ = t)
    (hparts : t.parts = []) (hnames : ∀ path name, ¬ t.Names path name) :
    ReadsAs c f bound ⟨s, .name text⟩ t := by
  refine .ofParts htype hnames fun qualifier => ?_
  simp [typeQualifiers, formQualifiers, hparts]

theorem readsAs_builtin {name : String}
    (h : c.spells bound (.builtin name) ⟨s, form⟩ = true) :
    ReadsAs c f bound ⟨s, form⟩ (.builtin name) := by
  rw [StubScope.spells] at h
  split at h
  next text heq =>
    obtain rfl : form = .name text := heq
    simp only [Bool.and_eq_true, beq_iff_eq, Bool.not_eq_true'] at h
    obtain ⟨⟨rfl, hbound⟩, hpredeclared⟩ := h
    refine .ofName ?_ rfl fun _ _ => id
    simp only [readType, readForm, FileScope.namedType, hbound, hpredeclared, Bool.false_eq_true,
      ↓reduceIte]
  next => cases h

theorem readsAs_param {name : String} (h : c.spells bound (.param name) ⟨s, form⟩ = true) :
    ReadsAs c f bound ⟨s, form⟩ (.param name) := by
  rw [StubScope.spells] at h
  split at h
  next text heq =>
    obtain rfl : form = .name text := heq
    simp only [Bool.and_eq_true, beq_iff_eq] at h
    obtain ⟨rfl, hbound⟩ := h
    refine .ofName ?_ rfl fun _ _ => id
    simp only [readType, readForm, FileScope.namedType, hbound, ↓reduceIte]
  next => cases h

theorem readsAs_map {key value : GoType}
    (ihkey : ∀ node, c.spells bound key node = true → ReadsAs c f bound node key)
    (ihvalue : ∀ node, c.spells bound value node = true → ReadsAs c f bound node value)
    (h : c.spells bound (.map key value) ⟨s, form⟩ = true) :
    ReadsAs c f bound ⟨s, form⟩ (.map key value) := by
  rw [StubScope.spells] at h
  split at h
  next first second heq =>
    obtain rfl : form = .map first second := heq
    rw [Bool.and_eq_true] at h
    have hfirst := ihkey first h.1
    have hsecond := ihvalue second h.2
    refine .ofParts (by rw [readType, readForm, hfirst.type, hsecond.type]) (fun _ _ => id)
      fun qualifier => ?_
    simp [typeQualifiers, formQualifiers, hfirst.qualifiers, hsecond.qualifiers, GoType.parts]
  next => cases h

end Step

end GoStub
