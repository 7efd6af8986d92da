import GoStub.Proofs.Restatement
import GoStub.Proofs.Spelling

/-! Reading a tree that spells a type gives the type, and the qualifiers met are the local names of
the packages that the type refers to. -/

namespace GoStub

open Syntax (TypeNode TypeForm ExprNode ExprForm)

variable {c : StubScope} {f : FileScope} {bound : List String} {t : GoType} {node : TypeNode}
  {qualifier : String}

section Lists

variable {ts : List GoType} {elems rest : List Syntax.Elem}

theorem readTypes_of_spellsAll {nodes : List TypeNode}
    (ih : ∀ t ∈ ts, ∀ node, c.spells bound t node = true → ReadsAs c f bound node t)
    (h : c.spellsAll bound ts nodes = true) :
    readTypes f bound nodes = ts ∧
      ∀ qualifier, qualifier ∈ listQualifiers nodes ↔ ∃ t ∈ ts, c.Refers qualifier t := by
  induction ts generalizing nodes with
  | nil =>
    cases nodes with
    | nil => simp [readTypes, listQualifiers]
    | cons node nodes => cases h
  | cons t ts ih' =>
    cases nodes with
    | nil => cases h
    | cons node nodes =>
      obtain ⟨ht, hts⟩ := List.forall_mem_cons.mp ih
      rw [StubScope.spellsAll, Bool.and_eq_true] at h
      have hnode := ht node h.1
      obtain ⟨hread, hqualifiers⟩ := ih' hts h.2
      refine ⟨?_, fun qualifier => ?_⟩
      · rw [readTypes, hnode.type, hread]
      · simp [listQualifiers, hnode.qualifiers, hqualifiers]

/-- Parameters with one name or none are read one by one. -/
theorem readParams_of_spellsParams {names : List String} {variadic : Bool}
    {params : List Syntax.Param} (hnames : names.length ≤ 1)
    (ih : ∀ t ∈ ts, ∀ node, c.spells bound t node = true → ReadsAs c f bound node t)
    (h : c.spellsParams bound names variadic ts params = true) :
    readParams f bound params = ts ∧
      params.any (·.variadic) = (variadic && !ts.isEmpty) ∧
      ∀ qualifier, qualifier ∈ paramQualifiers params ↔ ∃ t ∈ ts, c.Refers qualifier t := by
  induction ts generalizing params with
  | nil =>
    cases params with
    | nil => simp [readParams, paramQualifiers]
    | cons param params => cases h
  | cons t ts ih' =>
    cases params with
    | nil => cases h
    | cons param params =>
      obtain ⟨paramNames, type, isVariadic⟩ := param
      obtain ⟨ht, hts⟩ := List.forall_mem_cons.mp ih
      simp only [StubScope.spellsParams, Bool.and_eq_true, beq_iff_eq] at h
      obtain ⟨⟨⟨rfl, rfl⟩, htype⟩, hrest⟩ := h
      have hnode := ht type htype
      obtain ⟨hread, hany, hqualifiers⟩ := ih' hts hrest
      refine ⟨?_, ?_, fun qualifier => ?_⟩
      · rw [readParams, hnode.type, hread, max_eq_left hnames, ite_self]
        rfl
      · rw [List.any_cons, hany]
        cases variadic <;> cases ts <;> rfl
      · simp [paramQualifiers, hnode.qualifiers, hqualifiers]

theorem readSignature_of_spellsSignature {names : List String} {signature : Signature}
    {node : Syntax.Signature} (hnames : names.length ≤ 1)
    (ih : ∀ t ∈ signature.types, ∀ node, c.spells bound t node = true → ReadsAs c f bound node t)
    (h : c.spellsSignature bound names signature node = true) :
    readSignature f bound node = signature ∧ ∀ qualifier,
      qualifier ∈ signatureQualifiers node ↔ ∃ t ∈ signature.types, c.Refers qualifier t := by
  obtain ⟨params, variadic, results⟩ := signature
  obtain ⟨inputs, outputs⟩ := node
  simp only [StubScope.spellsSignature, Bool.and_eq_true, Bool.not_eq_true'] at h
  obtain ⟨⟨hvariadic, hinputs⟩, houtputs⟩ := h
  obtain ⟨ihparams, ihresults⟩ := List.forall_mem_append.mp ih
  obtain ⟨hparams, hany, hinputs⟩ := readParams_of_spellsParams hnames ihparams hinputs
  have hnone : ([] : List String).length ≤ 1 := Nat.zero_le 1
  obtain ⟨hresults, -, houtputs⟩ := readParams_of_spellsParams hnone ihresults houtputs
  refine ⟨?_, fun qualifier => ?_⟩
  · rw [readSignature, hparams, hany, hresults]
    cases variadic <;> simp_all
  · simp [signatureQualifiers, Signature.types, hinputs, houtputs, or_and_right, exists_or]

/-- Elements that spell types are embedded if they can be, and restrict the interface otherwise. -/
theorem readElems_of_afterTypes
    (ih : ∀ t ∈ ts, ∀ node, c.spells bound t node = true → ReadsAs c f bound node t)
    (h : c.afterTypes? bound ts elems = some rest) :
    readElems f bound elems = ⟨(readElems f bound rest).methods,
      ts.filter (·.isEmbeddable) ++ (readElems f bound rest).embedded,
      ts.filter (!·.isEmbeddable) ++ (readElems f bound rest).typeSets⟩ ∧
      ∀ qualifier, qualifier ∈ elemQualifiers elems ↔
        (∃ t ∈ ts, c.Refers qualifier t) ∨ qualifier ∈ elemQualifiers rest := by
  induction ts generalizing elems with
  | nil =>
    cases h
    cases readElems f bound rest
    simp
  | cons t ts ih' =>
    obtain ⟨ht, hts⟩ := List.forall_mem_cons.mp ih
    cases elems with
    | nil => cases h
    | cons elem elems =>
      cases elem with
      | method name signature => cases h
      | type node =>
        rw [StubScope.afterTypes?] at h
        split at h
        next hspells =>
          have hnode := ht node hspells
          obtain ⟨hread, hqualifiers⟩ := ih' hts h
          refine ⟨?_, fun qualifier => ?_⟩
          · rw [readElems, hnode.type, hread, InterfaceBody.addType]
            cases hembeddable : t.isEmbeddable <;> simp [hembeddable]
          · simp [elemQualifiers, hnode.qualifiers, hqualifiers, or_assoc]
        next => cases h

theorem readElems_of_afterMethods {methods : List Method}
    (ih : ∀ t ∈ methods.flatMap (·.signature.types), ∀ node, c.spells bound t node = true →
      ReadsAs c f bound node t)
    (h : c.afterMethods? bound methods elems = some rest) :
    readElems f bound elems = ⟨methods ++ (readElems f bound rest).methods,
      (readElems f bound rest).embedded, (readElems f bound rest).typeSets⟩ ∧
      ∀ qualifier, qualifier ∈ elemQualifiers elems ↔
        (∃ t ∈ methods.flatMap (·.signature.types), c.Refers qualifier t) ∨
          qualifier ∈ elemQualifiers rest := by
  induction methods generalizing elems with
  | nil =>
    cases h
    cases readElems f bound rest
    simp
  | cons m methods ih' =>
    obtain ⟨name, signature⟩ := m
    rw [List.flatMap_cons, List.forall_mem_append] at ih
    cases elems with
    | nil => cases h
    | cons elem elems =>
      cases elem with
      | type node => cases h
      | method text node =>
        rw [StubScope.afterMethods?] at h
        split at h
        next hspells =>
          rw [Bool.and_eq_true, beq_iff_eq] at hspells
          obtain ⟨rfl, hspells⟩ := hspells
          have hnone : ([] : List String).length ≤ 1 := Nat.zero_le 1
          obtain ⟨hsignature, hquals⟩ := readSignature_of_spellsSignature hnone ih.1 hspells
          obtain ⟨hread, hqualifiers⟩ := ih' ih.2 h
          refine ⟨?_, fun qualifier => ?_⟩
          · rw [readElems, hsignature, hread, InterfaceBody.addMethod]
            rfl
          · rw [elemQualifiers, List.mem_append, hquals, hqualifiers, List.flatMap_cons]
            simp only [List.mem_append, or_and_right, exists_or, or_assoc]
        next => cases h

/-- The elements of an interface are read as the interface, with its members sorted anew. -/
theorem readElems_of_spellsBody {body : InterfaceBody}
    (ih : ∀ t ∈ body.types, ∀ node, c.spells bound t node = true → ReadsAs c f bound node t)
    (h : c.spellsBody bound body elems = true) :
    readElems f bound elems = body.reread ∧ ∀ qualifier,
      qualifier ∈ elemQualifiers elems ↔ ∃ t ∈ body.types, c.Refers qualifier t := by
  obtain ⟨methods, embedded, typeSets⟩ := body
  simp only [InterfaceBody.types, List.forall_mem_append] at ih
  obtain ⟨ihmethods, ihembedded, ihtypeSets⟩ := ih
  simp only [StubScope.spellsBody, Option.any_eq_true, Option.bind_eq_some_iff,
    List.isEmpty_iff] at h
  obtain ⟨rest, ⟨rest₂, ⟨rest₁, h₁, h₂⟩, h₃⟩, rfl⟩ := h
  obtain ⟨hread₁, hquals₁⟩ := readElems_of_afterTypes ihembedded h₁
  obtain ⟨hread₂, hquals₂⟩ := readElems_of_afterMethods ihmethods h₂
  obtain ⟨hread₃, hquals₃⟩ := readElems_of_afterTypes ihtypeSets h₃
  refine ⟨?_, fun qualifier => ?_⟩
  · rw [hread₁, hread₂, hread₃]
    simp [InterfaceBody.reread, readElems]
  · rw [hquals₁, hquals₂, hquals₃]
    simp only [InterfaceBody.types, List.mem_append, or_and_right, exists_or, elemQualifiers,
      List.not_mem_nil, or_false]
    exact or_left_comm

theorem readType_wholeType (field : Syntax.Field) : readType f bound field.wholeType =
    if field.starred then .pointer (readType f bound field.type)
    else readType f bound field.type := by
  unfold Syntax.Field.wholeType
  split <;> rfl

theorem typeQualifiers_wholeType (field : Syntax.Field) :
    typeQualifiers field.wholeType = typeQualifiers field.type := by
  unfold Syntax.Field.wholeType
  split <;> rfl

/-- A declaration of one field, or of an embedded one that has the name of its type. -/
theorem ofDeclaration_of_spells {field : Syntax.Field} {name : String} {type : GoType}
    {embedded : Bool} (htype : readType f bound field.wholeType = type)
    (hname : (if embedded then field.names.isEmpty && type.embeddedAs == some name
      else field.names == [name] && !field.starred) = true) :
    Field.ofDeclaration field.names field.starred (readType f bound field.type) field.tag
      field.stretch.text = [⟨name, type, embedded, field.tag⟩] := by
  rw [readType_wholeType] at htype
  cases embedded with
  | false =>
    simp only [Bool.false_eq_true, ↓reduceIte, Bool.and_eq_true, beq_iff_eq,
      Bool.not_eq_true'] at hname
    rw [hname.2, if_neg Bool.false_ne_true] at htype
    rw [hname.1, htype]
    rfl
  | true =>
    simp only [↓reduceIte, Bool.and_eq_true, beq_iff_eq, List.isEmpty_iff] at hname
    rw [hname.1, Field.ofDeclaration]
    simp only [htype, hname.2, Option.getD_some]

theorem readFields_of_spellsFields {fields : List Field} {nodes : List Syntax.Field}
    (ih : ∀ t ∈ fields.map (·.type), ∀ node, c.spells bound t node = true →
      ReadsAs c f bound node t)
    (h : c.spellsFields bound fields nodes = true) :
    readFields f bound nodes = fields ∧ ∀ qualifier,
      qualifier ∈ fieldQualifiers nodes ↔ ∃ t ∈ fields.map (·.type), c.Refers qualifier t := by
  induction fields generalizing nodes with
  | nil =>
    cases nodes with
    | nil => simp [readFields, fieldQualifiers]
    | cons node nodes => cases h
  | cons field fields ih' =>
    obtain ⟨name, type, embedded, tag⟩ := field
    cases nodes with
    | nil => cases h
    | cons node nodes =>
      obtain ⟨htype, hfields⟩ := List.forall_mem_cons.mp ih
      simp only [StubScope.spellsFields, Bool.and_eq_true, beq_iff_eq] at h
      obtain ⟨⟨⟨rfl, hname⟩, hspells⟩, hrest⟩ := h
      have hnode := htype _ hspells
      obtain ⟨hread, hqualifiers⟩ := ih' hfields hrest
      have hdecl := ofDeclaration_of_spells hnode.type hname
      have hquals := typeQualifiers_wholeType node ▸ hnode.qualifiers
      obtain ⟨s, names, starred, typeNode, tag⟩ := node
      refine ⟨?_, fun qualifier => ?_⟩
      · rw [readFields, hread, hdecl]
        rfl
      · simp [fieldQualifiers, hquals, hqualifiers]

end Lists

theorem readType_unparen (f : FileScope) (bound : List String) (node : TypeNode) :
    readType f bound node.unparen = readType f bound node ∧
      typeQualifiers node.unparen = typeQualifiers node := by
  fun_induction Syntax.TypeNode.unparen node with
  | case1 s inner ih => exact ih
  | case2 node h => exact ⟨rfl, rfl⟩

section Step

variable {s : Syntax.Stretch} {form : TypeForm}

theorem readsAs_named {package name : String} {args : List GoType} (hs : f.Serves c)
    (ih : ∀ t ∈ args, ∀ node, c.spells bound t node = true → ReadsAs c f bound node t)
    (h : c.spells bound (.named package name args) ⟨s, form⟩ = true) :
    ReadsAs c f bound ⟨s, form⟩ (.named package name args) := by
  have hrefers (qualifier : String) : c.Refers qualifier (.named package name args) ↔
      c.qualifies package qualifier = true ∨ ∃ t ∈ args, c.Refers qualifier t := by
    rw [StubScope.refers_iff]
    simp [GoType.Names, GoType.parts]
  rw [StubScope.spells] at h
  split at h
  next base nodes heq =>
    obtain rfl : form = .generic base nodes := heq
    simp only [Bool.and_eq_true] at h
    obtain ⟨⟨-, hbase⟩, hargs⟩ := h
    obtain ⟨hbase, hquals⟩ := readType_of_names hs hbase
    obtain ⟨hargs, hqualifiers⟩ := readTypes_of_spellsAll ih hargs
    refine ⟨?_, fun qualifier => ?_⟩
    · rw [readType, readForm, hbase, hargs]
      rfl
    · simp [typeQualifiers, formQualifiers, hquals, hqualifiers, hrefers]
  next =>
    simp only [Bool.and_eq_true, List.isEmpty_iff] at h
    obtain ⟨rfl, h⟩ := h
    obtain ⟨htype, hquals⟩ := readType_of_names hs h
    exact ⟨htype, fun qualifier => by simp [hquals, hrefers]⟩

theorem readsAs_array {length : ArrayLength} {elem : GoType} (hs : f.Serves c)
    (ih : ∀ node, c.spells bound elem node = true → ReadsAs c f bound node elem)
    (h : c.spells bound (.array length elem) ⟨s, form⟩ = true) :
    ReadsAs c f bound ⟨s, form⟩ (.array length elem) := by
  rw [StubScope.spells] at h
  split at h
  next count inner heq =>
    obtain rfl : form = .array count inner := heq
    rw [Bool.and_eq_true] at h
    obtain ⟨hlength, hquals⟩ := arrayLength_of_spellsLength hs h.1
    have hinner := ih inner h.2
    refine ⟨by rw [readType, readForm, hlength, hinner.type], fun qualifier => ?_⟩
    rw [StubScope.refers_iff, typeQualifiers, formQualifiers, List.mem_append, hquals,
      hinner.qualifiers]
    simp only [GoType.parts, List.mem_singleton, exists_eq_left]
    refine or_congr_left ?_
    cases length <;> simp [GoType.Names]
  next => cases h

theorem readsAs_interface {body : InterfaceBody}
    (ih : ∀ t ∈ body.types, ∀ node, c.spells bound t node = true → ReadsAs c f bound node t)
    (h : c.spells bound (.interface body) ⟨s, form⟩ = true) :
    ReadsAs c f bound ⟨s, form⟩ (.interface body) := by
  rw [StubScope.spells] at h
  split at h
  next elems heq =>
    obtain rfl : form = .interface elems := heq
    simp only [Bool.and_eq_true, List.all_eq_true, Bool.not_eq_true'] at h
    obtain ⟨⟨hembedded, htypeSets⟩, h⟩ := h
    obtain ⟨hread, hquals⟩ := readElems_of_spellsBody ih h
    refine .ofParts ?_ (fun _ _ => id) fun qualifier => ?_
    · rw [readType, readForm, hread, InterfaceBody.reread_eq hembedded htypeSets]
    · exact hquals qualifier
  next => cases h

end Step

/-- A node that spells a type is read as it. -/
theorem readsAs_of_spells (hs : f.Serves c) (h : c.spells bound t node = true) :
    ReadsAs c f bound node t := by
  induction t using GoType.inductionOnParts generalizing node with
  | step t ih =>
    have ih (part : GoType) (hp : part ∈ t.parts) (node : TypeNode)
        (h : c.spells bound part node = true) : ReadsAs c f bound node part := ih part hp h
    obtain ⟨s, form⟩ := node
    cases t with
    | builtin name => exact readsAs_builtin h
    | param name => exact readsAs_param h
    | named package name args => exact readsAs_named hs ih h
    | array length elem => exact readsAs_array hs (ih elem List.mem_cons_self) h
    | map key value =>
      exact readsAs_map (ih key List.mem_cons_self) (ih value (.tail _ List.mem_cons_self)) h
    | interface body => exact readsAs_interface ih h
    | unsupported reason => cases h
    | pointer elem =>
      rw [StubScope.spells] at h
      split at h
      next inner heq =>
        obtain rfl : form = .pointer inner := heq
        have hinner := ih elem List.mem_cons_self inner h
        exact hinner.over (by rw [readType, readForm, hinner.type]) rfl (fun _ _ => id) rfl
      next => cases h
    | slice elem =>
      rw [StubScope.spells] at h
      split at h
      next inner heq =>
        obtain rfl : form = .slice inner := heq
        have hinner := ih elem List.mem_cons_self inner h
        exact hinner.over (by rw [readType, readForm, hinner.type]) rfl (fun _ _ => id) rfl
      next => cases h
    | tilde elem =>
      rw [StubScope.spells] at h
      split at h
      next inner heq =>
        obtain rfl : form = .tilde inner := heq
        have hinner := ih elem List.mem_cons_self inner h
        exact hinner.over (by rw [readType, readForm, hinner.type]) rfl (fun _ _ => id) rfl
      next => cases h
    | chan direction elem =>
      rw [StubScope.spells] at h
      split at h
      next arrow inner heq =>
        obtain rfl : form = .chan arrow inner := heq
        simp only [Bool.and_eq_true, beq_iff_eq] at h
        obtain ⟨rfl, h⟩ := h
        have hinner := ih elem List.mem_cons_self inner.unparen h
        obtain ⟨hread, hquals⟩ := readType_unparen f bound inner
        exact hinner.over (by rw [readType, readForm, ← hread, hinner.type]) rfl (fun _ _ => id)
          hquals.symm
      next => cases h
    | func signature =>
      rw [StubScope.spells] at h
      split at h
      next inner heq =>
        obtain rfl : form = .func inner := heq
        have hnone : ([] : List String).length ≤ 1 := Nat.zero_le 1
        obtain ⟨hread, hquals⟩ := readSignature_of_spellsSignature hnone ih h
        exact .ofParts (by rw [readType, readForm, hread]) (fun _ _ => id) hquals
      next => cases h
    | struct fields =>
      rw [StubScope.spells] at h
      split at h
      next inner heq =>
        obtain rfl : form = .struct inner := heq
        obtain ⟨hread, hquals⟩ := readFields_of_spellsFields ih h
        exact .ofParts (by rw [readType, readForm, hread]) (fun _ _ => id) hquals
      next => cases h
    | union terms =>
      rw [StubScope.spells] at h
      split at h
      next inner heq =>
        obtain rfl : form = .union inner := heq
        obtain ⟨hread, hquals⟩ := readTypes_of_spellsAll ih h
        refine .ofParts ?_ (fun _ _ => id) hquals
        rw [readType, readForm, hread, GoType.parts]
      next => cases h

end GoStub
