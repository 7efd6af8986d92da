import GoStub.Proofs.PlanTree
import GoStub.Proofs.Spelling

/-! A file with the syntax of a plan spells the plan, if each name in it means what the plan has in
its place: a plain name that is neither bound nor predeclared is one of the package itself. -/

namespace GoStub

open Syntax (TypeNode TypeForm ExprNode ExprForm TopLevel)

/-- Any number of arguments is only for the last parameter. -/
def Signature.isComplete (s : Signature) : Bool :=
  !(s.variadic && s.params.isEmpty)

namespace GoType

/-- Whether a name means the type where the parameters `bound` are, an embedded field has the name of
its type, and an interface has nothing among its type sets that could be embedded. -/
def isClearHere (package : String) (bound : List String) : GoType → Bool
  | .builtin name => Name.isPredeclared name && !bound.contains name
  | .param name => bound.contains name
  | .named path name _ =>
    path != package || (!Name.isPredeclared name && !bound.contains name)
  | .func signature => signature.isComplete
  | .struct fields => fields.all fun f => !f.embedded || f.type.embeddedAs == some f.name
  | .interface body => body.embedded.all (·.isEmbeddable) &&
      body.typeSets.all (!·.isEmbeddable) && body.methods.all (·.signature.isComplete)
  | _ => true

/-- All that occurs in the type is clear. -/
def Clear (package : String) (bound : List String) (t : GoType) : Prop :=
  ∀ u : GoType, u.Occurs t → u.isClearHere package bound = true

end GoType

section Types

variable {c : StubScope} {bound : List String} {t : GoType} {node : TypeNode}

/-- Where the syntax of a type stands, the type is spelt. -/
def SpeltBySame (c : StubScope) (bound : List String) (t : GoType) : Prop :=
  ∀ node, (t.tree c).sameAs node = true → c.spells bound t node = true

theorem Syntax.TypeNode.sameAs_ofName {name : String} (h : (ofName name).sameAs node = true) :
    node.form = .name name ∧ node.stretch.text = name := by
  rw [ofName, TypeNode.sameAs, TypeForm.sameAs] at h
  split at h
  next text heq =>
    simp only [Bool.and_eq_true, beq_iff_eq, Syntax.Stretch.text_ofText] at h
    obtain ⟨rfl, htext⟩ := h
    exact ⟨heq, htext.symm⟩
  next => cases h

theorem StubScope.names_of_sameAs {package name : String} {args : List GoType}
    (hwritable : (GoType.named package name args).WritableHere c)
    (hclear : (GoType.named package name args).isClearHere c.package bound = true)
    (h : (c.nameTree package name).sameAs node = true) :
    c.names bound package name node = true := by
  unfold nameTree at h
  split at h
  next hown =>
    simp only [GoType.isClearHere, hown, bne_self_eq_false, Bool.false_or] at hclear
    simpa [names, (TypeNode.sameAs_ofName h).1, hown, and_comm] using hclear
  next hother =>
    rw [TypeNode.sameAs, TypeForm.sameAs] at h
    split at h
    next qualifier text heq =>
      simp only [Bool.and_eq_true, beq_iff_eq] at h
      obtain ⟨rfl, rfl⟩ := h
      rw [GoType.WritableHere, if_neg hother] at hwritable
      obtain ⟨q, hq⟩ := Dict.contains_iff.mp hwritable
      have hlocal : c.imports.localName? package = some q := hq
      simp [names, heq, qualifies, qualifier, hlocal, hother]
    next => cases h

theorem StubScope.spells_of_names {package name : String} {args : List GoType}
    (hargs : args.isEmpty = true) (h : c.names bound package name node = true) :
    c.spells bound (.named package name args) node = true := by
  rw [spells]
  split
  next heq => simp [names, heq] at h
  next => rw [hargs, h, Bool.and_true]

theorem StubScope.spellsLength_of_sameAs {length : ArrayLength} {count : ExprNode}
    (hwritable : length.Writable c) (h : (c.lengthTree length).sameAs count = true) :
    c.spellsLength length count = true := by
  cases length with
  | literal value =>
    obtain ⟨hform, htext⟩ := ExprNode.sameAs_literal h
    simp [spellsLength, hform, htext]
  | constant package name =>
    obtain ⟨operand, hform, hoperand⟩ := ExprNode.sameAs_selector h
    obtain ⟨q, hq⟩ := Dict.contains_iff.mp hwritable.2
    have hlocal : c.imports.localName? package = some q := hq
    simp [spellsLength, hform, hoperand, qualifies, qualifier, hlocal, hwritable.1]
  | expr text => exact hwritable.elim

theorem StubScope.unparen_of_spells (h : c.spells bound t node = true) : node.unparen = node := by
  obtain ⟨s, form⟩ := node
  cases form with
  | paren inner => cases t <;> simp [spells, names] at h
  | _ => rfl

theorem spellsAll_of_sameTypes {ts : List GoType} {nodes : List TypeNode}
    (ih : ∀ t ∈ ts, SpeltBySame c bound t)
    (h : Syntax.sameTypes (typeTrees c ts) nodes = true) :
    c.spellsAll bound ts nodes = true := by
  induction ts generalizing nodes with
  | nil =>
    cases nodes with
    | nil => rfl
    | cons _ _ => cases h
  | cons t ts ih' =>
    cases nodes with
    | nil => cases h
    | cons node nodes =>
      obtain ⟨hhead, htail⟩ := List.forall_mem_cons.mp ih
      rw [typeTrees, Syntax.sameTypes, Bool.and_eq_true] at h
      rw [StubScope.spellsAll, hhead node h.1, ih' htail h.2, Bool.and_true]

theorem spellsParams_of_sameParams {names : List String} {variadic : Bool} {ts : List GoType}
    {params : List Syntax.Param} (ih : ∀ t ∈ ts, SpeltBySame c bound t)
    (h : Syntax.sameParams (paramTrees c names variadic ts) params = true) :
    c.spellsParams bound names variadic ts params = true := by
  induction ts generalizing params with
  | nil =>
    cases params with
    | nil => rfl
    | cons _ _ => cases h
  | cons t ts ih' =>
    cases params with
    | nil => cases h
    | cons param params =>
      obtain ⟨hhead, htail⟩ := List.forall_mem_cons.mp ih
      simp only [paramTrees, Syntax.sameParams, Bool.and_eq_true, beq_iff_eq] at h
      obtain ⟨⟨⟨hnames, hvariadic⟩, hsame⟩, h⟩ := h
      simp [StubScope.spellsParams, ← hnames, ← hvariadic, hhead _ hsame, ih' htail h]

theorem spellsSignature_of_sameAs {names : List String} {s : Signature} {node : Syntax.Signature}
    (ih : ∀ t ∈ s.types, SpeltBySame c bound t) (hcomplete : s.isComplete = true)
    (h : (s.tree c names).sameAs node = true) :
    c.spellsSignature bound names s node = true := by
  obtain ⟨params, variadic, results⟩ := s
  rw [Signature.tree, Syntax.Signature.sameAs, Bool.and_eq_true] at h
  have hparams := spellsParams_of_sameParams (fun t ht => ih t (List.mem_append_left _ ht)) h.1
  have hresults := spellsParams_of_sameParams (fun t ht => ih t (List.mem_append_right _ ht)) h.2
  rw [Signature.isComplete] at hcomplete
  rw [StubScope.spellsSignature, hcomplete, hparams, hresults]
  rfl

/-- The star of an embedded field stands before the rest of its type. -/
theorem sameAs_of_unstar {whole : TypeNode} {field : Syntax.Field}
    (hstar : whole.unstar.1 = field.starred) (h : whole.unstar.2.sameAs field.type = true) :
    whole.sameAs field.wholeType = true := by
  obtain ⟨s, form⟩ := whole
  cases form with
  | pointer elem =>
    rw [Syntax.Field.wholeType, ← hstar, TypeNode.unstar, if_pos rfl]
    exact h
  | _ =>
    rw [Syntax.Field.wholeType, ← hstar, if_neg (by simp [TypeNode.unstar])]
    exact h

theorem spellsFields_of_sameFields {fields : List Field} {nodes : List Syntax.Field}
    (ih : ∀ t ∈ fields.map (·.type), SpeltBySame c bound t)
    (hclear : ∀ field ∈ fields,
      (!field.embedded || field.type.embeddedAs == some field.name) = true)
    (h : Syntax.sameFields (fieldTrees c fields) nodes = true) :
    c.spellsFields bound fields nodes = true := by
  induction fields generalizing nodes with
  | nil =>
    cases nodes with
    | nil => rfl
    | cons _ _ => cases h
  | cons field fields ih' =>
    obtain ⟨name, type, embedded, tag⟩ := field
    cases nodes with
    | nil => cases embedded <;> cases h
    | cons node nodes =>
      obtain ⟨htype, htypes⟩ := List.forall_mem_cons.mp ih
      obtain ⟨hfield, hfields⟩ := List.forall_mem_cons.mp hclear
      cases embedded with
      | true =>
        simp only [fieldTrees, Syntax.Field.ofNode, if_true, Syntax.sameFields, Bool.and_eq_true,
          beq_iff_eq] at h
        obtain ⟨⟨⟨⟨hnames, hstar⟩, hsame⟩, htag⟩, h⟩ := h
        have hspells := htype _ (sameAs_of_unstar hstar hsame)
        simp only [Bool.not_true, Bool.false_or, beq_iff_eq] at hfield
        simp [StubScope.spellsFields, ← hnames, ← htag, hfield, hspells, ih' htypes hfields h]
      | false =>
        simp only [fieldTrees, Syntax.Field.ofNode, Bool.false_eq_true, if_false,
          Syntax.sameFields, Bool.and_eq_true, beq_iff_eq] at h
        obtain ⟨⟨⟨⟨hnames, hstar⟩, hsame⟩, htag⟩, h⟩ := h
        have hwhole : node.wholeType = node.type := by
          rw [Syntax.Field.wholeType, ← hstar, if_neg Bool.false_ne_true]
        simp [StubScope.spellsFields, ← hnames, ← htag, ← hstar, hwhole, htype _ hsame,
          ih' htypes hfields h]

/-- The elements that spell some types are followed by those for the rest. -/
theorem exists_afterTypes_of_sameElems {ts : List GoType} {rest elems : List Syntax.Elem}
    (ih : ∀ t ∈ ts, SpeltBySame c bound t)
    (h : Syntax.sameElems ((typeTrees c ts).map .type ++ rest) elems = true) :
    ∃ more, c.afterTypes? bound ts elems = some more ∧ Syntax.sameElems rest more = true := by
  induction ts generalizing elems with
  | nil => exact ⟨elems, rfl, h⟩
  | cons t ts ih' =>
    obtain ⟨hhead, htail⟩ := List.forall_mem_cons.mp ih
    cases elems with
    | nil => cases h
    | cons elem elems =>
      cases elem with
      | method name signature => cases h
      | type node =>
        rw [typeTrees, List.map_cons, List.cons_append, Syntax.sameElems, Bool.and_eq_true] at h
        rw [StubScope.afterTypes?, if_pos (hhead node h.1)]
        exact ih' htail h.2

theorem exists_afterMethods_of_sameElems {methods : List Method} {rest elems : List Syntax.Elem}
    (ih : ∀ m ∈ methods, ∀ t ∈ m.signature.types, SpeltBySame c bound t)
    (hcomplete : ∀ m ∈ methods, m.signature.isComplete = true)
    (h : Syntax.sameElems (methodTrees c methods ++ rest) elems = true) :
    ∃ more, c.afterMethods? bound methods elems = some more ∧
      Syntax.sameElems rest more = true := by
  induction methods generalizing elems with
  | nil => exact ⟨elems, rfl, h⟩
  | cons m methods ih' =>
    obtain ⟨name, signature⟩ := m
    obtain ⟨hhead, htail⟩ := List.forall_mem_cons.mp ih
    obtain ⟨hm, hmethods⟩ := List.forall_mem_cons.mp hcomplete
    cases elems with
    | nil => cases h
    | cons elem elems =>
      cases elem with
      | type node => cases h
      | method text node =>
        simp only [methodTrees, List.cons_append, Syntax.sameElems, Bool.and_eq_true,
          beq_iff_eq] at h
        obtain ⟨⟨rfl, hsame⟩, h⟩ := h
        have hspells := spellsSignature_of_sameAs hhead hm hsame
        rw [StubScope.afterMethods?, if_pos (by simp [hspells])]
        exact ih' htail hmethods h

theorem spellsBody_of_sameElems {body : InterfaceBody} {elems : List Syntax.Elem}
    (ih : ∀ t ∈ body.types, SpeltBySame c bound t)
    (hcomplete : ∀ m ∈ body.methods, m.signature.isComplete = true)
    (h : Syntax.sameElems (body.tree c) elems = true) : c.spellsBody bound body elems = true := by
  obtain ⟨methods, embedded, typeSets⟩ := body
  obtain ⟨hmethods, hembedded, htypeSets⟩ := InterfaceBody.forall_mem_types.mp ih
  rw [InterfaceBody.tree, List.append_assoc] at h
  obtain ⟨more, hmore, h⟩ := exists_afterTypes_of_sameElems hembedded h
  obtain ⟨sets, hsets, h⟩ := exists_afterMethods_of_sameElems hmethods hcomplete h
  rw [← List.append_nil (List.map _ _)] at h
  obtain ⟨last, hlast, h⟩ := exists_afterTypes_of_sameElems htypeSets h
  have hnil : last = [] := by
    cases last with
    | nil => rfl
    | cons _ _ => cases h
  rw [StubScope.spellsBody, hmore, Option.bind_some, hsets, Option.bind_some, hlast, hnil]
  rfl

/-- Where the syntax of a clear type stands, the type is spelt. -/
theorem GoType.Clear.speltBySame (hclear : t.Clear c.package bound) (htext : ∃ f, t.text c = .ok f) :
    SpeltBySame c bound t := by
  induction t using inductionOnParts with
  | step t ih =>
    obtain ⟨hwritable, htexts⟩ := (text_ok_step t).mp htext
    obtain ⟨hhere, hparts⟩ := forall_occurs_parts.mp hclear
    have hpart (u : GoType) (hu : u ∈ t.parts) : SpeltBySame c bound u :=
      ih u hu (hparts u hu) (htexts u hu)
    intro node h
    cases t with
    | builtin name =>
      rw [StubScope.spells, (TypeNode.sameAs_ofName h).1]
      simpa [isClearHere, and_comm] using hhere
    | param name =>
      rw [StubScope.spells, (TypeNode.sameAs_ofName h).1]
      simpa [isClearHere] using hhere
    | named package name args =>
      rw [tree] at h
      split at h
      next hargs =>
        have hnames := StubScope.names_of_sameAs hwritable hhere h
        exact StubScope.spells_of_names hargs hnames
      next hargs =>
        rw [TypeNode.sameAs, TypeForm.sameAs] at h
        split at h
        next base nodes heq =>
          rw [Bool.and_eq_true] at h
          have hall : c.spellsAll bound args nodes = true := spellsAll_of_sameTypes hpart h.2
          rw [StubScope.spells, heq]
          simp [hargs, StubScope.names_of_sameAs hwritable hhere h.1, hall]
        next => cases h
    | pointer elem | slice elem | tilde elem =>
      rw [tree, TypeNode.sameAs, TypeForm.sameAs] at h
      split at h
      next inner heq =>
        rw [StubScope.spells, heq]
        exact hpart elem List.mem_cons_self inner h
      next => cases h
    | array length elem =>
      rw [tree, TypeNode.sameAs, TypeForm.sameAs] at h
      split at h
      next count inner heq =>
        rw [Bool.and_eq_true] at h
        rw [StubScope.spells, heq]
        simp [StubScope.spellsLength_of_sameAs hwritable h.1,
          hpart elem List.mem_cons_self inner h.2]
      next => cases h
    | map key value =>
      rw [tree, TypeNode.sameAs, TypeForm.sameAs] at h
      split at h
      next first second heq =>
        rw [Bool.and_eq_true] at h
        rw [StubScope.spells, heq]
        simp [hpart key List.mem_cons_self first h.1,
          hpart value (List.mem_cons_of_mem _ List.mem_cons_self) second h.2]
      next => cases h
    | chan direction elem =>
      rw [tree, TypeNode.sameAs, TypeForm.sameAs] at h
      split at h
      next arrow inner heq =>
        simp only [Bool.and_eq_true, beq_iff_eq] at h
        obtain ⟨rfl, h⟩ := h
        have helem := hpart elem List.mem_cons_self
        have hinner : c.spells bound elem inner.unparen = true := by
          split at h
          · rw [TypeNode.sameAs, TypeForm.sameAs] at h
            split at h
            next within heq =>
              obtain ⟨s, form⟩ := inner
              obtain rfl : form = .paren within := heq
              have hspells := helem within h
              rwa [TypeNode.unparen, StubScope.unparen_of_spells hspells]
            next => cases h
          · have hspells := helem inner h
            rwa [StubScope.unparen_of_spells hspells]
        simp [StubScope.spells, heq, hinner]
      next => cases h
    | func signature =>
      rw [tree, TypeNode.sameAs, TypeForm.sameAs] at h
      split at h
      next inner heq =>
        rw [StubScope.spells, heq]
        exact spellsSignature_of_sameAs hpart hhere h
      next => cases h
    | struct fields =>
      rw [tree, TypeNode.sameAs, TypeForm.sameAs] at h
      split at h
      next inner heq =>
        rw [StubScope.spells, heq]
        exact spellsFields_of_sameFields hpart (List.all_eq_true.mp hhere) h
      next => cases h
    | interface body =>
      rw [tree, TypeNode.sameAs, TypeForm.sameAs] at h
      split at h
      next elems heq =>
        simp only [isClearHere, Bool.and_eq_true] at hhere
        obtain ⟨⟨hembedded, htypeSets⟩, hmethods⟩ := hhere
        rw [StubScope.spells, heq]
        simp [hembedded, htypeSets,
          spellsBody_of_sameElems hpart (List.all_eq_true.mp hmethods) h]
      next => cases h
    | union terms =>
      rw [tree, TypeNode.sameAs, TypeForm.sameAs] at h
      split at h
      next inner heq =>
        rw [StubScope.spells, heq]
        exact spellsAll_of_sameTypes hpart h
      next => cases h
    | unsupported reason => exact hwritable.elim

end Types

section Declarations

variable {c : StubScope} {bound : List String}

theorem spellsTypeParams_of_isEqv {params : List TypeParam} {nodes : List Syntax.TypeParam}
    (hclear : ∀ t ∈ constraintTypes params, t.Clear c.package bound)
    (htexts : ∀ t ∈ constraintTypes params, ∃ f, t.text c = .ok f)
    (h : (params.map (·.tree c)).isEqv nodes Syntax.TypeParam.sameAs = true) :
    c.spellsTypeParams bound params nodes = true := by
  induction params generalizing nodes with
  | nil =>
    cases nodes with
    | nil => rfl
    | cons _ _ => cases h
  | cons p params ih =>
    cases nodes with
    | nil => cases h
    | cons node nodes =>
      obtain ⟨hhead, htail⟩ := List.forall_mem_cons.mp hclear
      obtain ⟨htext, htexts⟩ := List.forall_mem_cons.mp htexts
      simp only [List.map_cons, List.isEqv, TypeParam.tree, Syntax.TypeParam.sameAs,
        Bool.and_eq_true, beq_iff_eq] at h
      obtain ⟨⟨hnames, hsame⟩, h⟩ := h
      simp [StubScope.spellsTypeParams, ← hnames, hhead.speltBySame htext _ hsame,
        ih htail htexts h]

theorem spellsOption_of_isEqv {type : Option GoType} {node : Option TypeNode}
    (ih : ∀ t ∈ type.toList, SpeltBySame c [] t)
    (h : (type.map (·.tree c)).toList.isEqv node.toList TypeNode.sameAs = true) :
    c.spellsOption type node = true := by
  cases type with
  | none =>
    cases node with
    | none => rfl
    | some _ => cases h
  | some type =>
    cases node with
    | none => cases h
    | some node =>
      simp only [Option.map_some, Option.toList_some, List.isEqv, Bool.and_true] at h
      exact ih type List.mem_cons_self node h

theorem spellsZero_of_sameAs {kind : ConstantKind} {value : ExprNode}
    (h : kind.zeroTree.sameAs value = true) :
    StubScope.spellsDeclaration.spellsZero kind value.form = true := by
  cases kind with
  | bool => rw [ExprNode.sameAs_truth h]; rfl
  | _ => rw [(ExprNode.sameAs_literal h).1]; rfl

theorem map_strip_of_sameTypes {names : List String} {nodes : List TypeNode}
    (hnames : ∀ name ∈ names, Syntax.isIdentifier name = true)
    (h : Syntax.sameTypes (names.map .ofName) nodes = true) :
    nodes.map (fun node => Text.strip node.stretch.text) = names := by
  induction names generalizing nodes with
  | nil =>
    cases nodes with
    | nil => rfl
    | cons _ _ => cases h
  | cons name names ih =>
    cases nodes with
    | nil => cases h
    | cons node nodes =>
      obtain ⟨hname, hnames⟩ := List.forall_mem_cons.mp hnames
      rw [List.map_cons, Syntax.sameTypes, Bool.and_eq_true] at h
      rw [List.map_cons, ih hnames h.2, (TypeNode.sameAs_ofName h.1).2, Syntax.strip_of_isIdentifier hname]

/-- The receiver of a method, without the star. -/
theorem isReceiver_of_sameAs {receiver : String} {m : DeclaredMethod} {node : TypeNode}
    (hparams : ∀ name ∈ m.receiverParams, Syntax.isIdentifier name = true)
    (h : (m.baseTree receiver).sameAs node = true) :
    StubScope.spellsMethod.isReceiver receiver m node = true := by
  unfold DeclaredMethod.baseTree at h
  split at h
  next hempty =>
    obtain ⟨hform, htext⟩ := TypeNode.sameAs_ofName h
    simp [StubScope.spellsMethod.isReceiver, hform, htext, hempty]
  next =>
    rw [TypeNode.sameAs, TypeForm.sameAs] at h
    split at h
    next base args heq =>
      rw [Bool.and_eq_true] at h
      simp [StubScope.spellsMethod.isReceiver, heq, (TypeNode.sameAs_ofName h.1).2,
        map_strip_of_sameTypes hparams h.2]
    next => cases h

theorem spellsMethod_of_sameAs {receiver : String} {m : DeclaredMethod} {item : TopLevel}
    (ih : ∀ t ∈ m.signature.types, SpeltBySame c m.receiverParams t)
    (hcomplete : m.signature.isComplete = true)
    (hparams : ∀ name ∈ m.receiverParams, Syntax.isIdentifier name = true)
    (h : (m.tree c receiver).sameAs item = true) : c.spellsMethod receiver m item = true := by
  cases item with
  | method params name signature body =>
    simp only [DeclaredMethod.tree, TopLevel.sameAs, Bool.and_eq_true, beq_iff_eq] at h
    obtain ⟨⟨hreceiver, rfl⟩, hsame⟩ := h
    rcases params with _ | ⟨param, _ | ⟨_, _⟩⟩
    · cases hreceiver
    · simp only [Syntax.sameParams, Bool.and_eq_true] at hreceiver
      obtain ⟨⟨-, hreceiver⟩, -⟩ := hreceiver
      rw [StubScope.spellsMethod, Bool.and_eq_true, Bool.and_eq_true]
      refine ⟨⟨beq_self_eq_true m.name, ?_⟩, spellsSignature_of_sameAs ih hcomplete hsame⟩
      unfold DeclaredMethod.receiverTree at hreceiver
      split at hreceiver
      next hpointer =>
        rw [TypeNode.sameAs, TypeForm.sameAs] at hreceiver
        split at hreceiver
        next inner heq => simp [heq, hpointer, isReceiver_of_sameAs hparams hreceiver]
        next => cases hreceiver
      next hpointer =>
        have hbase := isReceiver_of_sameAs hparams hreceiver
        split
        next inner heq => simp [StubScope.spellsMethod.isReceiver, heq] at hbase
        next => simp [hpointer, hbase]
    · simp [Syntax.sameParams] at hreceiver
  | _ => cases h

/-- Each type of a shape with the type parameters around it, a signature as that of a function. -/
def Shape.scopes : Shape → List (List String × GoType)
  | .function params signature => within params (constraintTypes params ++ [.func signature])
  | .interface params body => within params (constraintTypes params ++
      (body.methods.map (.func ·.signature) ++ (body.embedded ++ body.typeSets)))
  | .struct params fields methods =>
    within params (constraintTypes params ++ [.struct fields]) ++ methodScopes methods
  | .named params underlying _ methods =>
    within params (constraintTypes params ++ [underlying]) ++ methodScopes methods
  | .value type _ _ => type.toList.map ([], ·)
where
  within (params : List TypeParam) (types : List GoType) : List (List String × GoType) :=
    types.map (typeParamNames params, ·)
  methodScopes (methods : List DeclaredMethod) : List (List String × GoType) :=
    methods.map fun m => (m.receiverParams, .func m.signature)

theorem GoType.Clear.signature {package : String} {s : Signature}
    (h : (GoType.func s).Clear package bound) :
    s.isComplete = true ∧ ∀ t ∈ s.types, t.Clear package bound :=
  GoType.forall_occurs_parts.mp h

theorem spellsSignature_of_clear {names : List String} {s : Signature} {node : Syntax.Signature}
    (hclear : (GoType.func s).Clear c.package bound) (htexts : ∀ t ∈ s.types, ∃ f, t.text c = .ok f)
    (h : (s.tree c names).sameAs node = true) : c.spellsSignature bound names s node = true := by
  obtain ⟨hcomplete, htypes⟩ := hclear.signature
  exact spellsSignature_of_sameAs (fun t ht => (htypes t ht).speltBySame (htexts t ht)) hcomplete h

/-- The declaration of a type, up to its type parameters. -/
theorem exists_typeSpec_of_sameAs {name : String} {params : List TypeParam} {isAlias : Bool}
    {type : TypeNode} {item : TopLevel}
    (hclear : ∀ t ∈ constraintTypes params, t.Clear c.package (typeParamNames params))
    (htexts : ∀ t ∈ constraintTypes params, ∃ f, t.text c = .ok f)
    (h : TopLevel.sameAs
      (.stmt (.declare (.types [⟨name, params.map (·.tree c), isAlias, type⟩]))) item = true) :
    ∃ spec, item = .stmt (.declare (.types [spec])) ∧ spec.name = name ∧
      spec.isAlias = isAlias ∧
      c.spellsTypeParams (typeParamNames params) params spec.params = true ∧
      type.sameAs spec.type = true := by
  obtain ⟨spec, rfl, hspec⟩ := TopLevel.sameAs_types h
  simp only [Syntax.TypeSpec.sameAs, Bool.and_eq_true, beq_iff_eq] at hspec
  obtain ⟨⟨⟨hname, hparams⟩, halias⟩, hsame⟩ := hspec
  exact ⟨spec, rfl, hname.symm, halias.symm, spellsTypeParams_of_isEqv hclear htexts hparams, hsame⟩

/-- Where the syntax of a symbol stands, it is declared. -/
theorem spellsDeclaration_of_sameAs {name : String} {shape : Shape} {item : TopLevel}
    (hclear : ∀ s ∈ shape.scopes, s.2.Clear c.package s.1) (hcomplete : shape.ValueComplete)
    (htexts : ∀ t ∈ shape.types, ∃ f, t.text c = .ok f)
    (h : (shape.tree c name).sameAs item = true) : c.spellsDeclaration name shape item = true := by
  cases shape with
  | function params signature =>
    cases item with
    | func text nodes node body =>
      simp only [Shape.tree, TopLevel.sameAs, Bool.and_eq_true, beq_iff_eq] at h
      obtain ⟨⟨rfl, hparams⟩, hsame⟩ := h
      obtain ⟨hconstraints, hsignature⟩ := List.forall_mem_append.mp
        (List.forall_mem_map.mp hclear)
      obtain ⟨hparamTexts, htexts⟩ := List.forall_mem_append.mp htexts
      simp only [StubScope.spellsDeclaration, Bool.and_eq_true]
      exact ⟨⟨beq_self_eq_true name, spellsTypeParams_of_isEqv hconstraints hparamTexts hparams⟩,
        spellsSignature_of_clear (List.forall_mem_singleton.mp hsignature) htexts hsame⟩
    | _ => cases h
  | interface params body =>
    obtain ⟨hconstraints, hbody⟩ := List.forall_mem_append.mp (List.forall_mem_map.mp hclear)
    obtain ⟨hparamTexts, htexts⟩ := List.forall_mem_append.mp htexts
    obtain ⟨spec, rfl, hname, halias, hparams, hsame⟩ :=
      exists_typeSpec_of_sameAs hconstraints hparamTexts h
    obtain ⟨hmethods, htypes⟩ := List.forall_mem_append.mp hbody
    rw [TypeNode.sameAs, TypeForm.sameAs] at hsame
    split at hsame
    next elems heq =>
      have hspelt : c.spellsBody (typeParamNames params) body elems = true := by
        refine spellsBody_of_sameElems (fun t ht => ?_) (fun m hm => ?_) hsame
        · refine GoType.Clear.speltBySame ?_ (htexts t ht)
          rcases List.mem_append.mp ht with hmem | hmem
          · obtain ⟨m, hm, hmem⟩ := List.mem_flatMap.mp hmem
            exact (hmethods _ (List.mem_map_of_mem hm)).signature.2 t hmem
          · exact htypes t hmem
        · exact (hmethods _ (List.mem_map_of_mem hm)).signature.1
      simp [StubScope.spellsDeclaration, heq, hname, halias, hparams, hspelt]
    next => cases hsame
  | struct params fields methods =>
    obtain ⟨hclear, -⟩ := List.forall_mem_append.mp hclear
    obtain ⟨hconstraints, hfields⟩ := List.forall_mem_append.mp (List.forall_mem_map.mp hclear)
    obtain ⟨hparamTexts, htexts⟩ := List.forall_mem_append.mp htexts
    obtain ⟨-, htexts⟩ := List.forall_mem_append.mp htexts
    obtain ⟨spec, rfl, hname, halias, hparams, hsame⟩ :=
      exists_typeSpec_of_sameAs hconstraints hparamTexts h
    have htext : ∃ f, (GoType.struct fields).text c = .ok f :=
      (GoType.text_ok_step _).mpr ⟨trivial, htexts⟩
    have hspelt := (List.forall_mem_singleton.mp hfields).speltBySame htext _ hsame
    simp [StubScope.spellsDeclaration, hname, halias, hparams, hspelt]
  | named params underlying isAlias methods =>
    obtain ⟨hclear, -⟩ := List.forall_mem_append.mp hclear
    obtain ⟨hconstraints, hunderlying⟩ := List.forall_mem_append.mp (List.forall_mem_map.mp hclear)
    obtain ⟨hparamTexts, htexts⟩ := List.forall_mem_append.mp htexts
    obtain ⟨-, htexts⟩ := List.forall_mem_append.mp htexts
    obtain ⟨spec, rfl, hname, halias, hparams, hsame⟩ :=
      exists_typeSpec_of_sameAs hconstraints hparamTexts h
    have hspelt := (List.forall_mem_singleton.mp hunderlying).speltBySame
      (htexts underlying List.mem_cons_self) _ hsame
    simp [StubScope.spellsDeclaration, hname, halias, hparams, hspelt]
  | value type constant basic =>
    have hspelt (t : GoType) (ht : t ∈ type.toList) : SpeltBySame c [] t :=
      GoType.Clear.speltBySame (hclear ([], t) (List.mem_map_of_mem ht)) (htexts t ht)
    cases constant with
    | true =>
      obtain ⟨kind, rfl⟩ := Option.isSome_iff_exists.mp hcomplete
      obtain ⟨⟨names, node, values⟩, rfl, hspec⟩ := TopLevel.sameAs_consts h
      simp only [Syntax.ValueSpec.sameAs, Bool.and_eq_true, beq_iff_eq] at hspec
      obtain ⟨⟨rfl, htype⟩, hvalues⟩ := hspec
      rcases values with _ | ⟨value, _ | ⟨_, _⟩⟩
      · cases hvalues
      · simp only [Option.toList_some, List.map_cons, List.map_nil, List.isEqv,
          Bool.and_true] at hvalues
        simp [StubScope.spellsDeclaration, spellsOption_of_isEqv hspelt htype,
          spellsZero_of_sameAs hvalues]
      · simp [List.isEqv] at hvalues
    | false =>
      obtain ⟨type, rfl⟩ := Option.isSome_iff_exists.mp hcomplete
      obtain ⟨⟨names, node, values⟩, rfl, hspec⟩ := TopLevel.sameAs_vars h
      simp only [Syntax.ValueSpec.sameAs, Bool.and_eq_true, beq_iff_eq] at hspec
      obtain ⟨⟨rfl, htype⟩, hvalues⟩ := hspec
      cases values with
      | nil => simp [StubScope.spellsDeclaration, spellsOption_of_isEqv hspelt htype]
      | cons _ _ => cases hvalues

theorem isIdentifier_of_legibleTypes {names : List String} {role : Syntax.Role}
    (h : Syntax.legibleTypes role (names.map .ofName) = true) :
    ∀ name ∈ names, Syntax.isIdentifier name = true := by
  induction names with
  | nil => simp
  | cons name names ih =>
    rw [List.map_cons, Syntax.legibleTypes, Bool.and_eq_true] at h
    obtain ⟨hname, h⟩ := h
    rw [TypeNode.ofName, TypeNode.isLegible, TypeForm.isLegible, Bool.and_eq_true] at hname
    exact List.forall_mem_cons.mpr ⟨hname.1, ih h⟩

/-- The type parameters of a legible receiver are names. -/
theorem isIdentifier_of_method_tree {receiver : String} {m : DeclaredMethod}
    (h : (m.tree c receiver).isLegible = true) :
    ∀ name ∈ m.receiverParams, Syntax.isIdentifier name = true := by
  simp only [DeclaredMethod.tree, TopLevel.isLegible, Syntax.legibleParams, Bool.and_eq_true] at h
  have hbase : (m.baseTree receiver).isLegible .alone = true := by
    have hreceiver := h.1.1.1.1.2
    unfold DeclaredMethod.receiverTree at hreceiver
    split at hreceiver
    · exact hreceiver
    · exact hreceiver
  unfold DeclaredMethod.baseTree at hbase
  split at hbase
  next hempty => simp [List.isEmpty_iff.mp hempty]
  next =>
    rw [TypeNode.isLegible, TypeForm.isLegible, Bool.and_eq_true] at hbase
    exact isIdentifier_of_legibleTypes hbase.2

theorem exists_afterDeclaredMethods {receiver : String} {methods : List DeclaredMethod}
    {rest items : List TopLevel}
    (hclear : ∀ m ∈ methods, (GoType.func m.signature).Clear c.package m.receiverParams)
    (htexts : ∀ m ∈ methods, ∀ t ∈ m.signature.types, ∃ f, t.text c = .ok f)
    (hlegible : ∀ m ∈ methods, (m.tree c receiver).isLegible = true)
    (h : (methods.map (·.tree c receiver) ++ rest).isEqv items TopLevel.sameAs = true) :
    ∃ more, c.afterDeclaredMethods? receiver methods items = some more ∧
      rest.isEqv more TopLevel.sameAs = true := by
  induction methods generalizing items with
  | nil => exact ⟨items, rfl, h⟩
  | cons m methods ih =>
    cases items with
    | nil => cases h
    | cons item items =>
      obtain ⟨hm, hmethods⟩ := List.forall_mem_cons.mp hclear
      obtain ⟨htext, htexts⟩ := List.forall_mem_cons.mp htexts
      obtain ⟨hlegible, hlegibles⟩ := List.forall_mem_cons.mp hlegible
      rw [List.map_cons, List.cons_append, List.isEqv, Bool.and_eq_true] at h
      obtain ⟨hcomplete, htypes⟩ := hm.signature
      have hspelt := spellsMethod_of_sameAs
        (fun t ht => (htypes t ht).speltBySame (htext t ht)) hcomplete
        (isIdentifier_of_method_tree hlegible) h.1
      rw [StubScope.afterDeclaredMethods?, if_pos hspelt]
      exact ih hmethods htexts hlegibles h.2

end Declarations

/-- A stub of the plan says what it is made for: the path of the package does not break the comments,
every declaration can be told from its text, and every name in it means what it stands for. -/
structure StubPlan.Legible (p : StubPlan) : Prop where
  package : SingleLine p.package
  written : p.tree.isLegible = true
  names : ∀ r ∈ p.records, ∀ s ∈ r.shape.scopes, s.2.Clear p.package s.1

/-- Whether a plan is legible, as far as `depth` levels of its types show. -/
def StubPlan.legibleWithin (p : StubPlan) (depth : Nat) : Bool :=
  decide (SingleLine p.package) && p.tree.isLegible &&
    p.records.all fun r => r.shape.scopes.all fun s =>
      s.2.allWithin (·.isClearHere p.package s.1) depth

theorem StubPlan.legible_of_legibleWithin {p : StubPlan} {depth : Nat}
    (h : p.legibleWithin depth = true) : p.Legible := by
  simp only [legibleWithin, Bool.and_eq_true, decide_eq_true_eq, List.all_eq_true] at h
  exact ⟨h.1.1, h.1.2, fun r hr s hs _ hu => GoType.check_of_allWithin (h.2 r hr s hs) hu⟩

section Files

variable {c : StubScope}

theorem Shape.mem_scopes_of_mem_methods {shape : Shape} {m : DeclaredMethod}
    (h : m ∈ shape.methods) : (m.receiverParams, .func m.signature) ∈ shape.scopes := by
  cases shape with
  | struct params fields methods =>
    exact List.mem_append_right _ (List.mem_map_of_mem h)
  | named params underlying isAlias methods =>
    exact List.mem_append_right _ (List.mem_map_of_mem h)
  | _ => cases h

/-- Where the syntax of some records stands and nothing else, they are declared. -/
theorem afterRecords_of_isEqv {records : List Record} {items : List TopLevel}
    (hclear : ∀ r ∈ records, ∀ s ∈ r.shape.scopes, s.2.Clear c.package s.1)
    (hwritten : ∀ r ∈ records, ∃ f, shapeText c r.name r.shape = .ok f)
    (hlegible : ∀ r ∈ records, ∀ item ∈ r.tree c, item.isLegible = true)
    (h : (records.flatMap (·.tree c)).isEqv items TopLevel.sameAs = true) :
    c.afterRecords? records items = some [] := by
  induction records generalizing items with
  | nil =>
    cases items with
    | nil => rfl
    | cons _ _ => cases h
  | cons r records ih =>
    cases items with
    | nil => cases h
    | cons item items =>
      obtain ⟨hr, hrecords⟩ := List.forall_mem_cons.mp hclear
      obtain ⟨hshape, hshapes⟩ := List.forall_mem_cons.mp hwritten
      obtain ⟨hitems, hlegibles⟩ := List.forall_mem_cons.mp hlegible
      obtain ⟨hcomplete, htexts⟩ := shapeText_ok_iff.mp hshape
      rw [List.flatMap_cons, Record.tree, List.cons_append, List.isEqv, Bool.and_eq_true] at h
      have hspelt := spellsDeclaration_of_sameAs hr hcomplete htexts h.1
      obtain ⟨more, hmore, h⟩ := exists_afterDeclaredMethods
        (fun m hm => hr _ (Shape.mem_scopes_of_mem_methods hm))
        (fun m hm t ht => htexts t (Shape.mem_types_of_mem_methods hm ht))
        (fun m hm => hitems _ (List.mem_cons_of_mem _ (List.mem_map_of_mem hm))) h.2
      rw [StubScope.afterRecords?, if_pos hspelt, hmore, Option.bind_some]
      exact ih hrecords hshapes hlegibles h

theorem localName?_importTree (path name : String) :
    (StubPlan.importTree path name).localName? = some name := by
  unfold StubPlan.importTree Syntax.ImportSpec.localName?
  dsimp only
  split
  next hname =>
    split at hname
    next hpath => rw [hpath]
    next => cases hname
  next hname =>
    split at hname
    next => cases hname
    next =>
      cases hname
      rfl
  next hname => split at hname <;> cases hname
  next hname => split at hname <;> cases hname

/-- The imports of a plan are read under their local names. -/
theorem map_localName_of_isEqv {entries : List (String × String)} {specs : List Syntax.ImportSpec}
    (h : (entries.map fun i => StubPlan.importTree i.1 i.2).isEqv specs
      (fun spec spec' => spec.path == spec'.path && spec.name == spec'.name) = true) :
    specs.map (fun s => (s.path, s.localName?)) = entries.map fun i => (i.1, some i.2) := by
  induction entries generalizing specs with
  | nil =>
    cases specs with
    | nil => rfl
    | cons _ _ => cases h
  | cons entry entries ih =>
    cases specs with
    | nil => cases h
    | cons spec specs =>
      simp only [List.map_cons, List.isEqv, Bool.and_eq_true, beq_iff_eq] at h
      obtain ⟨⟨hpath, hname⟩, h⟩ := h
      have hlocal : spec.localName? = (StubPlan.importTree entry.1 entry.2).localName? := by
        rw [Syntax.ImportSpec.localName?, Syntax.ImportSpec.localName?, hpath, hname]
      rw [List.map_cons, List.map_cons, ih h, hlocal, localName?_importTree, ← hpath]
      rfl

/-- No record is declared by imports. -/
theorem ne_imports_of_isEqv {records : List Record} {specs : List Syntax.ImportSpec}
    {items rest : List TopLevel}
    (h : (records.flatMap (·.tree c)).isEqv items TopLevel.sameAs = true) :
    items ≠ .imports specs :: rest := by
  rintro rfl
  cases records with
  | nil => cases h
  | cons r records =>
    rw [List.flatMap_cons, Record.tree, List.cons_append, List.isEqv, Bool.and_eq_true] at h
    obtain ⟨hitem, -⟩ := h
    cases hshape : r.shape with
    | value type constant basic =>
      cases constant <;> simp [hshape, Shape.tree, TopLevel.sameAs] at hitem
    | _ => simp [hshape, Shape.tree, TopLevel.sameAs] at hitem

end Files

namespace StubPlan

variable {p : StubPlan}

theorem isEmpty_entries_of_importTrees (h : p.importTrees.isEmpty = true) :
    p.imports.names.entries.isEmpty = true := by
  rw [importTrees, List.isEmpty_map, List.isEmpty_iff, List.append_eq_nil_iff,
    List.filter_eq_nil_iff, List.filter_eq_nil_iff] at h
  rw [List.isEmpty_iff, List.eq_nil_iff_forall_not_mem]
  intro i hi
  exact h.2 i hi (by simpa using h.1 i hi)

/-- The import declaration of a plan, if it has one. -/
theorem exists_afterImports {items : List TopLevel}
    (h : ((if p.importTrees.isEmpty then [] else [TopLevel.imports p.importTrees]) ++
      p.records.flatMap fun r => r.tree (.ofPlan p)).isEqv items TopLevel.sameAs = true) :
    ∃ rest, p.imports.afterImports? items = some rest ∧
      (p.records.flatMap fun r => r.tree (.ofPlan p)).isEqv rest TopLevel.sameAs = true := by
  split at h
  next hnone =>
    refine ⟨items, ?_, h⟩
    unfold ImportTable.afterImports?
    split
    next => exact absurd rfl (ne_imports_of_isEqv h)
    next => rw [if_pos (isEmpty_entries_of_importTrees hnone)]
  next hsome =>
    cases items with
    | nil => cases h
    | cons item items =>
      rw [List.cons_append, List.nil_append, List.isEqv, Bool.and_eq_true] at h
      refine ⟨items, ?_, h.2⟩
      cases item with
      | imports specs =>
        have hspecs := map_localName_of_isEqv h.1
        rw [ImportTable.afterImports?, if_pos]
        simpa [ImportTable.afterImports?.spellsSpecs] using hspecs
      | _ => cases h.1

/-- A file with the syntax of a legible plan spells the plan. -/
theorem Legible.isSpeltBy {stub : Stub} {file : Syntax.SourceFile} (hlegible : p.Legible)
    (hstub : Stub.ofPlan p = .ok stub) (h : p.tree.sameAs file = true) :
    p.isSpeltBy file = true := by
  obtain ⟨body, hbody, -⟩ := Except.bind_eq_ok.mp hstub
  obtain ⟨items⟩ := file
  cases items with
  | nil => cases h
  | cons item items =>
    rw [tree, Syntax.SourceFile.sameAs, List.isEqv, Bool.and_eq_true] at h
    cases item with
    | package name =>
      obtain ⟨rest, hrest, hitems⟩ := exists_afterImports h.2
      have hrecords : (StubScope.ofPlan p).afterRecords? p.records rest = some [] := by
        refine afterRecords_of_isEqv hlegible.names (recordsText_ok_iff.mp ⟨body, hbody⟩) ?_ hitems
        intro r hr item hitem
        refine List.all_eq_true.mp hlegible.written item (List.mem_cons_of_mem _ ?_)
        exact List.mem_append_right _ (List.mem_flatMap.mpr ⟨r, hr, hitem⟩)
      have hname : p.packageName = name := by simpa [TopLevel.sameAs] using h.1
      simp [StubPlan.isSpeltBy, hname, hrest, hrecords]
    | _ => cases h.1

/-- If its syntax is read back from the stub of a legible plan, the stub spells the plan. -/
theorem Legible.isSpeltBy_read {stub : Stub} (hlegible : p.Legible)
    (hstub : Stub.ofPlan p = .ok stub)
    (hused : ∀ path, p.imports.contains path = true → ∃ name, p.Names path name)
    (hreads : p.tree.ReadsBack stub.text) : p.isSpeltBy (.read stub.text) = true :=
  hlegible.isSpeltBy hstub
    (hreads hlegible.written (writes_tree hstub hlegible.package hlegible.written hused))

end StubPlan

end GoStub
