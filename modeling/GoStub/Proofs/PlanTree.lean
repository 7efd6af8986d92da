import GoStub.Proofs.StubImports
import GoStub.Proofs.WrittenTree

/-! The syntax tree of a plan, and that the text of its stub is how this tree is written. -/

namespace GoStub

open Syntax (TypeNode TypeForm ExprNode ExprForm TopLevel)

namespace Syntax

def TypeNode.ofName (name : String) : TypeNode :=
  ⟨.ofText name, .name name⟩

/-- Whether there is a star before a type, and what follows it. -/
def TypeNode.unstar : TypeNode → Bool × TypeNode
  | ⟨_, .pointer elem⟩ => (true, elem)
  | node => (false, node)

/-- The declaration of a field. -/
def Field.ofNode (name : String) (embedded : Bool) (tag : Option String) (node : TypeNode) :
    Field :=
  if embedded then ⟨default, [], node.unstar.1, node.unstar.2, tag⟩
  else ⟨default, [name], false, node, tag⟩

end Syntax

namespace StubScope

/-- The local name of a package. -/
def qualifier (c : StubScope) (package : String) : String :=
  (c.imports.localName? package).getD ""

def nameTree (c : StubScope) (package name : String) : TypeNode :=
  if package = c.package then .ofName name else ⟨default, .qualified (c.qualifier package) name⟩

def lengthTree (c : StubScope) : ArrayLength → ExprNode
  | .literal value => ⟨.ofText value, .literal .int⟩
  | .constant package name =>
    ⟨.ofText (c.qualifier package ++ "." ++ name),
      .selector ⟨default, .name (c.qualifier package)⟩ name⟩
  | .expr text => ⟨.ofText text, .null⟩

end StubScope

mutual

/-- The syntax of a type in a stub. -/
def GoType.tree (c : StubScope) : GoType → TypeNode
  | .builtin name => .ofName name
  | .param name => .ofName name
  | .named package name args =>
    if args.isEmpty then c.nameTree package name
    else ⟨default, .generic (c.nameTree package name) (typeTrees c args)⟩
  | .pointer elem => ⟨default, .pointer (elem.tree c)⟩
  | .slice elem => ⟨default, .slice (elem.tree c)⟩
  | .array length elem => ⟨default, .array (c.lengthTree length) (elem.tree c)⟩
  | .map key value => ⟨default, .map (key.tree c) (value.tree c)⟩
  | .chan direction elem =>
    ⟨default, .chan direction
      (if wrapsElem direction elem then ⟨default, .paren (elem.tree c)⟩ else elem.tree c)⟩
  | .func signature => ⟨default, .func (signature.tree c [])⟩
  | .struct fields => ⟨default, .struct (fieldTrees c fields)⟩
  | .interface body => ⟨default, .interface (body.tree c)⟩
  | .tilde elem => ⟨default, .tilde (elem.tree c)⟩
  | .union terms => ⟨default, .union (typeTrees c terms)⟩
  | .unsupported reason => .ofName reason

def typeTrees (c : StubScope) : List GoType → List TypeNode
  | [] => []
  | t :: ts => t.tree c :: typeTrees c ts

/-- Parameters, each with these names. -/
def paramTrees (c : StubScope) (names : List String) (variadic : Bool) :
    List GoType → List Syntax.Param
  | [] => []
  | t :: ts => ⟨names, t.tree c, variadic && ts.isEmpty⟩ :: paramTrees c names variadic ts

def Signature.tree (c : StubScope) (names : List String) : Signature → Syntax.Signature
  | ⟨params, variadic, results⟩ =>
    ⟨paramTrees c names variadic params, paramTrees c [] false results⟩

def fieldTrees (c : StubScope) : List Field → List Syntax.Field
  | [] => []
  | ⟨name, type, embedded, tag⟩ :: fields =>
    .ofNode name embedded tag (type.tree c) :: fieldTrees c fields

def methodTrees (c : StubScope) : List Method → List Syntax.Elem
  | [] => []
  | ⟨name, signature⟩ :: methods => .method name (signature.tree c []) :: methodTrees c methods

def InterfaceBody.tree (c : StubScope) : InterfaceBody → List Syntax.Elem
  | ⟨methods, embedded, typeSets⟩ =>
    (typeTrees c embedded).map .type ++ methodTrees c methods ++ (typeTrees c typeSets).map .type

end

def TypeParam.tree (c : StubScope) (p : TypeParam) : Syntax.TypeParam :=
  ⟨[p.name], p.constraint.tree c⟩

/-- The body of every function. -/
def panicBody : List Syntax.Stmt :=
  [.eval [⟨default, .call ⟨default, .name "panic"⟩ []
    [⟨.ofText "\"not implemented\"", .literal .string⟩]⟩]]

namespace DeclaredMethod

/-- The type of the receiver, without the star. -/
def baseTree (receiver : String) (m : DeclaredMethod) : TypeNode :=
  if m.receiverParams.isEmpty then .ofName receiver
  else ⟨default, .generic (.ofName receiver) (m.receiverParams.map .ofName)⟩

def receiverTree (receiver : String) (m : DeclaredMethod) : TypeNode :=
  if m.pointer then ⟨default, .pointer (m.baseTree receiver)⟩ else m.baseTree receiver

def tree (c : StubScope) (receiver : String) (m : DeclaredMethod) : TopLevel :=
  .method [⟨[], m.receiverTree receiver, false⟩] m.name (m.signature.tree c ["_"]) panicBody

end DeclaredMethod

/-- A literal that is zero. -/
def ConstantKind.zeroTree (kind : ConstantKind) : ExprNode :=
  ⟨.ofText kind.zero, form kind⟩
where
  form : ConstantKind → ExprForm
    | .bool => .truth
    | .int => .literal .int
    | .rune => .literal .rune
    | .float => .literal .float
    | .complex => .literal .imaginary
    | .string => .literal .string

/-- The declaration of a symbol, its methods apart. -/
def Shape.tree (c : StubScope) (name : String) : Shape → TopLevel
  | .function params signature =>
    .func name (params.map (·.tree c)) (signature.tree c ["_"]) panicBody
  | .interface params body => .stmt <| .declare <| .types
      [⟨name, params.map (·.tree c), false, ⟨default, .interface (body.tree c)⟩⟩]
  | .struct params fields _ => .stmt <| .declare <| .types
      [⟨name, params.map (·.tree c), false, ⟨default, .struct (fieldTrees c fields)⟩⟩]
  | .named params underlying isAlias _ => .stmt <| .declare <| .types
      [⟨name, params.map (·.tree c), isAlias, underlying.tree c⟩]
  | .value type true basic => .stmt <| .declare <| .consts
      [⟨[name], type.map (·.tree c), basic.toList.map (·.zeroTree)⟩]
  | .value type false _ => .stmt <| .declare <| .vars [⟨[name], type.map (·.tree c), []⟩]

/-- The declarations of a record. -/
def Record.tree (c : StubScope) (r : Record) : List TopLevel :=
  r.shape.tree c r.name :: r.shape.methods.map (·.tree c r.name)

namespace StubPlan

/-- An import with its local name, which is left out where the path stands for it. -/
def importTree (path name : String) : Syntax.ImportSpec :=
  ⟨path, if name = Name.ofImportPath path then .default else .given name, 0⟩

/-- The imports of a plan, those of the standard library first. -/
def importTrees (p : StubPlan) : List Syntax.ImportSpec :=
  (p.imports.names.entries.filter (fun i => Name.isStandard i.1) ++
    p.imports.names.entries.filter (fun i => !Name.isStandard i.1)).map
      fun i => importTree i.1 i.2

/-- The file that a stub is written for. -/
def tree (p : StubPlan) : Syntax.SourceFile :=
  ⟨.package p.packageName ::
    ((if p.importTrees.isEmpty then [] else [.imports p.importTrees]) ++
      p.records.flatMap (·.tree (.ofPlan p)))⟩

end StubPlan

section Types

variable {c : StubScope} {t : GoType} {f : Fragment} {ts : List GoType} {fs : List Fragment}

/-- What is printed for the type is how its syntax is written. -/
def GoType.PrintsTree (c : StubScope) (t : GoType) : Prop :=
  ∀ f, t.text c = .ok f → (t.tree c).text = f.text

theorem text_unstar (node : TypeNode) :
    (if node.unstar.1 then "*" else "") ++ node.unstar.2.text = node.text := by
  unfold TypeNode.unstar
  split
  · rfl
  · exact String.empty_append

theorem StubScope.text_nameTree {package name : String} (h : c.nameText package name = .ok f) :
    (c.nameTree package name).text = f.text := by
  rcases nameText_ok h with ⟨rfl, htext⟩ | ⟨hne, qualifier, hq, htext⟩
  · rw [nameTree, if_pos rfl, htext]
    rfl
  · rw [nameTree, if_neg hne, htext, StubScope.qualifier, hq]
    rfl

theorem StubScope.text_lengthTree {length : ArrayLength} (h : c.lengthText length = .ok f) :
    (c.lengthTree length).stretch.text = f.text := by
  rcases lengthText_ok h with rfl | ⟨package, name, qualifier, rfl, hq, htext⟩
  · simp [lengthTree]
  · simp [lengthTree, StubScope.qualifier, hq, htext]

theorem writtenTypes_typeTrees
    (ih : ∀ t ∈ ts, t.PrintsTree c)
    (h : List.Forall₂ (fun t f => t.text c = .ok f) ts fs) :
    Syntax.writtenTypes (typeTrees c ts) = fs.map (·.text) := by
  induction h with
  | nil => rfl
  | cons ht _ ih' =>
    obtain ⟨hhead, htail⟩ := List.forall_mem_cons.mp ih
    rw [typeTrees, Syntax.writtenTypes, hhead _ ht, ih' htail, List.map_cons]

theorem writtenParams_paramTrees (names : List String) (variadic : Bool)
    (ih : ∀ t ∈ ts, t.PrintsTree c)
    (h : List.Forall₂ (fun t f => t.text c = .ok f) ts fs) :
    Syntax.writtenParams (paramTrees c names variadic ts) =
      (variadicTexts variadic fs).map fun f => Syntax.nameList names ++ f.text := by
  induction h with
  | nil => rfl
  | cons ht hts ih' =>
    obtain ⟨hhead, htail⟩ := List.forall_mem_cons.mp ih
    rw [paramTrees, Syntax.writtenParams, hhead _ ht, ih' htail]
    cases hts with
    | nil => cases variadic <;> simp [variadicTexts, String.append_assoc]
    | cons _ _ => simp [variadicTexts]

theorem variadicTexts_false (fs : List Fragment) : variadicTexts false fs = fs := by
  induction fs with
  | nil => rfl
  | cons f fs ih =>
    cases fs with
    | nil => rfl
    | cons g fs => rw [variadicTexts, ih]

theorem text_resultText (fs : List Fragment) :
    (resultText fs).text = Syntax.resultList (fs.map (·.text)) := by
  rcases fs with _ | ⟨f, _ | ⟨g, fs⟩⟩
  · rfl
  · rfl
  · simp [resultText, Syntax.resultList, Fragment.text_joinWith]

/-- A signature is written with the names before each parameter. -/
theorem Signature.text_tree {s : Signature} {ps rs : List Fragment} (names : List String)
    (ih : ∀ t ∈ s.types, t.PrintsTree c)
    (hps : List.Forall₂ (fun t f => t.text c = .ok f) s.params ps)
    (hrs : List.Forall₂ (fun t f => t.text c = .ok f) s.results rs) :
    (s.tree c names).text = "(" ++ Text.joinWith ", "
      ((variadicTexts s.variadic ps).map fun f => Syntax.nameList names ++ f.text) ++ ")" ++
        (resultText rs).text := by
  obtain ⟨params, variadic, results⟩ := s
  have hresults : Syntax.writtenParams (paramTrees c [] false results) = rs.map (·.text) := by
    rw [writtenParams_paramTrees [] false (fun t ht => ih t (List.mem_append_right _ ht)) hrs]
    rw [variadicTexts_false]
    exact List.map_congr_left fun f _ => String.empty_append
  rw [Signature.tree, Syntax.Signature.text,
    writtenParams_paramTrees names variadic (fun t ht => ih t (List.mem_append_left _ ht)) hps,
    hresults, text_resultText]

theorem text_inlineText (keyword : String) (fs : List Fragment) :
    (inlineText keyword fs).text = keyword ++ Syntax.inlineMembers (fs.map (·.text)) := by
  unfold inlineText Syntax.inlineMembers
  rw [List.isEmpty_map]
  split
  · rfl
  · simp [Fragment.text_joinWith, String.append_assoc]

theorem text_argumentText (fs : List Fragment) :
    (argumentText fs).text = Syntax.bracketed (fs.map (·.text)) := by
  unfold argumentText Syntax.bracketed
  rw [List.isEmpty_map]
  split
  · rfl
  · simp [Fragment.text_joinWith]

theorem text_fieldText (name : String) (embedded : Bool) (tag : Option String) (f : Fragment) :
    (fieldText name embedded tag f).text =
      (if embedded then f.text else name ++ " " ++ f.text) ++ Syntax.tagText tag := by
  cases tag <;> cases embedded <;> simp [fieldText, Syntax.tagText]

theorem writtenFields_fieldTrees {fields : List Field}
    (ih : ∀ field ∈ fields, field.type.PrintsTree c)
    (h : fieldTexts c fields = .ok fs) :
    Syntax.writtenFields (fieldTrees c fields) = fs.map (·.text) := by
  have hall := forall₂_fieldTexts h
  clear h
  induction hall with
  | nil => rfl
  | @cons field f fields fs hfield _ ih' =>
    obtain ⟨hhead, htail⟩ := List.forall_mem_cons.mp ih
    obtain ⟨name, type, embedded, tag⟩ := field
    obtain ⟨g, hg, rfl⟩ := hfield
    have htype : (type.tree c).text = g.text := hhead g hg
    rw [fieldTrees, List.map_cons, ← ih' htail]
    cases embedded with
    | true =>
      rw [Syntax.Field.ofNode, if_pos rfl, Syntax.writtenFields, text_fieldText, ← htype,
        ← text_unstar (type.tree c)]
      simp [Syntax.nameList]
    | false =>
      rw [Syntax.Field.ofNode, if_neg Bool.false_ne_true, Syntax.writtenFields, text_fieldText,
        htype]
      simp [Syntax.nameList, Text.joinWith]

theorem writtenElems_append (elems more : List Syntax.Elem) :
    Syntax.writtenElems (elems ++ more) =
      Syntax.writtenElems elems ++ Syntax.writtenElems more := by
  induction elems with
  | nil => rfl
  | cons elem elems ih => cases elem <;> simp [Syntax.writtenElems, ih]

theorem writtenElems_types (nodes : List TypeNode) :
    Syntax.writtenElems (nodes.map .type) = Syntax.writtenTypes nodes := by
  induction nodes with
  | nil => rfl
  | cons node nodes ih =>
    rw [List.map_cons, Syntax.writtenElems, ih, Syntax.writtenTypes]

theorem writtenElems_methodTrees {methods : List Method}
    (ih : ∀ m ∈ methods, ∀ t ∈ m.signature.types, t.PrintsTree c)
    (h : List.Forall₂ (fun (m : Method) f => ∃ signature, m.signature.text c = .ok signature ∧
      f = m.name ++ signature) methods fs) :
    Syntax.writtenElems (methodTrees c methods) = fs.map (·.text) := by
  induction h with
  | nil => rfl
  | @cons m f methods fs hm _ ih' =>
    obtain ⟨hhead, htail⟩ := List.forall_mem_cons.mp ih
    obtain ⟨name, signature⟩ := m
    obtain ⟨g, hg, rfl⟩ := hm
    obtain ⟨ps, rs, hps, hrs, rfl⟩ := Signature.text_ok hg
    rw [methodTrees, Syntax.writtenElems, Signature.text_tree [] hhead hps hrs, ih' htail]
    simp [Syntax.nameList, Fragment.text_joinWith]

theorem InterfaceBody.writtenElems_tree {body : InterfaceBody}
    (ih : ∀ t ∈ body.types, t.PrintsTree c)
    (h : body.memberTexts c = .ok fs) : Syntax.writtenElems (body.tree c) = fs.map (·.text) := by
  obtain ⟨es, ms, ss, hes, hms, hss, rfl⟩ := memberTexts_ok h
  obtain ⟨methods, embedded, typeSets⟩ := body
  obtain ⟨hmethods, hembedded, htypeSets⟩ := InterfaceBody.forall_mem_types.mp ih
  rw [InterfaceBody.tree, writtenElems_append, writtenElems_append, writtenElems_types,
    writtenElems_types, writtenTypes_typeTrees hembedded hes,
    writtenElems_methodTrees hmethods hms, writtenTypes_typeTrees htypeSets hss, List.map_append,
    List.map_append]

theorem text_chanText (direction : Direction) (elem : GoType) (f : Fragment) :
    (chanText direction elem f).text = directionText direction ++
      if wrapsElem direction elem then "(" ++ f.text ++ ")" else f.text := by
  unfold chanText
  split
  · rfl
  · rfl
  · simp [directionText, wrapsElem, ← String.append_assoc]
  next hnot =>
    have hwraps : wrapsElem .both elem = false := by
      unfold wrapsElem
      split
      next => exact absurd rfl (hnot _)
      next => rfl
    simp [directionText, hwraps]

theorem GoType.text_tree (h : t.text c = .ok f) : (t.tree c).text = f.text := by
  induction t using inductionOnParts generalizing f with
  | step t ih =>
    have hpart (u : GoType) (hu : u ∈ t.parts) : u.PrintsTree c := fun f hf => ih u hu hf
    cases t with
    | builtin name | param name =>
      cases h
      rfl
    | unsupported reason => cases h
    | named package name args =>
      obtain ⟨head, hhead, h⟩ := Except.bind_eq_ok.mp h
      obtain ⟨fs, hfs, h⟩ := Except.bind_eq_ok.mp h
      obtain rfl := Except.pure_eq_ok.mp h
      have hargs := writtenTypes_typeTrees hpart (forall₂_typeTexts hfs)
      have hname := StubScope.text_nameTree hhead
      rw [Fragment.text_append, text_argumentText, ← hname, ← hargs]
      cases args with
      | nil => exact (String.append_empty).symm
      | cons _ _ => rfl
    | pointer elem | slice elem | tilde elem =>
      obtain ⟨g, hg, h⟩ := Except.bind_eq_ok.mp h
      obtain rfl := Except.pure_eq_ok.mp h
      rw [tree, TypeNode.text, TypeForm.text, hpart elem List.mem_cons_self g hg]
      rfl
    | array length elem =>
      obtain ⟨l, hl, h⟩ := Except.bind_eq_ok.mp h
      obtain ⟨g, hg, h⟩ := Except.bind_eq_ok.mp h
      obtain rfl := Except.pure_eq_ok.mp h
      rw [tree, TypeNode.text, TypeForm.text, hpart elem List.mem_cons_self g hg,
        StubScope.text_lengthTree hl]
      rfl
    | map key value =>
      obtain ⟨k, hk, h⟩ := Except.bind_eq_ok.mp h
      obtain ⟨v, hv, h⟩ := Except.bind_eq_ok.mp h
      obtain rfl := Except.pure_eq_ok.mp h
      rw [tree, TypeNode.text, TypeForm.text, hpart key List.mem_cons_self k hk,
        hpart value (List.mem_cons_of_mem _ List.mem_cons_self) v hv]
      rfl
    | chan direction elem =>
      obtain ⟨g, hg, h⟩ := Except.bind_eq_ok.mp h
      obtain rfl := Except.pure_eq_ok.mp h
      rw [tree, TypeNode.text, TypeForm.text, text_chanText, ← hpart elem List.mem_cons_self g hg]
      split <;> rfl
    | func signature =>
      obtain ⟨g, hg, h⟩ := Except.bind_eq_ok.mp h
      obtain rfl := Except.pure_eq_ok.mp h
      obtain ⟨ps, rs, hps, hrs, rfl⟩ := Signature.text_ok hg
      rw [tree, TypeNode.text, TypeForm.text, Signature.text_tree [] hpart hps hrs]
      simp [Syntax.nameList, Fragment.text_joinWith]
    | struct fields =>
      obtain ⟨fs, hfs, h⟩ := Except.bind_eq_ok.mp h
      obtain rfl := Except.pure_eq_ok.mp h
      rw [tree, TypeNode.text, TypeForm.text, text_inlineText,
        writtenFields_fieldTrees (fun field hf => hpart field.type (List.mem_map_of_mem hf)) hfs]
    | interface body =>
      obtain ⟨fs, hfs, h⟩ := Except.bind_eq_ok.mp h
      obtain rfl := Except.pure_eq_ok.mp h
      rw [tree, TypeNode.text, TypeForm.text, text_inlineText,
        InterfaceBody.writtenElems_tree hpart hfs]
    | union terms =>
      obtain ⟨fs, hfs, h⟩ := Except.bind_eq_ok.mp h
      obtain rfl := Except.pure_eq_ok.mp h
      have hterms : Syntax.writtenTypes (typeTrees c terms) = fs.map (·.text) :=
        writtenTypes_typeTrees hpart (forall₂_typeTexts hfs)
      rw [tree, TypeNode.text, TypeForm.text, Fragment.text_joinWith, hterms]

end Types

section Declarations

variable {c : StubScope} {f : Fragment}

theorem text_blockText (keyword : String) (fs : List Fragment) :
    (blockText keyword fs).text = keyword ++ Syntax.blockMembers (fs.map (·.text)) := by
  unfold blockText Syntax.blockMembers
  rw [List.isEmpty_map]
  split
  · rfl
  · simp [Fragment.text_concat, Function.comp_def, String.append_assoc]

theorem TypeParam.text_tree {param : TypeParam} (h : param.constraint.text c = .ok f) :
    (param.tree c).text = param.name ++ " " ++ f.text := by
  rw [TypeParam.tree, Syntax.TypeParam.text, GoType.text_tree h]
  rfl

theorem map_text_typeParams {params : List TypeParam} {fs : List Fragment}
    (h : List.Forall₂ (fun p f => p.constraint.text c = .ok f) params fs) :
    (params.map (·.tree c)).map (·.text) =
      (List.zipWith (fun p (f : Fragment) => (p.name ++ " ") ++ f) params fs).map (·.text) := by
  induction h with
  | nil => rfl
  | cons hp _ ih =>
    rw [List.map_cons, List.map_cons, ih, TypeParam.text_tree hp]
    rfl

theorem text_paramListText {params : List TypeParam} (h : paramListText c params = .ok f) :
    Syntax.bracketed ((params.map (·.tree c)).map (·.text)) = f.text := by
  obtain ⟨fs, hfs, h⟩ := Except.bind_eq_ok.mp h
  obtain rfl := Except.pure_eq_ok.mp h
  rw [text_argumentText,
    map_text_typeParams (List.forall₂_map_left_iff.mp (forall₂_typeTexts hfs))]

theorem text_declaredSignature {s : Signature} (h : declaredSignature c s = .ok f) :
    (s.tree c ["_"]).text = f.text := by
  obtain ⟨ps, hps, h⟩ := Except.bind_eq_ok.mp h
  obtain ⟨rs, hrs, h⟩ := Except.bind_eq_ok.mp h
  obtain rfl := Except.pure_eq_ok.mp h
  rw [Signature.text_tree ["_"] (fun _ _ _ => GoType.text_tree) (forall₂_typeTexts hps)
    (forall₂_typeTexts hrs)]
  simp [Fragment.text_joinWith, Syntax.nameList, Text.joinWith, Function.comp_def]

theorem writtenTypes_ofName (names : List String) :
    Syntax.writtenTypes (names.map .ofName) = names := by
  induction names with
  | nil => rfl
  | cons name names ih =>
    rw [List.map_cons, Syntax.writtenTypes, ih]
    rfl

theorem text_receiverTree (receiver : String) (m : DeclaredMethod) :
    (m.receiverTree receiver).text = (if m.pointer then "*" else "") ++ receiver ++
      Syntax.bracketed m.receiverParams := by
  have hbase : (m.baseTree receiver).text = receiver ++ Syntax.bracketed m.receiverParams := by
    unfold DeclaredMethod.baseTree Syntax.bracketed
    split
    · exact (String.append_empty).symm
    next hnonempty =>
      rw [TypeNode.text, TypeForm.text, writtenTypes_ofName, Syntax.bracketed, if_neg hnonempty]
      rfl
  rw [String.append_assoc, ← hbase, DeclaredMethod.receiverTree]
  cases m.pointer with
  | true => rfl
  | false => exact (String.empty_append).symm

theorem text_panicBody : Syntax.Stmt.bodyText panicBody ++ "\n" = functionBody := by
  decide

/-- A method is written below an empty line and its comment. -/
theorem exists_writes_methodText {receiver : String} {m : DeclaredMethod}
    (h : methodText c receiver m = .ok f) :
    ∃ text, (m.tree c receiver).Writes text ∧
      f.text = "\n" ++ c.comment m.name (receiver ++ "." ++ m.name) ++ text := by
  obtain ⟨s, hs, h⟩ := Except.bind_eq_ok.mp h
  obtain rfl := Except.pure_eq_ok.mp h
  have hreceiver : "(" ++ Text.joinWith ", "
      (Syntax.writtenParams [⟨[], m.receiverTree receiver, false⟩]) ++ ")" =
        receiverText receiver m := by
    simp [Syntax.writtenParams, Syntax.nameList, Text.joinWith, text_receiverTree, receiverText,
      Syntax.bracketed, String.append_assoc]
  have hopening : "func (" = "func " ++ "(" := by decide
  have hclosing : ") " = ")" ++ " " := by decide
  refine ⟨_, rfl, ?_⟩
  rw [text_declaredSignature hs, Fragment.text_before, Fragment.text_after, ← text_panicBody,
    ← hreceiver, hopening, hclosing]
  simp only [String.append_assoc]

theorem text_typeDeclText (name : String) {params : List TypeParam} {ps : Fragment}
    (rest : Fragment) (hps : paramListText c params = .ok ps) :
    (typeDeclText name ps rest).text = "type " ++ name ++
      Syntax.bracketed ((params.map (·.tree c)).map (·.text)) ++ " " ++ rest.text ++ "\n" := by
  rw [text_paramListText hps]
  rfl

/-- A constant has a value after its type, if it has one; a variable has a type only. -/
theorem writes_valueText {name : String} {type : Option GoType} {constant : Bool}
    {basic : Option ConstantKind} (h : shapeText c name (.value type constant basic) = .ok f) :
    ((Shape.value type constant basic).tree c name).Writes f.text := by
  cases constant with
  | true =>
    rcases basic with _ | kind
    · cases h
    cases type with
    | none =>
      cases h
      simp [Shape.tree, TopLevel.Writes, Syntax.ValueSpec.text, Text.joinWith,
        ConstantKind.zeroTree, String.append_assoc]
    | some type =>
      obtain ⟨t, ht, h⟩ := Except.bind_eq_ok.mp h
      obtain rfl := Except.pure_eq_ok.mp h
      simp [Shape.tree, TopLevel.Writes, Syntax.ValueSpec.text, Text.joinWith,
        ConstantKind.zeroTree, GoType.text_tree ht, String.append_assoc]
  | false =>
    rcases type with _ | type
    · cases h
    obtain ⟨t, ht, h⟩ := Except.bind_eq_ok.mp h
    obtain rfl := Except.pure_eq_ok.mp h
    simp [Shape.tree, TopLevel.Writes, Syntax.ValueSpec.text, Text.joinWith, GoType.text_tree ht,
      String.append_assoc]

/-- The declaration of a symbol, with the methods below it. -/
theorem exists_writes_shapeText {name : String} {shape : Shape}
    (h : shapeText c name shape = .ok f) :
    ∃ text methods, (shape.tree c name).Writes text ∧
      methodsText c name shape.methods = .ok methods ∧ f.text = text ++ methods.text := by
  cases shape with
  | function params signature =>
    obtain ⟨ps, hps, h⟩ := Except.bind_eq_ok.mp h
    obtain ⟨s, hs, h⟩ := Except.bind_eq_ok.mp h
    obtain rfl := Except.pure_eq_ok.mp h
    refine ⟨_, .ofText "", rfl, rfl, ?_⟩
    rw [text_paramListText hps, text_declaredSignature hs, Fragment.text_before, ← text_panicBody]
    simp [String.append_assoc]
  | interface params body =>
    obtain ⟨ps, hps, h⟩ := Except.bind_eq_ok.mp h
    obtain ⟨members, hmembers, h⟩ := Except.bind_eq_ok.mp h
    obtain rfl := Except.pure_eq_ok.mp h
    have helems := InterfaceBody.writtenElems_tree (fun _ _ _ => GoType.text_tree) hmembers
    refine ⟨_, .ofText "", ⟨_, List.mem_cons_of_mem _ List.mem_cons_self, rfl⟩, rfl, ?_⟩
    rw [text_typeDeclText name _ hps, text_blockText, ← helems]
    simp [TypeNode.blockText]
  | struct params fields methods =>
    obtain ⟨ps, hps, h⟩ := Except.bind_eq_ok.mp h
    obtain ⟨members, hmembers, h⟩ := Except.bind_eq_ok.mp h
    obtain ⟨ms, hms, h⟩ := Except.bind_eq_ok.mp h
    obtain rfl := Except.pure_eq_ok.mp h
    have hfields := writtenFields_fieldTrees (fun _ _ _ => GoType.text_tree) hmembers
    refine ⟨_, ms, ⟨_, List.mem_cons_of_mem _ List.mem_cons_self, rfl⟩, hms, ?_⟩
    rw [Fragment.text_append, text_typeDeclText name _ hps, text_blockText, ← hfields]
    simp [TypeNode.blockText]
  | named params underlying isAlias methods =>
    obtain ⟨ps, hps, h⟩ := Except.bind_eq_ok.mp h
    obtain ⟨u, hu, h⟩ := Except.bind_eq_ok.mp h
    obtain ⟨ms, hms, h⟩ := Except.bind_eq_ok.mp h
    obtain rfl := Except.pure_eq_ok.mp h
    refine ⟨_, ms, ⟨_, List.mem_cons_self, rfl⟩, hms, ?_⟩
    rw [Fragment.text_append, text_typeDeclText name _ hps, GoType.text_tree hu]
    simp [String.append_assoc]
  | value type constant basic =>
    exact ⟨f.text, .ofText "", writes_valueText h, rfl, (String.append_empty).symm⟩

/-- An empty line and the comment of a declaration. -/
theorem isFiller_comment {name path : String} (hpackage : SingleLine c.package)
    (hname : SingleLine name) (hpath : SingleLine path) :
    Syntax.IsFiller ("\n" ++ c.comment name path) := by
  refine ⟨["", "// " ++ name ++ " is a stub of " ++ c.package ++ "." ++ path ++
    ". Generated code, do not edit."], ?_, ?_⟩
  · simp [StubScope.comment, String.append_assoc]
  · refine List.forall_mem_cons.mpr ⟨⟨by decide, Or.inl rfl⟩, List.forall_mem_singleton.mpr ?_⟩
    refine ⟨?_, Or.inr (by simp)⟩
    simp only [singleLine_append]
    exact ⟨⟨⟨⟨⟨⟨by decide, hname⟩, by decide⟩, hpackage⟩, by decide⟩, hpath⟩, by decide⟩

theorem isIdentifier_of_shape_tree {name : String} {shape : Shape}
    (h : (shape.tree c name).isLegible = true) : Syntax.isIdentifier name = true := by
  cases shape with
  | value type constant basic =>
    cases constant <;>
      simp only [Shape.tree, TopLevel.isLegible, Syntax.ValueSpec.isLegible, List.all_cons,
        Bool.and_eq_true] at h <;>
      exact h.1.1.2.1
  | _ =>
    simp only [Shape.tree, TopLevel.isLegible, Bool.and_eq_true] at h
    exact h.1.1.1

theorem writesItems_methodsText {receiver : String} {methods : List DeclaredMethod}
    (hpackage : SingleLine c.package) (hreceiver : SingleLine receiver)
    (hlegible : ∀ m ∈ methods, (m.tree c receiver).isLegible = true)
    (h : methodsText c receiver methods = .ok f) :
    Syntax.SourceFile.WritesItems (methods.map (·.tree c receiver)) f.text := by
  induction methods generalizing f with
  | nil =>
    cases h
    exact .nil
  | cons m methods ih =>
    obtain ⟨first, hfirst, h⟩ := Except.bind_eq_ok.mp h
    obtain ⟨rest, hrest, h⟩ := Except.bind_eq_ok.mp h
    obtain rfl := Except.pure_eq_ok.mp h
    obtain ⟨hm, hmethods⟩ := List.forall_mem_cons.mp hlegible
    obtain ⟨text, hwrites, htext⟩ := exists_writes_methodText hfirst
    have hname : SingleLine m.name := by
      simp only [DeclaredMethod.tree, TopLevel.isLegible, Bool.and_eq_true] at hm
      exact Syntax.singleLine_of_isIdentifier hm.1.1.2
    rw [List.map_cons, Fragment.text_append, htext]
    refine .cons (isFiller_comment hpackage hname ?_) hwrites (ih hmethods hrest)
    simp only [singleLine_append]
    exact ⟨⟨hreceiver, by decide⟩, hname⟩

/-- Every record is written below an empty line and its comment, and so are its methods. -/
theorem writesItems_recordsText {records : List Record} (hpackage : SingleLine c.package)
    (hlegible : ∀ r ∈ records, ∀ item ∈ r.tree c, item.isLegible = true)
    (h : recordsText c records = .ok f) :
    Syntax.SourceFile.WritesItems (records.flatMap (·.tree c)) f.text := by
  induction records generalizing f with
  | nil =>
    cases h
    exact .nil
  | cons r records ih =>
    obtain ⟨first, hfirst, h⟩ := Except.bind_eq_ok.mp h
    obtain ⟨rest, hrest, h⟩ := Except.bind_eq_ok.mp h
    obtain rfl := Except.pure_eq_ok.mp h
    obtain ⟨hr, hrecords⟩ := List.forall_mem_cons.mp hlegible
    obtain ⟨hshape, hmethods⟩ := List.forall_mem_cons.mp hr
    have hname := Syntax.singleLine_of_isIdentifier (isIdentifier_of_shape_tree hshape)
    rw [List.flatMap_cons, Fragment.text_append]
    refine .append ?_ (ih hrecords hrest)
    unfold recordText at hfirst
    split at hfirst
    · cases hfirst
    next d hd =>
      cases hfirst
      obtain ⟨text, methods, hwrites, htexts, htext⟩ := exists_writes_shapeText hd
      rw [Fragment.text_after, htext, ← String.append_assoc]
      exact .cons (isFiller_comment hpackage hname hname) hwrites
        (writesItems_methodsText hpackage hname (List.forall_mem_map.mp hmethods) htexts)

end Declarations

namespace StubPlan

theorem text_importTree (path name : String) :
    (importTree path name).text = importLine path name := by
  unfold importTree importLine
  split
  · simp [Syntax.ImportSpec.text]
  · have hquote : " \"" = " " ++ "\"" := by decide
    simp [Syntax.ImportSpec.text, hquote, String.append_assoc]

/-- Imports are written below an empty line. -/
theorem writesItems_importBlock (first second : List Syntax.ImportSpec) :
    Syntax.SourceFile.WritesItems
      (if (first ++ second).isEmpty then [] else [.imports (first ++ second)])
      (importBlock (first.map (·.text)) (second.map (·.text))) := by
  have hfiller : Syntax.IsFiller "\n" := ⟨[""], rfl, by simp [SingleLine]⟩
  have hone : "\nimport " = "\n" ++ "import " := by decide
  have hmany : "\nimport (\n" = "\n" ++ "import (\n" := by decide
  unfold importBlock
  rw [← List.map_append, hone, hmany]
  rcases hspecs : first ++ second with _ | ⟨spec, _ | ⟨spec', specs⟩⟩
  · exact .nil
  · simp only [List.map_cons, List.map_nil, String.append_assoc]
    exact .single hfiller (Or.inl ⟨spec, rfl, String.append_assoc.symm⟩)
  · have hgap : (if (first.map (·.text)).isEmpty || (second.map (·.text)).isEmpty then ""
        else "\n") ∈ ["", "\n"] := by
      split <;> simp
    simp only [List.map_cons, String.append_assoc]
    refine .single hfiller (Or.inr ⟨first, second, _, hspecs.symm, hgap, ?_⟩)
    simp [TopLevel.Writes.lines, Function.comp_def, String.append_assoc]

/-- The stub of a plan that imports nothing in vain is how its syntax is written. -/
theorem writes_tree {p : StubPlan} {stub : Stub} (h : Stub.ofPlan p = .ok stub)
    (hpackage : SingleLine p.package) (hlegible : p.tree.isLegible = true)
    (hused : ∀ path, p.imports.contains path = true → ∃ name, p.Names path name) :
    p.tree.Writes stub.text := by
  obtain ⟨body, hbody, h⟩ := Except.bind_eq_ok.mp h
  obtain rfl := Except.pure_eq_ok.mp h
  have hall : p.imports.names.entries.filter (fun i => body.uses.contains i.1) =
      p.imports.names.entries := by
    refine List.filter_eq_self.mpr fun i hi => ?_
    have himported : p.imports.contains i.1 = true :=
      Dict.mem_keys_iff.mp (List.mem_map_of_mem hi)
    exact List.contains_iff_mem.mpr ((mem_uses_iff hbody).mpr (hused i.1 himported))
  have hlines (entries : List (String × String)) :
      (entries.map fun i => importTree i.1 i.2).map (·.text) = importLines entries := by
    simp [importLines, text_importTree, Function.comp_def]
  have himports := writesItems_importBlock
    ((p.imports.names.entries.filter fun i => Name.isStandard i.1).map fun i =>
      importTree i.1 i.2)
    ((p.imports.names.entries.filter fun i => !Name.isStandard i.1).map fun i =>
      importTree i.1 i.2)
  rw [hlines, hlines, ← importText_eq, ← List.map_append] at himports
  have hrecords : Syntax.SourceFile.WritesItems (p.records.flatMap (·.tree (.ofPlan p)))
      body.text := by
    refine writesItems_recordsText hpackage (fun r hr item hitem => ?_) hbody
    refine List.all_eq_true.mp hlegible item (List.mem_cons_of_mem _ ?_)
    exact List.mem_append_right _ (List.mem_flatMap.mpr ⟨r, hr, hitem⟩)
  have hnone : Syntax.IsFiller "" := ⟨[], rfl, by simp⟩
  have hpackageClause : (TopLevel.package p.packageName).Writes
      ("package " ++ p.packageName ++ "\n") := rfl
  have hwhole := Syntax.SourceFile.WritesItems.cons hnone hpackageClause (himports.append hrecords)
  rw [String.empty_append, ← String.append_assoc] at hwhole
  simp only [hall]
  exact hwhole

end StubPlan

end GoStub
