import GoStub.Usage.Outline
import Mathlib.Tactic.Common

/-! Syntax trees seen node by node: the nodes directly inside a node, a walk over a tree in source
order that keeps the nodes around each, and which names a function binds. -/

namespace GoStub.Syntax

/-- A node of a syntax tree. -/
inductive TreeNode
  | type (t : TypeNode)
  | expr (e : ExprNode)
  | param (p : Param)
  | typeParam (p : TypeParam)
  | field (f : Field)
  | elem (e : Elem)
  | valueSpec (s : ValueSpec)
  | typeSpec (s : TypeSpec)
  | stmt (s : Stmt)
  | topLevel (item : TopLevel)

def Signature.nodes (s : Signature) : List TreeNode :=
  (s.params ++ s.results).map .param

def TypeForm.nodes : TypeForm → List TreeNode
  | .name _ => []
  | .qualified _ _ => []
  | .generic base args => .type base :: args.map .type
  | .pointer elem => [.type elem]
  | .slice elem => [.type elem]
  | .array length elem => [.expr length, .type elem]
  | .countedArray elem => [.type elem]
  | .map key value => [.type key, .type value]
  | .chan _ elem => [.type elem]
  | .func signature => signature.nodes
  | .struct fields => fields.map .field
  | .interface elems => elems.map .elem
  | .paren inner => [.type inner]
  | .tilde elem => [.type elem]
  | .union terms => terms.map .type

def ExprForm.nodes : ExprForm → List TreeNode
  | .name _ => []
  | .literal _ => []
  | .null => []
  | .truth => []
  | .iota => []
  | .paren inner => [.expr inner]
  | .selector operand _ => [.expr operand]
  | .unary _ operand => [.expr operand]
  | .binary _ left right => [.expr left, .expr right]
  | .call callee typeArgs args => .expr callee :: (typeArgs.map .type ++ args.map .expr)
  | .allocate _ type args => .type type :: args.map .expr
  | .convert type operand => [.type type, .expr operand]
  | .instantiate type args => .type type :: args.map .type
  | .index operand position => [.expr operand, .expr position]
  | .slice operand bounds => .expr operand :: bounds.map .expr
  | .assert operand type => [.expr operand, .type type]
  | .composite type values => .type type :: values.map .expr
  | .elements values => values.map .expr
  | .func signature body => signature.nodes ++ body.map .stmt
  | .spread operand => [.expr operand]

def Decl.nodes : Decl → List TreeNode
  | .consts specs => specs.map .valueSpec
  | .vars specs => specs.map .valueSpec
  | .types specs => specs.map .typeSpec

def Stmt.nodes : Stmt → List TreeNode
  | .eval values => values.map .expr
  | .bind targets values => targets.map .expr ++ values.map .expr
  | .declare decl => decl.nodes
  | .types ts => ts.map .type
  | .block body => body.map .stmt

def TopLevel.nodes : TopLevel → List TreeNode
  | .package _ => []
  | .imports _ => []
  | .func _ params signature body =>
    params.map .typeParam ++ (signature.nodes ++ body.map .stmt)
  | .method receiver _ signature body =>
    receiver.map .param ++ (signature.nodes ++ body.map .stmt)
  | .stmt s => [.stmt s]

namespace TreeNode

/-- The nodes directly inside a node, in source order. -/
def children : TreeNode → List TreeNode
  | .type t => t.form.nodes
  | .expr e => e.form.nodes
  | .param p => [.type p.type]
  | .typeParam p => [.type p.constraint]
  | .field f => [.type f.type]
  | .elem (.method _ signature) => signature.nodes
  | .elem (.type t) => [.type t]
  | .valueSpec s => s.type.toList.map .type ++ s.values.map .expr
  | .typeSpec s => s.params.map .typeParam ++ [.type s.type]
  | .stmt s => s.nodes
  | .topLevel item => item.nodes

end TreeNode

section Size

variable {child : TreeNode}

private theorem sizeOf_lt_of_mem_map {α : Type} [SizeOf α] {mk : α → TreeNode}
    (hmk : ∀ a, sizeOf (mk a) = 1 + sizeOf a) {l : List α} (h : child ∈ l.map mk) :
    sizeOf child < 1 + sizeOf l := by
  obtain ⟨a, ha, rfl⟩ := List.mem_map.mp h
  have := List.sizeOf_lt_of_mem ha
  rw [hmk]
  omega

theorem Signature.sizeOf_lt_of_mem_nodes {s : Signature} (h : child ∈ s.nodes) :
    sizeOf child < 1 + sizeOf s := by
  obtain ⟨params, results⟩ := s
  simp only [Signature.nodes, List.map_append, List.mem_append] at h
  simp only [Signature.mk.sizeOf_spec]
  rcases h with h | h
  · have := sizeOf_lt_of_mem_map TreeNode.param.sizeOf_spec h
    omega
  · have := sizeOf_lt_of_mem_map TreeNode.param.sizeOf_spec h
    omega

theorem TypeForm.sizeOf_lt_of_mem_nodes {f : TypeForm} (h : child ∈ f.nodes) :
    sizeOf child < 1 + sizeOf f := by
  cases f with
  | name | qualified => simp [nodes] at h
  | pointer elem | slice elem | countedArray elem | chan direction elem | paren elem | tilde elem =>
    obtain rfl := List.mem_singleton.mp h
    simp only [TreeNode.type.sizeOf_spec, pointer.sizeOf_spec, slice.sizeOf_spec,
      countedArray.sizeOf_spec, chan.sizeOf_spec, paren.sizeOf_spec, tilde.sizeOf_spec]
    omega
  | array length elem =>
    simp only [nodes, List.mem_cons, List.not_mem_nil, or_false] at h
    rcases h with rfl | rfl <;>
      simp only [TreeNode.expr.sizeOf_spec, TreeNode.type.sizeOf_spec, array.sizeOf_spec] <;> omega
  | map key value =>
    simp only [nodes, List.mem_cons, List.not_mem_nil, or_false] at h
    rcases h with rfl | rfl <;> simp only [TreeNode.type.sizeOf_spec, map.sizeOf_spec] <;> omega
  | generic base args =>
    simp only [generic.sizeOf_spec]
    rcases List.mem_cons.mp h with rfl | h
    · simp only [TreeNode.type.sizeOf_spec]
      omega
    · have := sizeOf_lt_of_mem_map TreeNode.type.sizeOf_spec h
      omega
  | func signature =>
    have := Signature.sizeOf_lt_of_mem_nodes h
    simp only [func.sizeOf_spec]
    omega
  | struct fields =>
    have := sizeOf_lt_of_mem_map TreeNode.field.sizeOf_spec h
    simp only [struct.sizeOf_spec]
    omega
  | interface elems =>
    have := sizeOf_lt_of_mem_map TreeNode.elem.sizeOf_spec h
    simp only [interface.sizeOf_spec]
    omega
  | union terms =>
    have := sizeOf_lt_of_mem_map TreeNode.type.sizeOf_spec h
    simp only [union.sizeOf_spec]
    omega

theorem ExprForm.sizeOf_lt_of_mem_nodes {f : ExprForm} (h : child ∈ f.nodes) :
    sizeOf child < 1 + sizeOf f := by
  cases f with
  | name | literal | null | truth | iota => simp [nodes] at h
  | paren operand | selector operand field | unary operator operand | spread operand =>
    obtain rfl := List.mem_singleton.mp h
    simp only [TreeNode.expr.sizeOf_spec, paren.sizeOf_spec, selector.sizeOf_spec,
      unary.sizeOf_spec, spread.sizeOf_spec]
    omega
  | binary operator left right =>
    simp only [nodes, List.mem_cons, List.not_mem_nil, or_false] at h
    rcases h with rfl | rfl <;> simp only [TreeNode.expr.sizeOf_spec, binary.sizeOf_spec] <;> omega
  | index operand position =>
    simp only [nodes, List.mem_cons, List.not_mem_nil, or_false] at h
    rcases h with rfl | rfl <;> simp only [TreeNode.expr.sizeOf_spec, index.sizeOf_spec] <;> omega
  | convert type operand =>
    simp only [nodes, List.mem_cons, List.not_mem_nil, or_false] at h
    rcases h with rfl | rfl <;>
      simp only [TreeNode.expr.sizeOf_spec, TreeNode.type.sizeOf_spec, convert.sizeOf_spec] <;>
      omega
  | assert operand type =>
    simp only [nodes, List.mem_cons, List.not_mem_nil, or_false] at h
    rcases h with rfl | rfl <;>
      simp only [TreeNode.expr.sizeOf_spec, TreeNode.type.sizeOf_spec, assert.sizeOf_spec] <;> omega
  | call callee typeArgs args =>
    simp only [nodes, List.mem_cons, List.mem_append] at h
    simp only [call.sizeOf_spec]
    rcases h with rfl | h | h
    · simp only [TreeNode.expr.sizeOf_spec]
      omega
    · have := sizeOf_lt_of_mem_map TreeNode.type.sizeOf_spec h
      omega
    · have := sizeOf_lt_of_mem_map TreeNode.expr.sizeOf_spec h
      omega
  | allocate name type args | composite type args =>
    simp only [allocate.sizeOf_spec, composite.sizeOf_spec]
    rcases List.mem_cons.mp h with rfl | h
    · simp only [TreeNode.type.sizeOf_spec]
      omega
    · have := sizeOf_lt_of_mem_map TreeNode.expr.sizeOf_spec h
      omega
  | instantiate type args =>
    simp only [instantiate.sizeOf_spec]
    rcases List.mem_cons.mp h with rfl | h
    · simp only [TreeNode.type.sizeOf_spec]
      omega
    · have := sizeOf_lt_of_mem_map TreeNode.type.sizeOf_spec h
      omega
  | slice operand bounds =>
    simp only [slice.sizeOf_spec]
    rcases List.mem_cons.mp h with rfl | h
    · simp only [TreeNode.expr.sizeOf_spec]
      omega
    · have := sizeOf_lt_of_mem_map TreeNode.expr.sizeOf_spec h
      omega
  | elements values =>
    have := sizeOf_lt_of_mem_map TreeNode.expr.sizeOf_spec h
    simp only [elements.sizeOf_spec]
    omega
  | func signature body =>
    simp only [func.sizeOf_spec]
    rcases List.mem_append.mp h with h | h
    · have := Signature.sizeOf_lt_of_mem_nodes h
      omega
    · have := sizeOf_lt_of_mem_map TreeNode.stmt.sizeOf_spec h
      omega

theorem Stmt.sizeOf_lt_of_mem_nodes {s : Stmt} (h : child ∈ s.nodes) :
    sizeOf child < 1 + sizeOf s := by
  cases s with
  | eval values =>
    have := sizeOf_lt_of_mem_map TreeNode.expr.sizeOf_spec h
    simp only [eval.sizeOf_spec]
    omega
  | bind targets values =>
    simp only [bind.sizeOf_spec]
    rcases List.mem_append.mp h with h | h
    · have := sizeOf_lt_of_mem_map TreeNode.expr.sizeOf_spec h
      omega
    · have := sizeOf_lt_of_mem_map TreeNode.expr.sizeOf_spec h
      omega
  | declare decl =>
    cases decl with
    | consts specs | vars specs =>
      have := sizeOf_lt_of_mem_map TreeNode.valueSpec.sizeOf_spec h
      simp only [declare.sizeOf_spec, Decl.consts.sizeOf_spec, Decl.vars.sizeOf_spec]
      omega
    | types specs =>
      have := sizeOf_lt_of_mem_map TreeNode.typeSpec.sizeOf_spec h
      simp only [declare.sizeOf_spec, Decl.types.sizeOf_spec]
      omega
  | types ts =>
    have := sizeOf_lt_of_mem_map TreeNode.type.sizeOf_spec h
    simp only [types.sizeOf_spec]
    omega
  | block body =>
    have := sizeOf_lt_of_mem_map TreeNode.stmt.sizeOf_spec h
    simp only [block.sizeOf_spec]
    omega

theorem TopLevel.sizeOf_lt_of_mem_nodes {item : TopLevel} (h : child ∈ item.nodes) :
    sizeOf child < 1 + sizeOf item := by
  cases item with
  | package | imports => simp [nodes] at h
  | func name params signature body =>
    simp only [nodes, List.mem_append] at h
    simp only [func.sizeOf_spec]
    rcases h with h | h | h
    · have := sizeOf_lt_of_mem_map TreeNode.typeParam.sizeOf_spec h
      omega
    · have := Signature.sizeOf_lt_of_mem_nodes h
      omega
    · have := sizeOf_lt_of_mem_map TreeNode.stmt.sizeOf_spec h
      omega
  | method receiver name signature body =>
    simp only [nodes, List.mem_append] at h
    simp only [method.sizeOf_spec]
    rcases h with h | h | h
    · have := sizeOf_lt_of_mem_map TreeNode.param.sizeOf_spec h
      omega
    · have := Signature.sizeOf_lt_of_mem_nodes h
      omega
    · have := sizeOf_lt_of_mem_map TreeNode.stmt.sizeOf_spec h
      omega
  | stmt s =>
    obtain rfl := List.mem_singleton.mp h
    simp only [TreeNode.stmt.sizeOf_spec, stmt.sizeOf_spec]
    omega

theorem TreeNode.sizeOf_lt_of_mem_children {n : TreeNode} (h : child ∈ n.children) :
    sizeOf child < sizeOf n := by
  cases n with
  | type t =>
    obtain ⟨stretch, form⟩ := t
    have := TypeForm.sizeOf_lt_of_mem_nodes h
    simp only [type.sizeOf_spec, TypeNode.mk.sizeOf_spec] at this ⊢
    omega
  | expr e =>
    obtain ⟨stretch, form⟩ := e
    have := ExprForm.sizeOf_lt_of_mem_nodes h
    simp only [expr.sizeOf_spec, ExprNode.mk.sizeOf_spec] at this ⊢
    omega
  | param p =>
    obtain ⟨names, type, variadic⟩ := p
    obtain rfl := List.mem_singleton.mp h
    simp only [param.sizeOf_spec, Param.mk.sizeOf_spec, TreeNode.type.sizeOf_spec]
    omega
  | typeParam p =>
    obtain ⟨names, constraint⟩ := p
    obtain rfl := List.mem_singleton.mp h
    simp only [typeParam.sizeOf_spec, TypeParam.mk.sizeOf_spec, TreeNode.type.sizeOf_spec]
    omega
  | field f =>
    obtain ⟨stretch, names, starred, type, tag⟩ := f
    obtain rfl := List.mem_singleton.mp h
    simp only [field.sizeOf_spec, Field.mk.sizeOf_spec, TreeNode.type.sizeOf_spec]
    omega
  | elem e =>
    cases e with
    | method name signature =>
      have := Signature.sizeOf_lt_of_mem_nodes h
      simp only [elem.sizeOf_spec, Elem.method.sizeOf_spec]
      omega
    | type t =>
      obtain rfl := List.mem_singleton.mp h
      simp only [elem.sizeOf_spec, Elem.type.sizeOf_spec, type.sizeOf_spec]
      omega
  | valueSpec s =>
    obtain ⟨names, type, values⟩ := s
    simp only [valueSpec.sizeOf_spec, ValueSpec.mk.sizeOf_spec]
    rcases List.mem_append.mp h with h | h
    · cases type with
      | none => simp at h
      | some t =>
        obtain rfl := List.mem_singleton.mp h
        simp only [Option.some.sizeOf_spec, TreeNode.type.sizeOf_spec]
        omega
    · have : sizeOf child < 1 + sizeOf values := sizeOf_lt_of_mem_map TreeNode.expr.sizeOf_spec h
      omega
  | typeSpec s =>
    obtain ⟨name, params, isAlias, type⟩ := s
    simp only [typeSpec.sizeOf_spec, TypeSpec.mk.sizeOf_spec]
    rcases List.mem_append.mp h with h | h
    · have : sizeOf child < 1 + sizeOf params :=
        sizeOf_lt_of_mem_map TreeNode.typeParam.sizeOf_spec h
      omega
    · obtain rfl := List.mem_singleton.mp h
      simp only [TreeNode.type.sizeOf_spec]
      omega
  | stmt s => exact Stmt.sizeOf_lt_of_mem_nodes h
  | topLevel item => exact TopLevel.sizeOf_lt_of_mem_nodes h

end Size

/-- The type parameters that a receiver of this type declares: the plain names in the brackets after
its name. -/
def TypeNode.receiverParams : TypeNode → List String
  | ⟨_, .pointer elem⟩ => receiverParams elem
  | ⟨_, .paren inner⟩ => receiverParams inner
  | ⟨_, .generic _ args⟩ => args.filterMap fun arg =>
    match arg.form with
    | .name text => some text
    | _ => none
  | _ => []

namespace TreeNode

/-- Induction from the nodes inside a node to the node. -/
theorem inductionOnChildren {motive : TreeNode → Prop}
    (step : ∀ n, (∀ child ∈ n.children, motive child) → motive n) (n : TreeNode) : motive n := by
  have bounded (size : Nat) : ∀ n : TreeNode, sizeOf n < size → motive n := by
    induction size with
    | zero => intro n hn; omega
    | succ size ih =>
      intro n hn
      apply step
      intro child hc
      have := sizeOf_lt_of_mem_children hc
      exact ih child (by omega)
  exact bounded (sizeOf n + 1) n (by omega)

/-- A node and all nodes inside it in source order, an outer one before those inside; each comes
with the nodes around it, the innermost first. -/
def visits (around : List TreeNode) (n : TreeNode) : List (List TreeNode × TreeNode) :=
  (around, n) :: n.children.attach.flatMap fun child => child.1.visits (n :: around)
termination_by sizeOf n
decreasing_by exact sizeOf_lt_of_mem_children child.2

theorem visits_eq (around : List TreeNode) (n : TreeNode) :
    n.visits around = (around, n) :: n.children.flatMap (·.visits (n :: around)) := by
  rw [visits, List.flatMap_subtype fun _ _ => rfl, List.unattach_attach]

/-- The qualified name a node is: a qualified type, or a selector on a plain name. -/
def mention? : TreeNode → Option Mention
  | .type ⟨s, .qualified qualifier name⟩ => some ⟨s.line, qualifier, name, true⟩
  | .expr ⟨s, .selector ⟨_, .name qualifier⟩ name⟩ => some ⟨s.line, qualifier, name, false⟩
  | _ => none

/-- A function, a method or a function literal. `params` are the names in its lists of parameters,
receiver and results included, and `receiverParams` the type parameters its receiver declares. -/
structure Function where
  receiverParams : List String
  params : List String
  body : List TreeNode

/-- The function a node is. -/
def function? : TreeNode → Option Function
  | .expr ⟨_, .func signature body⟩ => some ⟨[], Outline.signatureNames signature, body.map .stmt⟩
  | .topLevel (.func _ params signature body) =>
    some ⟨[], params.flatMap (·.names) ++ Outline.signatureNames signature, body.map .stmt⟩
  | .topLevel (.method receiver _ signature body) =>
    some ⟨receiver.flatMap fun p => p.type.receiverParams,
      Outline.paramNames receiver ++ Outline.signatureNames signature, body.map .stmt⟩
  | _ => none

/-- The names a node binds: the plain names a statement assigns to, or those a specification
declares. -/
def binder? : TreeNode → Option (List String)
  | .stmt (.bind targets _) => some (Outline.plainNames targets)
  | .valueSpec s => some s.names
  | .typeSpec s => some [s.name]
  | _ => none

/-- `inner` is the node `outer` or inside it, with no function between them. -/
inductive Holds : (outer inner : TreeNode) → Prop
  | here {n : TreeNode} : Holds n n
  | inside {n child inner : TreeNode} (hc : child ∈ n.children) (hf : child.function? = none)
      (h : Holds child inner) : Holds n inner

/-- `f` is a function that names `name` in a list of parameters or binds it in its body, functions
inside it apart. -/
def Lists (f : TreeNode) (name : String) : Prop :=
  ∃ function, f.function? = some function ∧ (name ∈ function.params ∨
    ∃ s ∈ function.body, ∃ n, s.Holds n ∧ ∃ names, n.binder? = some names ∧ name ∈ names)

/-- `f` is a method with a type parameter `name`, declared by its receiver. -/
def BindsByReceiver (f : TreeNode) (name : String) : Prop :=
  ∃ function, f.function? = some function ∧ name ∈ function.receiverParams

/-- `f` is a function that binds `name`, as a parameter of any kind or in its body. -/
def Binds (f : TreeNode) (name : String) : Prop :=
  f.Lists name ∨ f.BindsByReceiver name

end TreeNode

/-- A qualified name with the nodes around it. -/
structure Sighting where
  around : List TreeNode
  mention : Mention

namespace Sighting

def qualifier (s : Sighting) : String :=
  s.mention.qualifier

/-- A function around the name binds its qualifier. -/
def Bound (s : Sighting) : Prop :=
  ∃ f ∈ s.around, f.Binds s.qualifier

/-- The qualifier is bound, but only as a type parameter that the receiver of a method declares. -/
def BoundByReceiver (s : Sighting) : Prop :=
  s.Bound ∧ ∀ f ∈ s.around, ¬ f.Lists s.qualifier

end Sighting

/-- The qualified names in and under a node. -/
def TreeNode.sightings (around : List TreeNode) (n : TreeNode) : List Sighting :=
  (n.visits around).filterMap fun visit => visit.2.mention?.map (⟨visit.1, ·⟩)

/-- The exported qualified names of a source, in source order. -/
def SourceFile.sightings (file : SourceFile) : List Sighting :=
  (file.items.flatMap fun item => (TreeNode.topLevel item).sightings []).filter fun s =>
    Name.isExported s.mention.name

end GoStub.Syntax
