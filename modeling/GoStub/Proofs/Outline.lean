import GoStub.Proofs.TreeNode
import GoStub.Usage.Reference
import Mathlib.Data.List.Basic

/-! Outlines of syntax trees: the outline of a node says what the node binds and what is inside it,
and the mentions in it are the qualified names of the tree, each marked if a function around it
binds the qualifier. -/

namespace GoStub

open Syntax

namespace Syntax.TreeNode

/-- The outline of a node. -/
def outline : TreeNode → List Outline
  | .type t => Outline.ofType t
  | .expr e => Outline.ofExpr e
  | .param p => Outline.ofType p.type
  | .typeParam p => Outline.ofType p.constraint
  | .field f => Outline.ofType f.type
  | .elem e => Outline.ofElems [e]
  | .valueSpec s => Outline.ofValueSpecs [s]
  | .typeSpec s => Outline.ofTypeSpecs [s]
  | .stmt s => Outline.ofStmt s
  | .topLevel item => Outline.ofTopLevel item

end Syntax.TreeNode

namespace Outline

private theorem eq_flatMap_outline {α : Type} {f : List α → List Outline} {mk : α → TreeNode}
    (nil : f [] = []) (cons : ∀ a l, f (a :: l) = (mk a).outline ++ f l) (l : List α) :
    f l = (l.map mk).flatMap TreeNode.outline := by
  induction l with
  | nil => simp [nil]
  | cons a l ih => simp [cons, ih]

theorem ofTypes_eq (ts : List TypeNode) :
    ofTypes ts = (ts.map TreeNode.type).flatMap TreeNode.outline :=
  eq_flatMap_outline (by rw [ofTypes]) (fun _ _ => by rw [ofTypes, TreeNode.outline]) ts

theorem ofExprs_eq (es : List ExprNode) :
    ofExprs es = (es.map TreeNode.expr).flatMap TreeNode.outline :=
  eq_flatMap_outline (by rw [ofExprs]) (fun _ _ => by rw [ofExprs, TreeNode.outline]) es

theorem ofStmts_eq (ss : List Stmt) :
    ofStmts ss = (ss.map TreeNode.stmt).flatMap TreeNode.outline :=
  eq_flatMap_outline (by rw [ofStmts]) (fun _ _ => by rw [ofStmts, TreeNode.outline]) ss

theorem ofParams_eq (ps : List Syntax.Param) :
    ofParams ps = (ps.map TreeNode.param).flatMap TreeNode.outline :=
  eq_flatMap_outline (by rw [ofParams]) (fun ⟨_, _, _⟩ _ => by rw [ofParams, TreeNode.outline]) ps

theorem ofTypeParams_eq (ps : List Syntax.TypeParam) :
    ofTypeParams ps = (ps.map TreeNode.typeParam).flatMap TreeNode.outline :=
  eq_flatMap_outline (by rw [ofTypeParams])
    (fun ⟨_, _⟩ _ => by rw [ofTypeParams, TreeNode.outline]) ps

theorem ofFields_eq (fs : List Syntax.Field) :
    ofFields fs = (fs.map TreeNode.field).flatMap TreeNode.outline :=
  eq_flatMap_outline (by rw [ofFields])
    (fun ⟨_, _, _, _, _⟩ _ => by rw [ofFields, TreeNode.outline]) fs

theorem ofElems_eq (es : List Syntax.Elem) :
    ofElems es = (es.map TreeNode.elem).flatMap TreeNode.outline :=
  eq_flatMap_outline (by rw [ofElems])
    (fun e _ => by cases e <;> simp [ofElems, TreeNode.outline]) es

theorem ofValueSpecs_eq (specs : List ValueSpec) :
    ofValueSpecs specs = (specs.map TreeNode.valueSpec).flatMap TreeNode.outline :=
  eq_flatMap_outline (by rw [ofValueSpecs])
    (fun ⟨_, type, _⟩ _ => by cases type <;> simp [ofValueSpecs, TreeNode.outline]) specs

theorem ofTypeSpecs_eq (specs : List TypeSpec) :
    ofTypeSpecs specs = (specs.map TreeNode.typeSpec).flatMap TreeNode.outline :=
  eq_flatMap_outline (by rw [ofTypeSpecs])
    (fun ⟨_, _, _, _⟩ _ => by simp [ofTypeSpecs, TreeNode.outline]) specs

theorem ofSignature_eq (s : Syntax.Signature) :
    ofSignature s = s.nodes.flatMap TreeNode.outline := by
  obtain ⟨params, results⟩ := s
  simp only [ofSignature, Signature.nodes, ofParams_eq, List.map_append, List.flatMap_append]

end Outline

namespace Syntax.TreeNode

open Outline

variable {n : TreeNode}

theorem outline_of_mention {m : Mention} (h : n.mention? = some m) : n.outline = [.mention m] := by
  unfold mention? at h
  split at h
  next => cases h; rw [outline, ofType]
  next => cases h; rw [outline, ofExpr]
  next => cases h

theorem outline_of_function {function : Function} (h : n.function? = some function) :
    n.outline = [.function function.params (n.children.flatMap outline)] := by
  unfold function? at h
  split at h
  next =>
    cases h
    simp [outline, children, ExprForm.nodes, ofExpr, ofExprForm, ofSignature_eq, ofStmts_eq]
  next =>
    cases h
    simp [outline, children, TopLevel.nodes, ofTopLevel, ofTypeParams_eq, ofSignature_eq,
      ofStmts_eq]
  next =>
    cases h
    simp [outline, children, TopLevel.nodes, ofTopLevel, ofParams_eq, ofSignature_eq, ofStmts_eq]
  next => cases h

theorem outline_type_of_other {t : TypeNode} (hm : (TreeNode.type t).mention? = none) :
    ofType t = t.form.nodes.flatMap outline := by
  obtain ⟨stretch, form⟩ := t
  cases form with
  | qualified => simp [mention?] at hm
  | _ =>
    simp [ofType, ofTypeForm, TypeForm.nodes, outline, ofTypes_eq, ofSignature_eq, ofFields_eq,
      ofElems_eq]

theorem ofExpr_of_other {e : ExprNode} (hm : (TreeNode.expr e).mention? = none) :
    ofExpr e = ofExprForm e.form := by
  unfold ofExpr
  split
  next => simp [mention?] at hm
  next => rfl

theorem outline_expr_of_other {e : ExprNode} (hm : (TreeNode.expr e).mention? = none)
    (hf : (TreeNode.expr e).function? = none) : ofExpr e = e.form.nodes.flatMap outline := by
  rw [ofExpr_of_other hm]
  obtain ⟨stretch, form⟩ := e
  cases form with
  | func => simp [function?] at hf
  | _ => simp [ofExprForm, ExprForm.nodes, outline, ofTypes_eq, ofExprs_eq]

theorem outline_stmt (s : Stmt) :
    ofStmt s =
      ((TreeNode.stmt s).binder?.map Outline.binder).toList ++ s.nodes.flatMap outline := by
  cases s with
  | declare decl =>
    cases decl <;>
      simp [ofStmt, ofDecl, binder?, Stmt.nodes, Decl.nodes, ofValueSpecs_eq, ofTypeSpecs_eq]
  | _ => simp [ofStmt, binder?, Stmt.nodes, ofExprs_eq, ofTypes_eq, ofStmts_eq]

/-- The outline of any other node: what it binds, and the outlines of the nodes inside it. -/
theorem outline_of_other (hm : n.mention? = none) (hf : n.function? = none) :
    n.outline = (n.binder?.map Outline.binder).toList ++ n.children.flatMap outline := by
  cases n with
  | type t => simpa [outline, binder?, children] using outline_type_of_other hm
  | expr e => simpa [outline, binder?, children] using outline_expr_of_other hm hf
  | param | typeParam | field => simp [outline, binder?, children]
  | elem e => cases e <;> simp [outline, binder?, children, ofElems, ofSignature_eq]
  | valueSpec s =>
    obtain ⟨names, type, values⟩ := s
    cases type <;> simp [outline, binder?, children, ofValueSpecs, ofExprs_eq]
  | typeSpec s =>
    obtain ⟨name, params, isAlias, type⟩ := s
    simp [outline, binder?, children, ofTypeSpecs, ofTypeParams_eq]
  | stmt s => exact outline_stmt s
  | topLevel item =>
    cases item with
    | package | imports => simp [outline, binder?, children, ofTopLevel, TopLevel.nodes]
    | func | method => simp [function?] at hf
    | stmt s => simp [outline, binder?, children, ofTopLevel, TopLevel.nodes]

end Syntax.TreeNode

theorem boundNames_append (parts rest : List Outline) :
    boundNames (parts ++ rest) = boundNames parts ++ boundNames rest := by
  induction parts with
  | nil => rfl
  | cons part parts ih =>
    cases part <;> simp [boundNames, ih]

theorem mem_boundNames_flatMap {α : Type} {l : List α} {f : α → List Outline} {name : String} :
    name ∈ boundNames (l.flatMap f) ↔ ∃ a ∈ l, name ∈ boundNames (f a) := by
  induction l with
  | nil => simp [boundNames]
  | cons a l ih => simp [boundNames_append, ih]

theorem occurrencesOf_append (scope : List String) (parts rest : List Outline) :
    occurrencesOf scope (parts ++ rest) =
      occurrencesOf scope parts ++ occurrencesOf scope rest := by
  induction parts with
  | nil => simp [occurrencesOf]
  | cons part parts ih => simp [occurrencesOf, ih]

theorem occurrencesOf_flatMap {α : Type} (scope : List String) (l : List α) (f : α → List Outline) :
    occurrencesOf scope (l.flatMap f) = l.flatMap fun a => occurrencesOf scope (f a) := by
  induction l with
  | nil => simp [occurrencesOf]
  | cons a l ih => simp [occurrencesOf_append, ih]

namespace Syntax.TreeNode

variable {n child inner : TreeNode} {name : String}

theorem boundNames_of_function (h : n.function? ≠ none) : boundNames n.outline = [] := by
  obtain ⟨function, hf⟩ := Option.ne_none_iff_exists'.mp h
  rw [outline_of_function hf, boundNames, boundNames]

theorem children_of_mention {m : Mention} (h : n.mention? = some m) :
    ∀ child ∈ n.children, child.outline = [] ∧ child.mention? = none ∧ child.children = [] := by
  unfold mention? at h
  split at h
  next => simp [children, TypeForm.nodes]
  next => simp [children, ExprForm.nodes, outline, Outline.ofExpr, Outline.ofExprForm, mention?]
  next => cases h

theorem mem_boundNames_step (hf : n.function? = none) :
    name ∈ boundNames n.outline ↔ (∃ names, n.binder? = some names ∧ name ∈ names) ∨
      ∃ child ∈ n.children, name ∈ boundNames child.outline := by
  cases hm : n.mention? with
  | some m =>
    have hbinder : n.binder? = none := by
      cases n <;> simp [mention?, binder?] at hm ⊢
    have hchildren : ¬ ∃ child ∈ n.children, name ∈ boundNames child.outline := by
      rintro ⟨child, hc, hn⟩
      simp [(children_of_mention hm child hc).1, boundNames] at hn
    simp [outline_of_mention hm, boundNames, hbinder, hchildren]
  | none =>
    rw [outline_of_other hm hf, boundNames_append, List.mem_append, mem_boundNames_flatMap]
    cases n.binder? <;> simp [boundNames]

theorem holds_iff : n.Holds inner ↔
    inner = n ∨ ∃ child ∈ n.children, child.function? = none ∧ child.Holds inner := by
  constructor
  · intro h
    cases h with
    | here => exact Or.inl rfl
    | inside hc hf h => exact Or.inr ⟨_, hc, hf, h⟩
  · rintro (rfl | ⟨child, hc, hf, h⟩)
    · exact .here
    · exact .inside hc hf h

/-- The names in the outline of a node are those that it and the nodes inside it bind, functions
apart. -/
theorem mem_boundNames_outline (hf : n.function? = none) :
    name ∈ boundNames n.outline ↔
      ∃ inner, n.Holds inner ∧ ∃ names, inner.binder? = some names ∧ name ∈ names := by
  induction n using inductionOnChildren with
  | step n ih =>
    rw [mem_boundNames_step hf]
    constructor
    · rintro (h | ⟨child, hc, h⟩)
      · exact ⟨n, .here, h⟩
      · have hcf : child.function? = none := by
          by_contra hne
          simp [boundNames_of_function hne] at h
        obtain ⟨inner, hi, hb⟩ := (ih child hc hcf).mp h
        exact ⟨inner, .inside hc hcf hi, hb⟩
    · rintro ⟨inner, hi, hb⟩
      rcases holds_iff.mp hi with rfl | ⟨child, hc, hcf, hi⟩
      · exact Or.inl hb
      · exact Or.inr ⟨child, hc, (ih child hc hcf).mpr ⟨inner, hi, hb⟩⟩

/-- A part of a type or of an expression. -/
def isPhrase : TreeNode → Bool
  | .type _ => true
  | .expr _ => true
  | .param _ => true
  | .typeParam _ => true
  | .field _ => true
  | .elem _ => true
  | _ => false

theorem isPhrase_of_mem_signature {s : Syntax.Signature} (h : child ∈ s.nodes) :
    child.isPhrase = true := by
  obtain ⟨p, -, rfl⟩ := List.mem_map.mp h
  rfl

theorem isPhrase_of_mem_children (h : n.isPhrase = true) (hf : n.function? = none)
    (hc : child ∈ n.children) : child.isPhrase = true := by
  have hall : ∀ child ∈ n.children, child.isPhrase = true := by
    cases n with
    | type t =>
      obtain ⟨stretch, form⟩ := t
      cases form with
      | func signature => exact fun _ => isPhrase_of_mem_signature
      | _ => simp [children, TypeForm.nodes, isPhrase]
    | expr e =>
      obtain ⟨stretch, form⟩ := e
      cases form with
      | func => simp [function?] at hf
      | call => simp [children, ExprForm.nodes, isPhrase, or_imp, forall_and]
      | _ => simp [children, ExprForm.nodes, isPhrase]
    | param | typeParam | field => simp [children, isPhrase]
    | elem e =>
      cases e with
      | method name signature => exact fun _ => isPhrase_of_mem_signature
      | type => simp [children, isPhrase]
    | _ => simp [isPhrase] at h
  exact hall child hc

/-- Types and expressions bind nothing outside the functions in them. -/
theorem boundNames_of_isPhrase (h : n.isPhrase = true) : name ∉ boundNames n.outline := by
  induction n using inductionOnChildren with
  | step n ih =>
    intro hn
    by_cases hf : n.function? = none
    · rcases (mem_boundNames_step hf).mp hn with ⟨names, hb, -⟩ | ⟨child, hc, hn⟩
      · cases n <;> simp [isPhrase, binder?] at h hb
      · exact ih child hc (isPhrase_of_mem_children h hf hc) hn
    · simp [boundNames_of_function hf] at hn

theorem children_of_function {function : Function} (h : n.function? = some function) :
    ∃ head, n.children = head ++ function.body ∧ (∀ child ∈ head, child.isPhrase = true) ∧
      ∀ child ∈ function.body, child.function? = none := by
  unfold function? at h
  split at h
  next signature statements =>
    cases h
    refine ⟨signature.nodes, rfl, fun _ => isPhrase_of_mem_signature, ?_⟩
    simp [function?]
  next params signature statements =>
    cases h
    refine ⟨params.map .typeParam ++ signature.nodes, (List.append_assoc ..).symm, ?_, ?_⟩
    · rw [List.forall_mem_append]
      exact ⟨by simp [isPhrase], fun _ => isPhrase_of_mem_signature⟩
    · simp [function?]
  next receiver _ signature statements =>
    cases h
    refine ⟨receiver.map .param ++ signature.nodes, (List.append_assoc ..).symm, ?_, ?_⟩
    · rw [List.forall_mem_append]
      exact ⟨by simp [isPhrase], fun _ => isPhrase_of_mem_signature⟩
    · simp [function?]
  next => cases h

/-- A function lists its parameters and binds the names in the outlines of what is inside it. -/
theorem lists_iff {function : Function} (h : n.function? = some function) :
    n.Lists name ↔
      name ∈ function.params ∨ name ∈ boundNames (n.children.flatMap outline) := by
  obtain ⟨head, hchildren, hhead, hbody⟩ := children_of_function h
  have hbodyNames : name ∈ boundNames (n.children.flatMap outline) ↔
      ∃ s ∈ function.body,
        ∃ inner, s.Holds inner ∧ ∃ names, inner.binder? = some names ∧ name ∈ names := by
    rw [mem_boundNames_flatMap, hchildren]
    constructor
    · rintro ⟨child, hc, hn⟩
      rcases List.mem_append.mp hc with hc | hc
      · exact absurd hn (boundNames_of_isPhrase (hhead child hc))
      · exact ⟨child, hc, (mem_boundNames_outline (hbody child hc)).mp hn⟩
    · rintro ⟨s, hs, hn⟩
      exact ⟨s, List.mem_append_right _ hs, (mem_boundNames_outline (hbody s hs)).mpr hn⟩
  rw [hbodyNames]
  constructor
  · rintro ⟨other, h', hn⟩
    cases h.symm.trans h'
    exact hn
  · intro hn
    exact ⟨function, h, hn⟩

theorem not_lists (h : n.function? = none) : ¬ n.Lists name := by
  rintro ⟨function, hf, -⟩
  simp [h] at hf

instance : Decidable (n.Lists name) :=
  match h : n.function? with
  | some _ => decidable_of_iff _ (lists_iff h).symm
  | none => isFalse (not_lists h)

instance : Decidable (n.BindsByReceiver name) :=
  decidable_of_iff (∃ function ∈ n.function?, name ∈ function.receiverParams) Iff.rfl

instance : Decidable (n.Binds name) :=
  inferInstanceAs (Decidable (_ ∨ _))

end Syntax.TreeNode

namespace Syntax

instance (s : Sighting) : Decidable s.Bound :=
  inferInstanceAs (Decidable (∃ f ∈ s.around, f.Binds s.qualifier))

/-- Whether the scopes of the outline have the qualifier. They leave out the type parameters that a
receiver declares. -/
def Sighting.isShadowed (s : Sighting) : Bool :=
  decide (∃ f ∈ s.around, f.Lists s.qualifier)

theorem Sighting.isShadowed_iff {s : Sighting} (h : ¬ s.BoundByReceiver) :
    s.isShadowed = true ↔ s.Bound := by
  rw [isShadowed, decide_eq_true_iff]
  constructor
  · rintro ⟨f, hf, hlists⟩
    exact ⟨f, hf, Or.inl hlists⟩
  · intro hbound
    by_contra hnone
    exact h ⟨hbound, fun f hf hlists => hnone ⟨f, hf, hlists⟩⟩

def Sighting.occurrence (s : Sighting) : Occurrence :=
  ⟨s.mention, s.isShadowed⟩

theorem TreeNode.sightings_eq (around : List TreeNode) (n : TreeNode) :
    n.sightings around = (n.mention?.map (Sighting.mk around)).toList ++
      n.children.flatMap (·.sightings (n :: around)) := by
  have hinner (l : List TreeNode) : (l.flatMap (·.visits (n :: around))).filterMap
      (fun visit => visit.2.mention?.map (Sighting.mk visit.1)) =
        l.flatMap (·.sightings (n :: around)) := by
    rw [List.filterMap_flatMap]
    rfl
  rw [TreeNode.sightings, TreeNode.visits_eq, List.filterMap_cons, hinner]
  cases n.mention? <;> rfl

theorem TreeNode.mem_sightings_of_mention {around : List TreeNode} {n : TreeNode} {m : Mention}
    (h : n.mention? = some m) : ⟨around, m⟩ ∈ n.sightings around := by
  rw [TreeNode.sightings_eq, h]
  exact List.mem_append_left _ (List.mem_singleton_self _)

theorem TreeNode.mem_sightings_of_mem_children {around : List TreeNode} {n child : TreeNode}
    {s : Sighting} (hc : child ∈ n.children) (h : s ∈ child.sightings (n :: around)) :
    s ∈ n.sightings around := by
  rw [TreeNode.sightings_eq]
  exact List.mem_append_right _ (List.mem_flatMap.mpr ⟨child, hc, h⟩)

/-- The mentions in the outline of a node are its sightings, if the scope holds just the names that
the functions around the node list. -/
theorem TreeNode.occurrencesOf_outline {scope : List String} {around : List TreeNode} (n : TreeNode)
    (hscope : ∀ name, name ∈ scope ↔ ∃ f ∈ around, f.Lists name) :
    occurrencesOf scope n.outline =
      (n.sightings around).map Sighting.occurrence := by
  induction n using TreeNode.inductionOnChildren generalizing scope around with
  | step n ih =>
    have hinner {scope' : List String}
        (h : ∀ name, name ∈ scope' ↔ ∃ f ∈ n :: around, f.Lists name) :
        occurrencesOf scope' (n.children.flatMap outline) =
          (n.children.flatMap (·.sightings (n :: around))).map Sighting.occurrence := by
      rw [occurrencesOf_flatMap, List.map_flatMap]
      exact List.flatMap_congr fun child hc => ih child hc h
    rw [TreeNode.sightings_eq, List.map_append]
    cases hm : n.mention? with
    | some m =>
      have hnone : n.children.flatMap (·.sightings (n :: around)) = [] := by
        rw [List.flatMap_eq_nil_iff]
        intro child hc
        obtain ⟨-, hcm, hcc⟩ := TreeNode.children_of_mention hm child hc
        rw [TreeNode.sightings_eq, hcm, hcc]
        rfl
      have hshadowed : Sighting.isShadowed ⟨around, m⟩ = scope.contains m.qualifier := by
        rw [Bool.eq_iff_iff, Sighting.isShadowed, decide_eq_true_iff, List.contains_iff_mem]
        exact (hscope m.qualifier).symm
      rw [TreeNode.outline_of_mention hm, hnone]
      simp [occurrencesOf, Outline.occurrences, Sighting.occurrence, hshadowed]
    | none =>
      rw [Option.map_none, Option.toList_none, List.map_nil, List.nil_append]
      cases hf : n.function? with
      | none =>
        have hsame (name : String) : name ∈ scope ↔ ∃ f ∈ n :: around, f.Lists name := by
          simp [hscope name, TreeNode.not_lists hf]
        rw [TreeNode.outline_of_other hm hf, occurrencesOf_append, hinner hsame]
        cases n.binder? <;> simp [occurrencesOf, Outline.occurrences]
      | some function =>
        have hmore (name : String) : name ∈ scope ++ function.params ++
            boundNames (n.children.flatMap outline) ↔ ∃ f ∈ n :: around, f.Lists name := by
          rw [List.append_assoc, List.mem_append, hscope name, List.mem_append,
            ← TreeNode.lists_iff hf, List.exists_mem_cons_iff]
          exact or_comm
        rw [TreeNode.outline_of_function hf, occurrencesOf, occurrencesOf, Outline.occurrences,
          List.append_nil, hinner hmore]

end Syntax

end GoStub
