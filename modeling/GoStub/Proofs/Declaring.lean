import GoStub.Package.Scope
import GoStub.Proofs.Restatement

/-! The index of the declarations that a plan's records stand for: each record is looked up under
its name, and has the methods that are declared with it. -/

namespace GoStub

namespace Dict

variable {α : Type}

/-- With distinct keys a dictionary has just the entries it is made of. -/
theorem get?_ofList_iff {entries : List (String × α)} (h : (entries.map (·.1)).Nodup)
    {key : String} {value : α} :
    (ofList entries).get? key = some value ↔ (key, value) ∈ entries := by
  constructor
  · exact mem_of_get?_ofList
  · intro hmem
    obtain ⟨value', hvalue'⟩ := contains_iff.mp (contains_ofList.mpr ⟨value, hmem⟩)
    have hentry := List.inj_on_of_nodup_map h (mem_of_get?_ofList hvalue') hmem rfl
    cases hentry
    exact hvalue'

end Dict

namespace Declaration

/-- The entry that a declaration makes among the types. -/
def namedType? : Declaration → Option (String × TypeDecl)
  | .type decl => some (decl.name, decl)
  | _ => none

def namedFunc? : Declaration → Option (String × FunctionDecl)
  | .func decl => some (decl.name, decl)
  | _ => none

def namedValue? : Declaration → Option (String × ValueBinding)
  | .value decl => some (decl.name, decl)
  | _ => none

/-- The method that a declaration adds to a type. -/
def methodOf? (type : String) : Declaration → Option MethodDecl
  | .method decl => if decl.receiver = type then some decl else none
  | _ => none

end Declaration

namespace PackageScope

variable {α : Type}

/-- A dictionary of a package that declarations make entries in, after all of them. -/
theorem foldl_declare {get : PackageScope → Dict α} {named? : Declaration → Option (String × α)}
    (hstep : ∀ p d, get (declare p d) =
      (named? d).elim (get p) fun e => (get p).insert e.1 e.2)
    (ds : List Declaration) (p : PackageScope) (hempty : get p = .empty) :
    get (ds.foldl declare p) = .ofList (ds.filterMap named?) := by
  have hfold (p : PackageScope) : get (ds.foldl declare p) =
      (ds.filterMap named?).foldl (fun d e => d.insert e.1 e.2) (get p) := by
    induction ds generalizing p with
    | nil => rfl
    | cons d ds ih =>
      rw [List.foldl_cons, ih, hstep]
      cases h : named? d with
      | none => rw [List.filterMap_cons_none h, Option.elim_none]
      | some e => rw [List.filterMap_cons_some h, Option.elim_some, List.foldl_cons]
  rw [hfold, hempty, Dict.ofList]

theorem types_foldl_declare (ds : List Declaration) (p : PackageScope) (h : p.types = .empty) :
    (ds.foldl declare p).types = .ofList (ds.filterMap (·.namedType?)) :=
  foldl_declare (fun p d => by cases d <;> rfl) ds p h

theorem funcs_foldl_declare (ds : List Declaration) (p : PackageScope) (h : p.funcs = .empty) :
    (ds.foldl declare p).funcs = .ofList (ds.filterMap (·.namedFunc?)) :=
  foldl_declare (fun p d => by cases d <;> rfl) ds p h

theorem values_foldl_declare (ds : List Declaration) (p : PackageScope) (h : p.values = .empty) :
    (ds.foldl declare p).values = .ofList (ds.filterMap (·.namedValue?)) :=
  foldl_declare (fun p d => by cases d <;> rfl) ds p h

theorem methodsOf_foldl_declare (type : String) (ds : List Declaration) (p : PackageScope) :
    (ds.foldl declare p).methodsOf type =
      p.methodsOf type ++ ds.filterMap (·.methodOf? type) := by
  induction ds generalizing p with
  | nil => simp
  | cons d ds ih =>
    rw [List.foldl_cons, ih]
    cases d with
    | method m =>
      by_cases hm : m.receiver = type
      · simp [hm, declare, methodsOf, Declaration.methodOf?]
      · simp [hm, Ne.symm hm, declare, methodsOf, Declaration.methodOf?]
    | _ => rfl

/-- Declarations leave the rest of a package as it is. -/
theorem foldl_declare_eq (ds : List Declaration) (p : PackageScope) :
    (ds.foldl declare p).importPath = p.importPath ∧ (ds.foldl declare p).name = p.name ∧
      (ds.foldl declare p).dir = p.dir ∧ (ds.foldl declare p).moduleDir = p.moduleDir ∧
      (ds.foldl declare p).importNames = p.importNames := by
  induction ds generalizing p with
  | nil => exact ⟨rfl, rfl, rfl, rfl, rfl⟩
  | cons d ds ih =>
    rw [List.foldl_cons]
    cases d <;> exact ih _

end PackageScope

/-- The declaration is the one of a symbol with this shape. -/
def Shape.DeclaredBy (name : String) (s : Shape) : Declaration → Prop
  | .type decl => s.typeDecl? name = some decl
  | .func decl => s.functionDecl? name = some decl
  | .value decl => decl.name = name ∧ s.Binds decl
  | .method _ => False

/-- The declarations are those of the records, each followed by those of its methods. -/
inductive Declaring : List Record → List Declaration → Prop
  | nil : Declaring [] []
  | cons {r : Record} {records : List Record} {d : Declaration} {ds : List Declaration}
      (hd : r.shape.DeclaredBy r.name d) (hds : Declaring records ds) :
      Declaring (r :: records) (d :: ((r.shape.methodDecls r.name).map .method ++ ds))

namespace Shape

variable {shape : Shape} {name : String} {d : Declaration}

theorem DeclaredBy.namedType?_eq (h : shape.DeclaredBy name d) :
    d.namedType? = (shape.typeDecl? name).map (Prod.mk name) := by
  cases d with
  | type decl => cases shape <;> cases h <;> rfl
  | func decl => cases shape <;> cases h; rfl
  | value b =>
    cases shape with
    | value type constant basic => rfl
    | _ => exact absurd h.2 id
  | method m => exact absurd h id

theorem DeclaredBy.namedFunc?_eq (h : shape.DeclaredBy name d) :
    d.namedFunc? = (shape.functionDecl? name).map (Prod.mk name) := by
  cases d with
  | type decl => cases shape <;> cases h <;> rfl
  | func decl => cases shape <;> cases h; rfl
  | value b =>
    cases shape with
    | value type constant basic => rfl
    | _ => exact absurd h.2 id
  | method m => exact absurd h id

theorem DeclaredBy.eq_value {type : Option GoType} {constant : Bool} {basic : Option ConstantKind}
    (h : (Shape.value type constant basic).DeclaredBy name d) :
    ∃ b, d = .value b ∧ b.name = name ∧ (Shape.value type constant basic).Binds b := by
  cases d with
  | value b => exact ⟨b, rfl, h⟩
  | type decl | func decl => cases h
  | method m => exact absurd h id

end Shape

namespace Declaring

variable {records : List Record} {ds : List Declaration} {r : Record} {d : Declaration}

theorem exists_mem (h : Declaring records ds) (hr : r ∈ records) :
    ∃ d ∈ ds, r.shape.DeclaredBy r.name d := by
  induction h with
  | nil => cases hr
  | @cons r' records d ds hd hds ih =>
    rcases List.mem_cons.mp hr with rfl | hr
    · exact ⟨d, List.mem_cons_self, hd⟩
    · obtain ⟨d', hd', hdeclared⟩ := ih hr
      exact ⟨d', List.mem_cons_of_mem _ (List.mem_append_right _ hd'), hdeclared⟩

theorem of_mem (h : Declaring records ds) (hd : d ∈ ds) :
    (∃ r ∈ records, r.shape.DeclaredBy r.name d) ∨ ∃ m, d = .method m := by
  induction h with
  | nil => cases hd
  | @cons r records d' ds hd' hds ih =>
    rcases List.mem_cons.mp hd with rfl | hd
    · exact Or.inl ⟨r, List.mem_cons_self, hd'⟩
    · rcases List.mem_append.mp hd with hd | hd
      · obtain ⟨m, -, rfl⟩ := List.mem_map.mp hd
        exact Or.inr ⟨m, rfl⟩
      · refine (ih hd).imp_left ?_
        rintro ⟨r', hr', hdeclared⟩
        exact ⟨r', List.mem_cons_of_mem _ hr', hdeclared⟩

/-- Each record makes one entry at most, under its name. -/
theorem nodup_keys {α : Type} {named? : Declaration → Option (String × α)}
    (h : Declaring records ds) (hnodup : (records.map (·.name)).Nodup)
    (hmethod : ∀ m, named? (.method m) = none)
    (hkey : ∀ (r : Record) d e, r.shape.DeclaredBy r.name d → named? d = some e → e.1 = r.name) :
    ((ds.filterMap named?).map (·.1)).Nodup := by
  have hsub : ((ds.filterMap named?).map (·.1)).Sublist (records.map (·.name)) := by
    clear hnodup
    induction h with
    | nil => exact .slnil
    | @cons r records d ds hd hds ih =>
      have hnone (methods : List MethodDecl) : (methods.map .method).filterMap named? = [] := by
        simp [List.filterMap_map, hmethod]
      cases hentry : named? d with
      | none =>
        rw [List.filterMap_cons_none hentry, List.filterMap_append, hnone, List.nil_append]
        exact ih.cons _
      | some e =>
        rw [List.filterMap_cons_some hentry, List.filterMap_append, hnone, List.nil_append,
          List.map_cons, hkey r d e hd hentry]
        exact ih.cons_cons _
  exact hsub.nodup hnodup

/-- If the entry of a declaration is one that its shape decides, the entries are those of the
records. -/
theorem get?_iff {α : Type} {named? : Declaration → Option (String × α)}
    {decl? : String → Shape → Option α} (h : Declaring records ds)
    (hnodup : (records.map (·.name)).Nodup) (hmethod : ∀ m, named? (.method m) = none)
    (hentry : ∀ (r : Record) d, r.shape.DeclaredBy r.name d →
      named? d = (decl? r.name r.shape).map (Prod.mk r.name)) (name : String) (decl : α) :
    (Dict.ofList (ds.filterMap named?)).get? name = some decl ↔
      ∃ r ∈ records, r.name = name ∧ decl? name r.shape = some decl := by
  have hkeys : ((ds.filterMap named?).map (·.1)).Nodup := by
    refine h.nodup_keys hnodup hmethod fun r d e hd he => ?_
    rw [hentry r d hd, Option.map_eq_some_iff] at he
    obtain ⟨decl, -, rfl⟩ := he
    rfl
  rw [Dict.get?_ofList_iff hkeys, List.mem_filterMap]
  constructor
  · rintro ⟨d, hd, he⟩
    obtain ⟨r, hr, hdeclared⟩ | ⟨m, rfl⟩ := h.of_mem hd
    · rw [hentry r d hdeclared, Option.map_eq_some_iff] at he
      obtain ⟨decl', hdecl, heq⟩ := he
      cases heq
      exact ⟨r, hr, rfl, hdecl⟩
    · rw [hmethod m] at he
      cases he
  · rintro ⟨r, hr, rfl, hdecl⟩
    obtain ⟨d, hd, hdeclared⟩ := h.exists_mem hr
    exact ⟨d, hd, by rw [hentry r d hdeclared, hdecl, Option.map_some]⟩

theorem exists_value (h : Declaring records ds) (hnodup : (records.map (·.name)).Nodup)
    (hr : r ∈ records) {type : Option GoType} {constant : Bool} {basic : Option ConstantKind}
    (hshape : r.shape = .value type constant basic) :
    ∃ b, (Dict.ofList (ds.filterMap (·.namedValue?))).get? r.name = some b ∧ r.shape.Binds b := by
  have hkeys : ((ds.filterMap (·.namedValue?)).map (·.1)).Nodup := by
    refine h.nodup_keys hnodup (fun _ => rfl) fun r d e hd he => ?_
    cases d with
    | value b =>
      cases he
      exact hd.1
    | _ => cases he
  obtain ⟨d, hd, hdeclared⟩ := h.exists_mem hr
  rw [hshape] at hdeclared ⊢
  obtain ⟨b, rfl, hname, hbinds⟩ := hdeclared.eq_value
  refine ⟨b, (Dict.get?_ofList_iff hkeys).mpr (List.mem_filterMap.mpr ⟨_, hd, ?_⟩), hbinds⟩
  rw [Declaration.namedValue?, hname]

theorem methodOf?_eq (h : r.shape.DeclaredBy r.name d) (type : String) :
    d.methodOf? type = none := by
  cases d with
  | method m => exact absurd h id
  | _ => rfl

/-- The methods of a record are declared on its name. -/
theorem filterMap_methodDecls (type : String) (r : Record) :
    ((r.shape.methodDecls r.name).map .method).filterMap (Declaration.methodOf? type) =
      if r.name = type then r.shape.methodDecls r.name else [] := by
  by_cases h : r.name = type <;>
    simp [List.filterMap_map, Function.comp_def, Declaration.methodOf?, Shape.methodDecls, h]

theorem methods_eq_nil (h : Declaring records ds) {type : String}
    (hnot : type ∉ records.map (·.name)) : ds.filterMap (·.methodOf? type) = [] := by
  induction h with
  | nil => rfl
  | @cons r records d ds hd hds ih =>
    rw [List.map_cons, List.mem_cons, not_or] at hnot
    obtain ⟨hname, hrest⟩ := hnot
    rw [List.filterMap_cons_none (methodOf?_eq hd type), List.filterMap_append,
      filterMap_methodDecls, if_neg (Ne.symm hname), ih hrest, List.append_nil]

theorem methods_eq (h : Declaring records ds) (hnodup : (records.map (·.name)).Nodup)
    (hr : r ∈ records) : ds.filterMap (·.methodOf? r.name) = r.shape.methodDecls r.name := by
  induction h with
  | nil => cases hr
  | @cons r' records d ds hd hds ih =>
    obtain ⟨hnot, hnodup⟩ := List.nodup_cons.mp hnodup
    rw [List.filterMap_cons_none (methodOf?_eq hd r.name), List.filterMap_append,
      filterMap_methodDecls]
    rcases List.mem_cons.mp hr with rfl | hr
    · rw [if_pos rfl, hds.methods_eq_nil hnot, List.append_nil]
    · have hne : r'.name ≠ r.name := fun heq => hnot (List.mem_map.mpr ⟨r, hr, heq.symm⟩)
      rw [if_neg hne, ih hnodup hr, List.nil_append]

/-- The package that the records of a plan are declared in restates the plan, if it calls the
imports as the plan does. -/
theorem restates {p : StubPlan} {package : PackageFiles} (h : Declaring p.records ds)
    (hnodup : (p.records.map (·.name)).Nodup) (hpath : package.importPath = p.package)
    {names : Dict String}
    (hnames : ∀ path name, p.imports.localName? path = some name → names.get? path = some name) :
    PackageScope.Restates
      { ds.foldl PackageScope.declare
          { PackageScope.ofPackage package with name := p.packageName } with importNames := names }
      p := by
  obtain ⟨hpath', hname, -⟩ := PackageScope.foldl_declare_eq ds
    { PackageScope.ofPackage package with name := p.packageName }
  refine ⟨?_, ?_, ?_, ?_, ?_, ?_, hnames⟩
  · exact hpath'.trans hpath
  · exact hname
  · intro name decl
    dsimp only
    rw [PackageScope.types_foldl_declare ds _ rfl]
    exact h.get?_iff hnodup (fun _ => rfl) (fun _ _ => Shape.DeclaredBy.namedType?_eq) name decl
  · intro name decl
    dsimp only
    rw [PackageScope.funcs_foldl_declare ds _ rfl]
    exact h.get?_iff hnodup (fun _ => rfl) (fun _ _ => Shape.DeclaredBy.namedFunc?_eq) name decl
  · intro r hr type constant basic hshape
    dsimp only
    rw [PackageScope.values_foldl_declare ds _ rfl]
    exact h.exists_value hnodup hr hshape
  · intro r hr
    have hmethods := PackageScope.methodsOf_foldl_declare r.name ds
      { PackageScope.ofPackage package with name := p.packageName }
    rw [h.methods_eq hnodup hr] at hmethods
    exact hmethods

end Declaring

end GoStub
