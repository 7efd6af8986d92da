import GoStub.Proofs.Renderable
import Mathlib.Data.Set.Insert

/-! The layout of a stub's declarations: plain text and names of other packages. What is written for
given records is one layout, whatever the import table is; the table only says by which local name
each package goes. -/

namespace GoStub

/-- Text that does not depend on the imports, or a name of another package. -/
inductive Piece
  | plain (text : String)
  | foreign (package name : String)

namespace Fragment

@[simp] theorem text_append (f g : Fragment) : (f ++ g).text = f.text ++ g.text := rfl

@[simp] theorem uses_append (f g : Fragment) : (f ++ g).uses = f.uses ++ g.uses := rfl

theorem ext {f g : Fragment} (htext : f.text = g.text) (huses : f.uses = g.uses) : f = g := by
  cases f
  cases g
  cases htext
  cases huses
  rfl

theorem append_assoc (f g h : Fragment) : f ++ g ++ h = f ++ (g ++ h) :=
  ext (String.append_assoc ..) (List.append_assoc ..)

theorem append_empty (f : Fragment) : f ++ ofText "" = f :=
  ext (String.append_empty ..) (List.append_nil _)

theorem empty_append (f : Fragment) : ofText "" ++ f = f :=
  ext (String.empty_append ..) (List.nil_append _)

end Fragment

/-- A piece under the local names of `imports`. -/
def Piece.fragment (imports : ImportTable) : Piece → Fragment
  | .plain text => .ofText text
  | .foreign package name => ⟨(imports.localName? package).getD "" ++ "." ++ name, [package]⟩

/-- A layout under the local names of `imports`. -/
def fill (imports : ImportTable) (layout : List Piece) : Fragment :=
  Fragment.concat (layout.map (·.fragment imports))

variable {imports : ImportTable}

@[simp] theorem fill_nil : fill imports [] = .ofText "" := rfl

theorem fill_cons (piece : Piece) (layout : List Piece) :
    fill imports (piece :: layout) = piece.fragment imports ++ fill imports layout := rfl

@[simp] theorem fill_singleton (piece : Piece) : fill imports [piece] = piece.fragment imports :=
  Fragment.append_empty _

theorem fill_append (a b : List Piece) :
    fill imports (a ++ b) = fill imports a ++ fill imports b := by
  induction a with
  | nil => exact (Fragment.empty_append _).symm
  | cons piece a ih => rw [List.cons_append, fill_cons, ih, fill_cons, Fragment.append_assoc]

theorem mem_uses_fill {layout : List Piece} {path : String} :
    path ∈ (fill imports layout).uses ↔ ∃ name, .foreign path name ∈ layout := by
  induction layout with
  | nil => simp [Fragment.ofText]
  | cons piece layout ih =>
    rw [fill_cons, Fragment.uses_append, List.mem_append, ih]
    cases piece <;> simp [Piece.fragment, Fragment.ofText, exists_or, eq_comm]

/-- Names of packages, each with the path of its package. -/
abbrev NameRefs := Set (String × String)

variable {f g : ImportTable → Fragment} {fs gs : ImportTable → List Fragment} {M N : NameRefs}

/-- The fragment is one layout filled in, and `N` are the foreign names in it. -/
def Lays (f : ImportTable → Fragment) (N : NameRefs) : Prop :=
  ∃ layout : List Piece, (∀ imports, f imports = fill imports layout) ∧
    ∀ package name, .foreign package name ∈ layout ↔ (package, name) ∈ N

theorem lays_text (s : String) : Lays (fun _ => .ofText s) ∅ :=
  ⟨[.plain s], fun _ => (fill_singleton (.plain s)).symm, by simp⟩

theorem lays_foreign (package name : String) :
    Lays (fun imports => ⟨(imports.localName? package).getD "" ++ "." ++ name, [package]⟩)
      {(package, name)} :=
  ⟨[.foreign package name], fun _ => (fill_singleton (.foreign package name)).symm, by simp⟩

theorem Lays.append (hf : Lays f M) (hg : Lays g N) : Lays (fun i => f i ++ g i) (M ∪ N) := by
  obtain ⟨a, ha, hM⟩ := hf
  obtain ⟨b, hb, hN⟩ := hg
  refine ⟨a ++ b, fun i => ?_, fun package name => ?_⟩
  · rw [fill_append, ← ha, ← hb]
  · rw [List.mem_append, hM, hN, Set.mem_union]

theorem Lays.of_eq (hf : Lays f M) (h : M = N) : Lays f N :=
  h ▸ hf

/-- Text before a fragment. -/
theorem Lays.after (hf : Lays f N) (s : String) : Lays (fun i => s ++ f i) N :=
  ((lays_text s).append hf).of_eq (Set.empty_union N)

/-- Text behind a fragment. -/
theorem Lays.before (hf : Lays f N) (s : String) : Lays (fun i => f i ++ s) N :=
  (hf.append (lays_text s)).of_eq (Set.union_empty N)

/-- So many fragments, each of one layout. -/
inductive LaysAll : (ImportTable → List Fragment) → NameRefs → Prop
  | nil : LaysAll (fun _ => []) ∅
  | cons {f : ImportTable → Fragment} {fs : ImportTable → List Fragment} {M N : NameRefs}
      (hf : Lays f M) (hfs : LaysAll fs N) : LaysAll (fun i => f i :: fs i) (M ∪ N)

theorem LaysAll.append (hfs : LaysAll fs M) (hgs : LaysAll gs N) :
    LaysAll (fun i => fs i ++ gs i) (M ∪ N) := by
  induction hfs with
  | nil => simpa using hgs
  | cons hf _ ih =>
    rw [Set.union_assoc]
    exact .cons hf ih

theorem LaysAll.map {k : Fragment → Fragment} (hfs : LaysAll fs N)
    (hk : ∀ {f M}, Lays f M → Lays (fun i => k (f i)) M) : LaysAll (fun i => (fs i).map k) N := by
  induction hfs with
  | nil => exact .nil
  | cons hf _ ih => exact .cons (hk hf) ih

theorem LaysAll.concat (hfs : LaysAll fs N) : Lays (fun i => Fragment.concat (fs i)) N := by
  induction hfs with
  | nil => exact lays_text ""
  | cons hf _ ih => exact hf.append ih

theorem LaysAll.joinWith (hfs : LaysAll fs N) (sep : String) :
    Lays (fun i => Fragment.joinWith sep (fs i)) N := by
  induction hfs with
  | nil => exact lays_text ""
  | cons hf hrest ih =>
    cases hrest with
    | nil => exact hf.of_eq (Set.union_empty _).symm
    | cons => exact (hf.before sep).append ih

theorem LaysAll.argumentText (hfs : LaysAll fs N) : Lays (fun i => argumentText (fs i)) N := by
  cases hfs with
  | nil => exact lays_text ""
  | cons hf hrest => exact ((LaysAll.cons hf hrest).joinWith ", ").after "[" |>.before "]"

theorem LaysAll.resultText (hfs : LaysAll fs N) : Lays (fun i => resultText (fs i)) N := by
  cases hfs with
  | nil => exact lays_text ""
  | cons hf hrest =>
    cases hrest with
    | nil => exact (hf.after " ").of_eq (Set.union_empty _).symm
    | cons hg hrest =>
      exact ((LaysAll.cons hf (.cons hg hrest)).joinWith ", ").after " (" |>.before ")"

theorem LaysAll.variadicTexts (hfs : LaysAll fs N) (variadic : Bool) :
    LaysAll (fun i => variadicTexts variadic (fs i)) N := by
  induction hfs with
  | nil => exact .nil
  | cons hf hrest ih =>
    cases hrest with
    | nil =>
      cases variadic with
      | true => exact .cons (hf.after "...") .nil
      | false => exact .cons hf .nil
    | cons => exact .cons hf ih

theorem LaysAll.inlineText (hfs : LaysAll fs N) (keyword : String) :
    Lays (fun i => inlineText keyword (fs i)) N := by
  cases hfs with
  | nil => exact lays_text _
  | cons hf hrest => exact ((LaysAll.cons hf hrest).joinWith "; ").after _ |>.before " \x7d"

theorem LaysAll.blockText (hfs : LaysAll fs N) (keyword : String) :
    Lays (fun i => blockText keyword (fs i)) N := by
  have hmembers : Lays (fun i => Fragment.concat ((fs i).map fun m => "\t" ++ m ++ "\n")) N :=
    (hfs.map fun hf => (hf.after "\t").before "\n").concat
  cases hfs with
  | nil => exact lays_text _
  | cons => exact (hmembers.after _).before "\x7d"

theorem Lays.chanText (hf : Lays f N) (direction : Direction) (elem : GoType) :
    Lays (fun i => chanText direction elem (f i)) N := by
  unfold GoStub.chanText
  split
  · exact hf.after _
  · exact hf.after _
  · exact (hf.after _).before _
  · exact hf.after _

theorem Lays.fieldText (hf : Lays f N) (name : String) (embedded : Bool) (tag : Option String) :
    Lays (fun i => fieldText name embedded tag (f i)) N := by
  have hfield : Lays (fun i => if embedded then f i else (name ++ " ") ++ f i) N := by
    cases embedded with
    | true => exact hf
    | false => exact hf.after (name ++ " ")
  cases tag with
  | none => exact hfield
  | some tag => exact hfield.before (" " ++ tag)

section Attempts

variable {ε α β : Type} {x : ImportTable → Except ε α} {a : ImportTable → α} {b : ImportTable → β}

/-- Where the attempt succeeds, it gives `a`. -/
def Gives (x : ImportTable → Except ε α) (a : ImportTable → α) : Prop :=
  ∀ imports r, x imports = .ok r → r = a imports

theorem gives_ok : Gives (ε := ε) (fun i => .ok (a i)) a :=
  fun _ _ h => (Except.ok.inj h).symm

theorem Gives.bind {y : ImportTable → α → Except ε β} (hx : Gives x a)
    (hy : Gives (fun i => y i (a i)) b) : Gives (fun i => x i >>= y i) b := by
  intro imports r h
  obtain ⟨r', hr', h⟩ := Except.bind_eq_ok.mp h
  rw [hx imports r' hr'] at h
  exact hy imports r h

/-- What is written is one layout with the foreign names `N`. -/
def Writes (x : ImportTable → Except ε Fragment) (N : NameRefs) : Prop :=
  ∃ f, Gives x f ∧ Lays f N

def WritesAll (x : ImportTable → Except ε (List Fragment)) (N : NameRefs) : Prop :=
  ∃ fs, Gives x fs ∧ LaysAll fs N

theorem Writes.of_eq {x : ImportTable → Except ε Fragment} (hx : Writes x M) (h : M = N) :
    Writes x N :=
  h ▸ hx

theorem writes_text (s : String) : Writes (ε := ε) (fun _ => .ok (.ofText s)) ∅ :=
  ⟨_, gives_ok, lays_text s⟩

theorem writes_error {e : ImportTable → ε} : Writes (fun i => .error (e i)) ∅ :=
  ⟨fun _ => .ofText "", fun _ _ h => (by cases h), lays_text ""⟩

theorem Writes.map {x : ImportTable → Except ε Fragment} {k : Fragment → Fragment}
    (hx : Writes x N) (hk : ∀ {f}, Lays f N → Lays (fun i => k (f i)) N) :
    Writes (fun i => do return k (← x i)) N := by
  obtain ⟨f, hf, hN⟩ := hx
  exact ⟨_, hf.bind gives_ok, hk hN⟩

theorem WritesAll.map {x : ImportTable → Except ε (List Fragment)} {k : List Fragment → Fragment}
    (hx : WritesAll x N) (hk : ∀ {fs}, LaysAll fs N → Lays (fun i => k (fs i)) N) :
    Writes (fun i => do return k (← x i)) N := by
  obtain ⟨fs, hfs, hN⟩ := hx
  exact ⟨_, hfs.bind gives_ok, hk hN⟩

end Attempts

namespace GoType

/-- The names of other packages that occur in a type. -/
def foreignNames (own : String) (t : GoType) : NameRefs :=
  {n | n.1 ≠ own ∧ ∃ u : GoType, u.Occurs t ∧ u.Names n.1 n.2}

/-- The foreign name at the node itself. -/
def foreignHere (own : String) (t : GoType) : NameRefs :=
  {n | n.1 ≠ own ∧ t.Names n.1 n.2}

end GoType

/-- The names of other packages that occur in some types. -/
def foreignNamesOf (own : String) (ts : List GoType) : NameRefs :=
  {n | ∃ t ∈ ts, n ∈ t.foreignNames own}

variable {own : String}

@[simp] theorem foreignNamesOf_nil : foreignNamesOf own [] = ∅ := by
  simp [foreignNamesOf]

@[simp] theorem foreignNamesOf_cons (t : GoType) (ts : List GoType) :
    foreignNamesOf own (t :: ts) = t.foreignNames own ∪ foreignNamesOf own ts := by
  ext n
  simp [foreignNamesOf]

@[simp] theorem foreignNamesOf_append (ts us : List GoType) :
    foreignNamesOf own (ts ++ us) = foreignNamesOf own ts ∪ foreignNamesOf own us := by
  ext n
  simp [foreignNamesOf, or_and_right, exists_or]

theorem GoType.foreignNames_eq (t : GoType) :
    t.foreignNames own = t.foreignHere own ∪ foreignNamesOf own t.parts := by
  ext n
  simp only [foreignNames, foreignHere, foreignNamesOf, Set.mem_union, Set.mem_ofPred_eq]
  constructor
  · rintro ⟨hown, u, hu, hn⟩
    rcases occurs_iff.mp hu with rfl | ⟨part, hp, hu⟩
    · exact Or.inl ⟨hown, hn⟩
    · exact Or.inr ⟨part, hp, hown, u, hu, hn⟩
  · rintro (⟨hown, hn⟩ | ⟨part, hp, hown, u, hu, hn⟩)
    · exact ⟨hown, t, .here, hn⟩
    · exact ⟨hown, u, .inside hp hu, hn⟩

/-- The scope with another import table. -/
def StubScope.withImports (c : StubScope) (imports : ImportTable) : StubScope :=
  { c with imports := imports }

variable {c : StubScope}

theorem foreignRef_own (name : String) :
    {n : String × String | n.1 ≠ own ∧ own = n.1 ∧ name = n.2} = ∅ := by
  ext n
  simp only [Set.mem_ofPred_eq, Set.mem_empty_iff_false, iff_false]
  rintro ⟨hown, h, -⟩
  exact hown h.symm

theorem foreignRef_other {package : String} (hp : package ≠ own) (name : String) :
    {n : String × String | n.1 ≠ own ∧ package = n.1 ∧ name = n.2} = {(package, name)} := by
  ext ⟨p, n⟩
  simp only [Set.mem_ofPred_eq, Set.mem_singleton_iff, Prod.mk.injEq]
  constructor
  · rintro ⟨-, rfl, rfl⟩
    exact ⟨rfl, rfl⟩
  · rintro ⟨rfl, rfl⟩
    exact ⟨hp, rfl, rfl⟩

namespace StubScope

theorem writes_qualified (package name : String) :
    Writes (fun i => (c.withImports i).qualified package name) {(package, name)} := by
  refine ⟨_, fun imports f h => ?_, lays_foreign package name⟩
  simp only [qualified, withImports] at h
  split at h
  · cases h
  next qualifier hq =>
    cases h
    simp [hq]

theorem writes_nameText (package name : String) (args : List GoType) :
    Writes (fun i => (c.withImports i).nameText package name)
      ((GoType.named package name args).foreignHere c.package) := by
  simp only [nameText, withImports, GoType.foreignHere, GoType.Names]
  by_cases hp : package = c.package
  · simp only [hp, ↓reduceIte, foreignRef_own]
    by_cases hd : c.declared.contains name = true
    · simpa only [hd, ↓reduceIte] using writes_text name
    · simpa only [hd, Bool.false_eq_true, ↓reduceIte] using writes_error
  · simp only [hp, ↓reduceIte, foreignRef_other hp]
    exact writes_qualified package name

theorem writes_lengthText (length : ArrayLength) (elem : GoType) :
    Writes (fun i => (c.withImports i).lengthText length)
      ((GoType.array length elem).foreignHere c.package) := by
  cases length with
  | literal value => simpa [lengthText, GoType.foreignHere, GoType.Names] using writes_text value
  | expr text => simpa [lengthText, GoType.foreignHere, GoType.Names] using writes_error
  | constant package name =>
    simp only [lengthText, withImports, GoType.foreignHere, GoType.Names]
    by_cases hp : package = c.package
    · simpa only [hp, ↓reduceIte, foreignRef_own] using writes_error
    · simp only [hp, ↓reduceIte, foreignRef_other hp]
      exact writes_qualified package name

end StubScope

theorem writesAll_typeTexts {ts : List GoType}
    (h : ∀ t ∈ ts, Writes (fun i => t.text (c.withImports i)) (t.foreignNames c.package)) :
    WritesAll (fun i => typeTexts (c.withImports i) ts) (foreignNamesOf c.package ts) := by
  induction ts with
  | nil => exact ⟨_, gives_ok, by simpa using LaysAll.nil⟩
  | cons t ts ih =>
    obtain ⟨ht, hts⟩ := List.forall_mem_cons.mp h
    obtain ⟨f, hf, hM⟩ := ht
    obtain ⟨fs, hfs, hN⟩ := ih hts
    simp only [typeTexts, foreignNamesOf_cons]
    exact ⟨_, hf.bind (hfs.bind gives_ok), .cons hM hN⟩

theorem writesAll_fieldTexts {fields : List Field}
    (h : ∀ t ∈ fields.map (·.type),
      Writes (fun i => t.text (c.withImports i)) (t.foreignNames c.package)) :
    WritesAll (fun i => fieldTexts (c.withImports i) fields)
      (foreignNamesOf c.package (fields.map (·.type))) := by
  induction fields with
  | nil => exact ⟨_, gives_ok, by simpa using LaysAll.nil⟩
  | cons field fields ih =>
    obtain ⟨name, type, embedded, tag⟩ := field
    obtain ⟨⟨f, hf, hM⟩, hrest⟩ := List.forall_mem_cons.mp h
    obtain ⟨fs, hfs, hN⟩ := ih hrest
    simp only [fieldTexts, List.map_cons, foreignNamesOf_cons]
    exact ⟨_, hf.bind (hfs.bind gives_ok), .cons (hM.fieldText name embedded tag) hN⟩

theorem Signature.writes_text {s : Signature}
    (h : ∀ t ∈ s.types, Writes (fun i => t.text (c.withImports i)) (t.foreignNames c.package)) :
    Writes (fun i => s.text (c.withImports i)) (foreignNamesOf c.package s.types) := by
  obtain ⟨params, variadic, results⟩ := s
  obtain ⟨hparams, hresults⟩ := List.forall_mem_append.mp h
  obtain ⟨ps, hps, hM⟩ := writesAll_typeTexts hparams
  obtain ⟨rs, hrs, hN⟩ := writesAll_typeTexts hresults
  simp only [Signature.text, Signature.types, foreignNamesOf_append]
  exact ⟨_, hps.bind (hrs.bind gives_ok),
    ((((hM.variadicTexts variadic).joinWith ", ").after "(").before ")").append hN.resultText⟩

theorem writesAll_methodTexts {methods : List Method}
    (h : ∀ t ∈ methods.flatMap (·.signature.types),
      Writes (fun i => t.text (c.withImports i)) (t.foreignNames c.package)) :
    WritesAll (fun i => methodTexts (c.withImports i) methods)
      (foreignNamesOf c.package (methods.flatMap (·.signature.types))) := by
  induction methods with
  | nil => exact ⟨_, gives_ok, by simpa using LaysAll.nil⟩
  | cons m methods ih =>
    obtain ⟨name, signature⟩ := m
    rw [List.flatMap_cons] at h
    obtain ⟨hsignature, hrest⟩ := List.forall_mem_append.mp h
    obtain ⟨f, hf, hM⟩ := Signature.writes_text hsignature
    obtain ⟨fs, hfs, hN⟩ := ih hrest
    simp only [methodTexts, List.flatMap_cons, foreignNamesOf_append]
    exact ⟨_, hf.bind (hfs.bind gives_ok), .cons (hM.after name) hN⟩

theorem InterfaceBody.writesAll_memberTexts {b : InterfaceBody}
    (h : ∀ t ∈ b.types, Writes (fun i => t.text (c.withImports i)) (t.foreignNames c.package)) :
    WritesAll (fun i => b.memberTexts (c.withImports i)) (foreignNamesOf c.package b.types) := by
  obtain ⟨methods, embedded, typeSets⟩ := b
  simp only [InterfaceBody.types, List.forall_mem_append] at h
  obtain ⟨hmethods, hembedded, htypeSets⟩ := h
  obtain ⟨ms, hms, hM⟩ := writesAll_methodTexts hmethods
  obtain ⟨es, hes, hE⟩ := writesAll_typeTexts hembedded
  obtain ⟨ts, hts, hT⟩ := writesAll_typeTexts htypeSets
  simp only [InterfaceBody.memberTexts, InterfaceBody.types, foreignNamesOf_append]
  refine ⟨_, hes.bind (hms.bind (hts.bind gives_ok)), ?_⟩
  -- embedded types are written first, but listed after the methods
  rw [← Set.union_assoc, Set.union_comm (foreignNamesOf c.package (methods.flatMap _))]
  exact (hE.append hM).append hT

/-- The text of a type is one layout with the foreign names that occur in it. -/
theorem GoType.writes_text (t : GoType) :
    Writes (fun i => t.text (c.withImports i)) (t.foreignNames c.package) := by
  induction t using inductionOnParts with
  | step t ih =>
    rw [foreignNames_eq]
    cases t with
    | builtin name | param name =>
      simpa [text, parts, foreignHere, Names] using GoStub.writes_text name
    | unsupported reason => simpa [text, parts, foreignHere, Names] using writes_error
    | named package name args =>
      obtain ⟨f, hf, hM⟩ := c.writes_nameText package name args
      obtain ⟨fs, hfs, hN⟩ := writesAll_typeTexts ih
      simp only [text]
      exact ⟨_, hf.bind (hfs.bind gives_ok), hM.append hN.argumentText⟩
    | pointer elem | slice elem | tilde elem =>
      simpa [text, parts, foreignHere, Names] using
        (ih elem (by simp [parts])).map fun hf => hf.after _
    | chan direction elem =>
      simpa [text, parts, foreignHere, Names] using
        (ih elem (by simp [parts])).map fun hf => hf.chanText direction elem
    | array length elem =>
      obtain ⟨f, hf, hM⟩ := c.writes_lengthText length elem
      obtain ⟨g, hg, hN⟩ := ih elem (by simp [parts])
      simp only [text, parts, foreignNamesOf_cons, foreignNamesOf_nil, Set.union_empty]
      exact ⟨_, hf.bind (hg.bind gives_ok), ((hM.after "[").before "]").append hN⟩
    | map key value =>
      obtain ⟨f, hf, hM⟩ := ih key (by simp [parts])
      obtain ⟨g, hg, hN⟩ := ih value (by simp [parts])
      refine Writes.of_eq ⟨_, hf.bind (hg.bind gives_ok),
        ((hM.after "map[").before "]").append hN⟩ ?_
      simp [parts, foreignHere, Names]
    | func signature =>
      simpa [text, parts, foreignHere, Names] using
        (Signature.writes_text ih).map fun hf => hf.after "func"
    | struct fields =>
      simpa [text, parts, foreignHere, Names] using
        (writesAll_fieldTexts ih).map fun hfs => hfs.inlineText "struct"
    | interface body =>
      simpa [text, parts, foreignHere, Names] using
        (InterfaceBody.writesAll_memberTexts ih).map fun hfs => hfs.inlineText "interface"
    | union terms =>
      simpa [text, parts, foreignHere, Names] using
        (writesAll_typeTexts ih).map fun hfs => hfs.joinWith " | "

theorem writesAll_types (ts : List GoType) :
    WritesAll (fun i => typeTexts (c.withImports i) ts) (foreignNamesOf c.package ts) :=
  writesAll_typeTexts fun t _ => t.writes_text

/-- Each type parameter stands before its constraint. -/
theorem exists_laysAll_params (params : List TypeParam) :
    ∃ fs, LaysAll fs (foreignNamesOf c.package (constraintTypes params)) ∧
      ∀ i texts, typeTexts (c.withImports i) (constraintTypes params) = .ok texts →
        List.zipWith (fun p (text : Fragment) => (p.name ++ " ") ++ text) params texts = fs i := by
  induction params with
  | nil => exact ⟨_, by simpa [constraintTypes] using LaysAll.nil, fun _ _ _ => rfl⟩
  | cons p params ih =>
    obtain ⟨fs, hN, hfs⟩ := ih
    obtain ⟨f, hf, hM⟩ := p.constraint.writes_text (c := c)
    refine ⟨fun i => ((p.name ++ " ") ++ f i) :: fs i, ?_, fun i texts h => ?_⟩
    · simpa only [constraintTypes, List.map_cons, foreignNamesOf_cons] using
        LaysAll.cons (hM.after (p.name ++ " ")) hN
    · obtain ⟨text, htext, h⟩ := Except.bind_eq_ok.mp h
      obtain ⟨rest, hrest, h⟩ := Except.bind_eq_ok.mp h
      obtain rfl := Except.pure_eq_ok.mp h
      rw [List.zipWith_cons_cons, hfs i rest hrest, hf i text htext]

theorem writes_paramListText (params : List TypeParam) :
    Writes (fun i => paramListText (c.withImports i) params)
      (foreignNamesOf c.package (constraintTypes params)) := by
  obtain ⟨fs, hN, hfs⟩ := exists_laysAll_params (c := c) params
  refine ⟨_, fun i r h => ?_, hN.argumentText⟩
  obtain ⟨texts, htexts, h⟩ := Except.bind_eq_ok.mp h
  rw [← hfs i texts htexts]
  exact (Except.pure_eq_ok.mp h).symm

theorem writes_declaredSignature (s : Signature) :
    Writes (fun i => declaredSignature (c.withImports i) s) (foreignNamesOf c.package s.types) := by
  obtain ⟨ps, hps, hM⟩ := writesAll_types (c := c) s.params
  obtain ⟨rs, hrs, hN⟩ := writesAll_types (c := c) s.results
  have hparams : LaysAll (fun i => (variadicTexts s.variadic (ps i)).map fun p => "_ " ++ p)
      (foreignNamesOf c.package s.params) :=
    (hM.variadicTexts s.variadic).map fun hf => hf.after "_ "
  simp only [declaredSignature, Signature.types, foreignNamesOf_append]
  exact ⟨_, hps.bind (hrs.bind gives_ok),
    (((hparams.joinWith ", ").after "(").before ")").append hN.resultText⟩

theorem writes_methodText (receiver : String) (m : DeclaredMethod) :
    Writes (fun i => methodText (c.withImports i) receiver m)
      (foreignNamesOf c.package m.signature.types) :=
  (writes_declaredSignature m.signature).map (k := fun signature =>
    ("\n" ++ c.comment m.name (receiver ++ "." ++ m.name) ++ "func " ++ receiverText receiver m ++
      " " ++ m.name) ++ signature ++ functionBody) fun hf => (hf.after _).before functionBody

theorem writes_methodsText (receiver : String) (methods : List DeclaredMethod) :
    Writes (fun i => methodsText (c.withImports i) receiver methods)
      (foreignNamesOf c.package (methodTypes methods)) := by
  induction methods with
  | nil => simpa [methodsText, methodTypes] using writes_text ""
  | cons m methods ih =>
    obtain ⟨f, hf, hM⟩ := writes_methodText (c := c) receiver m
    obtain ⟨g, hg, hN⟩ := ih
    simp only [methodsText, methodTypes, List.flatMap_cons, foreignNamesOf_append]
    exact ⟨_, hf.bind (hg.bind gives_ok), hM.append hN⟩

theorem Lays.typeDeclText {params rest : ImportTable → Fragment} (hparams : Lays params M)
    (hrest : Lays rest N) (name : String) :
    Lays (fun i => typeDeclText name (params i) (rest i)) (M ∪ N) :=
  (((hparams.after ("type " ++ name)).before " ").append hrest).before "\n"

/-- A declaration is one layout with the foreign names that occur in its shape. -/
theorem writes_shapeText (name : String) (s : Shape) :
    Writes (fun i => shapeText (c.withImports i) name s) (foreignNamesOf c.package s.types) := by
  cases s with
  | function params signature =>
    obtain ⟨f, hf, hM⟩ := writes_paramListText (c := c) params
    obtain ⟨g, hg, hN⟩ := writes_declaredSignature (c := c) signature
    simp only [shapeText, Shape.types, foreignNamesOf_append]
    exact ⟨_, hf.bind (hg.bind gives_ok),
      ((hM.after ("func " ++ name)).append hN).before functionBody⟩
  | interface params body =>
    obtain ⟨f, hf, hM⟩ := writes_paramListText (c := c) params
    obtain ⟨gs, hgs, hN⟩ := InterfaceBody.writesAll_memberTexts (c := c) (b := body)
      fun t _ => t.writes_text
    simp only [shapeText, Shape.types, foreignNamesOf_append]
    exact ⟨_, hf.bind (hgs.bind gives_ok), hM.typeDeclText (hN.blockText "interface") name⟩
  | struct params fields methods =>
    obtain ⟨f, hf, hM⟩ := writes_paramListText (c := c) params
    obtain ⟨gs, hgs, hN⟩ := writesAll_fieldTexts (c := c)
      fun t (_ : t ∈ fields.map (·.type)) => t.writes_text
    obtain ⟨k, hk, hK⟩ := writes_methodsText (c := c) name methods
    refine Writes.of_eq ⟨_, hf.bind (hgs.bind (hk.bind gives_ok)),
      (hM.typeDeclText (hN.blockText "struct") name).append hK⟩ ?_
    simp only [Shape.types, foreignNamesOf_append]
    rw [Set.union_assoc, Set.union_comm (foreignNamesOf c.package (fields.map _))]
  | named params underlying isAlias methods =>
    obtain ⟨f, hf, hM⟩ := writes_paramListText (c := c) params
    obtain ⟨g, hg, hN⟩ := underlying.writes_text (c := c)
    obtain ⟨k, hk, hK⟩ := writes_methodsText (c := c) name methods
    refine Writes.of_eq ⟨_, hf.bind (hg.bind (hk.bind gives_ok)),
      (hM.typeDeclText (hN.after (if isAlias then "= " else "")) name).append hK⟩ ?_
    simp only [Shape.types, foreignNamesOf_append, foreignNamesOf_cons, foreignNamesOf_nil,
      Set.union_empty]
    rw [Set.union_assoc, Set.union_comm (underlying.foreignNames c.package)]
  | value type constant basic =>
    cases constant with
    | true =>
      cases basic with
      | none =>
        -- nothing is written, so any layout with these names will do
        obtain ⟨fs, -, hN⟩ := writesAll_types (c := c) type.toList
        exact ⟨_, fun _ _ h => (by cases h), hN.concat⟩
      | some kind =>
        cases type with
        | none => simpa [shapeText, Shape.types] using writes_text _
        | some type =>
          simpa [shapeText, Shape.types] using (type.writes_text (c := c)).map fun hf =>
            (hf.after ("const " ++ name ++ " ")).before (" = " ++ kind.zero ++ "\n")
    | false =>
      cases type with
      | none => simpa [shapeText, Shape.types] using writes_error
      | some type =>
        simpa [shapeText, Shape.types] using (type.writes_text (c := c)).map fun hf =>
          (hf.after ("var " ++ name ++ " ")).before "\n"

theorem writes_recordText (r : Record) :
    Writes (fun i => recordText (c.withImports i) r) (foreignNamesOf c.package r.shape.types) := by
  obtain ⟨f, hf, hN⟩ := writes_shapeText (c := c) r.name r.shape
  refine ⟨_, fun i text h => ?_, hN.after ("\n" ++ c.comment r.name r.name)⟩
  simp only [recordText] at h
  split at h
  · cases h
  next declaration hd =>
    cases h
    rw [hf i declaration hd]
    rfl

/-- The declarations of a stub are one layout with the foreign names that occur in the records. -/
theorem writes_recordsText (records : List Record) :
    Writes (fun i => recordsText (c.withImports i) records)
      (foreignNamesOf c.package (records.flatMap (·.shape.types))) := by
  induction records with
  | nil => simpa [recordsText] using writes_text ""
  | cons r records ih =>
    obtain ⟨f, hf, hM⟩ := writes_recordText (c := c) r
    obtain ⟨g, hg, hN⟩ := ih
    simp only [recordsText, List.flatMap_cons, foreignNamesOf_append]
    exact ⟨_, hf.bind (hg.bind gives_ok), hM.append hN⟩

end GoStub
