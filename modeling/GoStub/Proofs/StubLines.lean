import GoStub.Proofs.SingleLine

/-! The lines of a stub. Every declaration begins on a line of its own, right after the comment that
says where it comes from, and the lines after the first line of a function are its body, which does
nothing but fail. No other line looks like the beginning of a declaration. -/

namespace GoStub

/-- The texts that a shape has besides those in its types. -/
def Shape.textsHere : Shape → List String
  | .function params _ => params.map (·.name)
  | .interface params body => params.map (·.name) ++ body.methods.map (·.name)
  | .struct params fields methods => params.map (·.name) ++
      (fields.flatMap (fun f => f.name :: f.tag.toList) ++
        methods.flatMap fun m => m.name :: m.receiverParams)
  | .named params _ _ methods =>
    params.map (·.name) ++ methods.flatMap fun m => m.name :: m.receiverParams
  | .value _ _ _ => []

/-- No text in the shape breaks a line. -/
def Shape.OnSingleLine (s : Shape) : Prop :=
  (∀ text ∈ s.textsHere, SingleLine text) ∧ ∀ t ∈ s.types, t.OnSingleLine

/-- No text in the plan breaks a line. -/
structure StubPlan.OnSingleLine (p : StubPlan) : Prop where
  package : SingleLine p.package
  packageName : SingleLine p.packageName
  imports : ∀ i ∈ p.imports.names.entries, SingleLine i.1 ∧ SingleLine i.2
  records : ∀ r ∈ p.records, SingleLine r.name ∧ r.shape.OnSingleLine

/-- A declaration of a stub: that of a symbol, or of a method of a type. -/
inductive StubDeclaration
  | symbol (name : String) (shape : Shape)
  | method (receiver : String) (m : DeclaredMethod)

/-- A record declares its symbol, then the methods it has. -/
def Record.declarations (r : Record) : List StubDeclaration :=
  .symbol r.name r.shape :: r.shape.methods.map (.method r.name)

def StubPlan.declarations (p : StubPlan) : List StubDeclaration :=
  p.records.flatMap (·.declarations)

/-- The lines after the first line of a function. -/
def failingBody : List String :=
  ["\tpanic(\"not implemented\")", "\x7d"]

def isFunctionLine (line : String) : Bool :=
  Text.startsWith "func ".toList line.toList

def isDeclarationLine (line : String) : Bool :=
  ["func ", "type ", "const ", "var "].any fun start =>
    Text.startsWith start.toList line.toList

namespace StubDeclaration

def isFunction : StubDeclaration → Bool
  | .symbol _ (.function _ _) => true
  | .symbol _ _ => false
  | .method _ _ => true

/-- The comment line of a declaration, which says what it is a stub of. -/
def commentLine (package : String) : StubDeclaration → String
  | .symbol name _ => "// " ++ name ++ " is a stub of " ++ package ++ "." ++ name ++
      ". Generated code, do not edit."
  | .method receiver m => "// " ++ m.name ++ " is a stub of " ++ package ++ "." ++
      (receiver ++ "." ++ m.name) ++ ". Generated code, do not edit."

/-- The first line of a type declaration. -/
def BeginsType (c : StubScope) (name : String) (params : List TypeParam) (line : String) : Prop :=
  ∃ ps rest, paramListText c params = .ok ps ∧ line = "type " ++ name ++ ps.text ++ " " ++ rest

/-- The line is the first of the declaration. -/
def Begins (c : StubScope) (line : String) : StubDeclaration → Prop
  | .symbol name (.function params signature) => ∃ ps s, paramListText c params = .ok ps ∧
      declaredSignature c signature = .ok s ∧
      line = "func " ++ name ++ ps.text ++ s.text ++ " \x7b"
  | .symbol name (.interface params _) => BeginsType c name params line
  | .symbol name (.struct params _ _) => BeginsType c name params line
  | .symbol name (.named params _ _ _) => BeginsType c name params line
  | .symbol name (.value _ constant _) =>
    ∃ rest, line = (if constant then "const " else "var ") ++ name ++ " " ++ rest
  | .method receiver m => ∃ s, declaredSignature c m.signature = .ok s ∧
      line = "func " ++ receiverText receiver m ++ " " ++ m.name ++ s.text ++ " \x7b"

end StubDeclaration

theorem isDeclarationLine_of_isFunctionLine {line : String} (h : isFunctionLine line = true) :
    isDeclarationLine line = true := by
  rw [isFunctionLine] at h
  rw [isDeclarationLine, List.any_cons, h, Bool.true_or]

/-- Declarations begin with one of four letters. -/
theorem isDeclarationLine_of_first {line : String} (first : Char)
    (hline : line.toList.head? = some first) (hfirst : first ∉ ['f', 't', 'c', 'v']) :
    isDeclarationLine line = false := by
  obtain ⟨rest, hline⟩ := List.head?_eq_some_iff.mp hline
  simp only [List.mem_cons, List.not_mem_nil, or_false, not_or] at hfirst
  obtain ⟨hf, ht, hc, hv⟩ := hfirst
  simp [isDeclarationLine, hline, Text.startsWith, Text.dropPrefix?, Ne.symm hf, Ne.symm ht,
    Ne.symm hc, Ne.symm hv]

namespace StubDeclaration

variable {c : StubScope} {d : StubDeclaration} {line : String}

theorem BeginsType.isDeclarationLine {name : String} {params : List TypeParam}
    (h : BeginsType c name params line) :
    isDeclarationLine line = true ∧ isFunctionLine line = false := by
  obtain ⟨ps, rest, -, rfl⟩ := h
  simp [GoStub.isDeclarationLine, isFunctionLine, Text.startsWith, Text.dropPrefix?]

/-- The first line of a declaration is known as such, and as that of a function if it is one. -/
theorem Begins.isDeclarationLine (h : d.Begins c line) :
    isDeclarationLine line = true ∧ isFunctionLine line = d.isFunction := by
  have hfunction (rest : String) : GoStub.isDeclarationLine ("func " ++ rest) = true ∧
      isFunctionLine ("func " ++ rest) = true := by
    simp [GoStub.isDeclarationLine, isFunctionLine, Text.startsWith, Text.dropPrefix?]
  have hvalue (constant : Bool) (rest : String) :
      GoStub.isDeclarationLine ((if constant then "const " else "var ") ++ rest) = true ∧
      isFunctionLine ((if constant then "const " else "var ") ++ rest) = false := by
    cases constant <;>
      simp [GoStub.isDeclarationLine, isFunctionLine, Text.startsWith, Text.dropPrefix?]
  cases d with
  | method receiver m =>
    obtain ⟨s, -, rfl⟩ := h
    simp only [String.append_assoc]
    exact hfunction _
  | symbol name shape =>
    cases shape with
    | function params signature =>
      obtain ⟨ps, s, -, -, rfl⟩ := h
      simp only [String.append_assoc]
      exact hfunction _
    | interface params body => exact BeginsType.isDeclarationLine h
    | struct params fields methods => exact BeginsType.isDeclarationLine h
    | named params underlying isAlias methods => exact BeginsType.isDeclarationLine h
    | value type constant basic =>
      obtain ⟨rest, rfl⟩ := h
      simp only [String.append_assoc]
      exact hvalue constant _

theorem Begins.endsWith (h : d.Begins c line) (hd : d.isFunction = true) :
    ∃ rest, line = rest ++ " \x7b" := by
  cases d with
  | method receiver m =>
    obtain ⟨s, -, rfl⟩ := h
    exact ⟨_, rfl⟩
  | symbol name shape =>
    cases shape with
    | function params signature =>
      obtain ⟨ps, s, -, -, rfl⟩ := h
      exact ⟨_, rfl⟩
    | _ => cases hd

end StubDeclaration

/-- The lines hold the declarations, in order, and nothing else that looks like one. Each begins
after its comment, and a function goes on with the body that fails. -/
structure Declares (c : StubScope) (ds : List StubDeclaration) (lines : List String) : Prop where
  single : ∀ line ∈ lines, SingleLine line
  begins : List.Forall₂ (fun d line => d.Begins c line) ds (lines.filter isDeclarationLine)
  framed : ∀ before line after, lines = before ++ line :: after → isDeclarationLine line = true →
    ∃ d ∈ ds, d.Begins c line ∧ before.getLast? = some (d.commentLine c.package) ∧
      (d.isFunction = true → failingBody <+: after)

/-- The text is made of lines that hold the declarations. -/
def Prints (c : StubScope) (ds : List StubDeclaration) (text : String) : Prop :=
  ∃ lines, text = endedLines lines ∧ Declares c ds lines

section Lines

variable {c : StubScope} {ds ds' : List StubDeclaration}

theorem declares_nil : Declares c [] [] where
  single := by simp
  begins := .nil
  framed := by simp

theorem Declares.append {lines more : List String} (h : Declares c ds lines)
    (h' : Declares c ds' more) : Declares c (ds ++ ds') (lines ++ more) where
  single := List.forall_mem_append.mpr ⟨h.single, h'.single⟩
  begins := by
    rw [List.filter_append]
    exact List.rel_append h.begins h'.begins
  framed := by
    intro before line after heq hline
    rcases List.append_eq_append_iff.mp heq with ⟨before', rfl, hmore⟩ | ⟨rest, hlines, hafter⟩
    · -- the line stands in the second part
      obtain ⟨d, hd, hbegins, hcomment, hbody⟩ := h'.framed before' line after hmore hline
      exact ⟨d, List.mem_append_right _ hd, hbegins, by simp [hcomment], hbody⟩
    · cases rest with
      | nil =>
        -- the line is the first of the second part
        obtain ⟨d, -, -, hcomment, -⟩ := h'.framed [] line after hafter.symm hline
        cases hcomment
      | cons first rest =>
        -- the line stands in the first part
        obtain ⟨rfl, rfl⟩ := List.cons_eq_cons.mp hafter
        obtain ⟨d, hd, hbegins, hcomment, hbody⟩ := h.framed before line rest hlines hline
        exact ⟨d, List.mem_append_left _ hd, hbegins, hcomment, fun hf =>
          (hbody hf).trans (List.prefix_append _ _)⟩

theorem Prints.append {s t : String} (h : Prints c ds s) (h' : Prints c ds' t) :
    Prints c (ds ++ ds') (s ++ t) := by
  obtain ⟨lines, rfl, hlines⟩ := h
  obtain ⟨more, rfl, hmore⟩ := h'
  exact ⟨lines ++ more, (endedLines_append lines more).symm, hlines.append hmore⟩

theorem prints_empty : Prints c [] "" :=
  ⟨[], rfl, declares_nil⟩

/-- A line that does not begin like a declaration. -/
theorem declares_line (line : String) (hs : SingleLine line)
    (hline : isDeclarationLine line = false) : Declares c [] [line] where
  single := by simpa using hs
  begins := by simp [hline]
  framed := by
    intro before found after heq hf
    have hfound : found ∈ [line] := heq ▸ List.mem_append_right _ List.mem_cons_self
    rw [List.mem_singleton.mp hfound, hline] at hf
    cases hf

theorem prints_line (line : String) (hs : SingleLine line)
    (hline : isDeclarationLine line = false) : Prints c [] (line ++ "\n") :=
  ⟨[line], by simp, declares_line line hs hline⟩

theorem prints_concat {texts : List String} (h : ∀ s ∈ texts, Prints c [] s) :
    Prints c [] (Text.concat texts) := by
  induction texts with
  | nil => exact prints_empty
  | cons s texts ih =>
    obtain ⟨hs, htexts⟩ := List.forall_mem_cons.mp h
    exact hs.append (ih htexts)

/-- Lines that are indented. -/
theorem prints_indented {texts : List String} (h : ∀ s ∈ texts, SingleLine s) :
    Prints c [] (Text.concat (texts.map fun s => "\t" ++ s ++ "\n")) := by
  refine prints_concat fun line hline => ?_
  obtain ⟨s, hs, rfl⟩ := List.mem_map.mp hline
  refine prints_line _ (singleLine_append.mpr ⟨by decide, h s hs⟩) ?_
  exact isDeclarationLine_of_first '\t' (by simp) (by decide)

theorem StubDeclaration.isDeclarationLine_comment (d : StubDeclaration) (package : String) :
    isDeclarationLine (d.commentLine package) = false := by
  refine isDeclarationLine_of_first '/' ?_ (by decide)
  cases d <;> simp [commentLine]

/-- A declaration: an empty line, its comment, its first line, and the rest of it. -/
theorem declares_declaration {d : StubDeclaration} {line : String} {rest : List String}
    (hbegins : d.Begins c line) (hcomment : SingleLine (d.commentLine c.package))
    (hline : SingleLine line) (hrest : Declares c [] rest)
    (hbody : d.isFunction = true → rest = failingBody) :
    Declares c [d] ("" :: d.commentLine c.package :: line :: rest) where
  single := by
    simp only [List.forall_mem_cons]
    exact ⟨by decide, hcomment, hline, hrest.single⟩
  begins := by
    have hempty : isDeclarationLine "" = false := by decide
    have hnone := List.forall₂_nil_left_iff.mp hrest.begins
    simp [hempty, d.isDeclarationLine_comment, hbegins.isDeclarationLine.1, hnone, hbegins]
  framed := by
    intro before found after heq hfound
    rcases before with _ | ⟨first, _ | ⟨second, _ | ⟨third, before⟩⟩⟩
    · obtain ⟨rfl, -⟩ := List.cons_eq_cons.mp heq
      cases hfound
    · obtain ⟨-, heq⟩ := List.cons_eq_cons.mp heq
      obtain ⟨rfl, -⟩ := List.cons_eq_cons.mp heq
      rw [d.isDeclarationLine_comment] at hfound
      cases hfound
    · simp only [List.cons_append, List.nil_append, List.cons.injEq] at heq
      obtain ⟨rfl, rfl, rfl, rfl⟩ := heq
      exact ⟨d, List.mem_cons_self, hbegins, rfl, fun hf => (hbody hf).symm ▸ List.prefix_refl _⟩
    · simp only [List.cons_append, List.cons.injEq] at heq
      obtain ⟨d, hd, -⟩ := hrest.framed before found after heq.2.2.2 hfound
      cases hd

end Lines

theorem singleLine_receiverText {receiver : String} {m : DeclaredMethod} (hr : SingleLine receiver)
    (hm : ∀ s ∈ m.name :: m.receiverParams, SingleLine s) :
    SingleLine (receiverText receiver m) := by
  have hpointer : SingleLine (if m.pointer then "*" else "") := by split <;> decide
  have hparams : SingleLine (if m.receiverParams.isEmpty then ""
      else "[" ++ Text.joinWith ", " m.receiverParams ++ "]") := by
    split
    · decide
    · have hjoin := singleLine_joinTexts ", " (by decide) fun s hs =>
        hm s (List.mem_cons_of_mem _ hs)
      simp only [singleLine_append]
      exact ⟨⟨by decide, hjoin⟩, by decide⟩
  simp only [receiverText, singleLine_append]
  exact ⟨⟨⟨⟨by decide, hpointer⟩, hr⟩, hparams⟩, by decide⟩

theorem singleLine_zero (kind : ConstantKind) : SingleLine kind.zero := by
  cases kind <;> decide

namespace StubDeclaration

theorem comment_symbol (c : StubScope) (name : String) (shape : Shape) :
    c.comment name name = (symbol name shape).commentLine c.package ++ "\n" := by
  simp [StubScope.comment, commentLine, String.append_assoc]

theorem comment_method (c : StubScope) (receiver : String) (m : DeclaredMethod) :
    c.comment m.name (receiver ++ "." ++ m.name) =
      (method receiver m).commentLine c.package ++ "\n" := by
  simp [StubScope.comment, commentLine, String.append_assoc]

theorem singleLine_comment_symbol {package name : String} (shape : Shape)
    (hp : SingleLine package) (hn : SingleLine name) :
    SingleLine ((symbol name shape).commentLine package) := by
  simp only [commentLine, singleLine_append]
  exact ⟨⟨⟨⟨⟨⟨by decide, hn⟩, by decide⟩, hp⟩, by decide⟩, hn⟩, by decide⟩

theorem singleLine_comment_method {package receiver : String} {m : DeclaredMethod}
    (hp : SingleLine package) (hr : SingleLine receiver) (hn : SingleLine m.name) :
    SingleLine ((method receiver m).commentLine package) := by
  simp only [commentLine, singleLine_append]
  exact ⟨⟨⟨⟨⟨⟨by decide, hn⟩, by decide⟩, hp⟩, by decide⟩, ⟨hr, by decide⟩, hn⟩, by decide⟩

end StubDeclaration

theorem functionBody_eq : functionBody = " \x7b" ++ "\n" ++ endedLines failingBody := by
  decide

theorem declares_failingBody (c : StubScope) : Declares c [] failingBody :=
  (declares_line "\tpanic(\"not implemented\")" (by decide) (by decide)).append
    (declares_line "\x7d" (by decide) (by decide))

section Declarations

variable {c : StubScope}

/-- Fields or methods in braces: what stands on the first line, and the lines below it. -/
theorem exists_lines_blockText (keyword : String) {members : List Fragment}
    (hk : SingleLine keyword) (hm : ∀ f ∈ members, SingleLine f.text) :
    ∃ opening rest, (blockText keyword members).text ++ "\n" = opening ++ "\n" ++ endedLines rest ∧
      SingleLine opening ∧ Declares c [] rest := by
  unfold blockText
  split
  · refine ⟨keyword ++ "\x7b\x7d", [], by simp, ?_, declares_nil⟩
    rw [singleLine_append]
    exact ⟨hk, by decide⟩
  · have hmembers : Prints c [] (Text.concat ((members.map (·.text)).map fun s =>
        "\t" ++ s ++ "\n")) := prints_indented (List.forall_mem_map.mpr hm)
    have hclosing : Prints c [] ("\x7d" ++ "\n") := prints_line _ (by decide) (by decide)
    obtain ⟨rest, hrest, hdeclares⟩ := hmembers.append hclosing
    refine ⟨keyword ++ " \x7b", rest, ?_, ?_, hdeclares⟩
    · rw [← hrest]
      simp [Fragment.text_concat, Function.comp_def, String.append_assoc]
    · rw [singleLine_append]
      exact ⟨hk, by decide⟩

variable (hc : c.imports.OnSingleLine)
include hc

theorem singleLine_paramListText {params : List TypeParam} {f : Fragment}
    (hnames : ∀ s ∈ params.map (·.name), SingleLine s)
    (htypes : ∀ t ∈ constraintTypes params, t.OnSingleLine) (h : paramListText c params = .ok f) :
    SingleLine f.text := by
  obtain ⟨constraints, hcs, h⟩ := Except.bind_eq_ok.mp h
  obtain rfl := Except.pure_eq_ok.mp h
  have hconstraints := singleLine_types hc htypes hcs
  refine singleLine_argumentText fun f hf => ?_
  rw [← List.map_uncurry_zip_eq_zipWith] at hf
  obtain ⟨⟨p, t⟩, hmem, rfl⟩ := List.mem_map.mp hf
  obtain ⟨hp, ht⟩ := List.of_mem_zip hmem
  simp only [Function.uncurry_apply_pair, Fragment.text_after, singleLine_append]
  exact ⟨⟨hnames _ (List.mem_map_of_mem hp), by decide⟩, hconstraints t ht⟩

theorem singleLine_declaredSignature {s : Signature} {f : Fragment}
    (htypes : ∀ t ∈ s.types, t.OnSingleLine) (h : declaredSignature c s = .ok f) :
    SingleLine f.text := by
  obtain ⟨params, hp, h⟩ := Except.bind_eq_ok.mp h
  obtain ⟨results, hr, h⟩ := Except.bind_eq_ok.mp h
  obtain rfl := Except.pure_eq_ok.mp h
  have hparams := singleLine_types hc (fun t ht => htypes t (List.mem_append_left _ ht)) hp
  have hresults := singleLine_types hc (fun t ht => htypes t (List.mem_append_right _ ht)) hr
  have hblank : ∀ f ∈ (variadicTexts s.variadic params).map fun (p : Fragment) => "_ " ++ p,
      SingleLine f.text := by
    refine List.forall_mem_map.mpr fun f hf => ?_
    rw [Fragment.text_after, singleLine_append]
    exact ⟨by decide, singleLine_variadicTexts _ hparams f hf⟩
  have hjoin := singleLine_joinWith ", " (by decide) hblank
  simp only [Fragment.text_append, Fragment.text_after, Fragment.text_before, singleLine_append]
  exact ⟨⟨⟨by decide, hjoin⟩, by decide⟩, singleLine_resultText hresults⟩

variable (hp : SingleLine c.package)
include hp

theorem prints_method {receiver : String} {m : DeclaredMethod} {f : Fragment}
    (hr : SingleLine receiver) (hm : ∀ s ∈ m.name :: m.receiverParams, SingleLine s)
    (htypes : ∀ t ∈ m.signature.types, t.OnSingleLine) (h : methodText c receiver m = .ok f) :
    Prints c [.method receiver m] f.text := by
  obtain ⟨s, hs, h⟩ := Except.bind_eq_ok.mp h
  obtain rfl := Except.pure_eq_ok.mp h
  have hname := hm m.name List.mem_cons_self
  have hline : SingleLine
      ("func " ++ receiverText receiver m ++ " " ++ m.name ++ s.text ++ " \x7b") := by
    simp only [singleLine_append]
    exact ⟨⟨⟨⟨⟨by decide, singleLine_receiverText hr hm⟩, by decide⟩, hname⟩,
      singleLine_declaredSignature hc htypes hs⟩, by decide⟩
  refine ⟨_, ?_, declares_declaration ⟨s, hs, rfl⟩
    (StubDeclaration.singleLine_comment_method hp hr hname) hline (declares_failingBody c)
    fun _ => rfl⟩
  rw [Fragment.text_before, Fragment.text_after, StubDeclaration.comment_method, functionBody_eq]
  simp only [endedLines_cons, String.append_assoc, String.empty_append]

theorem prints_methods {receiver : String} {methods : List DeclaredMethod} {f : Fragment}
    (hr : SingleLine receiver)
    (hm : ∀ s ∈ methods.flatMap fun m => m.name :: m.receiverParams, SingleLine s)
    (htypes : ∀ t ∈ methodTypes methods, t.OnSingleLine)
    (h : methodsText c receiver methods = .ok f) :
    Prints c (methods.map (.method receiver)) f.text := by
  induction methods generalizing f with
  | nil =>
    cases h
    exact prints_empty
  | cons m methods ih =>
    obtain ⟨first, hfirst, h⟩ := Except.bind_eq_ok.mp h
    obtain ⟨rest, hrest, h⟩ := Except.bind_eq_ok.mp h
    obtain rfl := Except.pure_eq_ok.mp h
    simp only [methodTypes, List.flatMap_cons, List.forall_mem_append] at hm htypes
    exact (prints_method hc hp hr hm.1 htypes.1 hfirst).append (ih hm.2 htypes.2 hrest)

omit hc in
theorem prints_type (shape : Shape) (body : Fragment) {name : String} {params : List TypeParam}
    {ps : Fragment} (hn : SingleLine name) (hps : paramListText c params = .ok ps)
    (hparams : SingleLine ps.text)
    (hshape : ∀ line, StubDeclaration.BeginsType c name params line →
      (StubDeclaration.symbol name shape).Begins c line)
    (hfun : (StubDeclaration.symbol name shape).isFunction = false) {opening : String}
    {rest : List String} (hbody : body.text ++ "\n" = opening ++ "\n" ++ endedLines rest)
    (hopening : SingleLine opening) (hrest : Declares c [] rest) :
    Prints c [.symbol name shape]
      ("\n" ++ c.comment name name ++ (typeDeclText name ps body).text) := by
  have hline : SingleLine ("type " ++ name ++ ps.text ++ " " ++ opening) := by
    simp only [singleLine_append]
    exact ⟨⟨⟨⟨by decide, hn⟩, hparams⟩, by decide⟩, hopening⟩
  refine ⟨_, ?_, declares_declaration (hshape _ ⟨ps, opening, hps, rfl⟩)
    (StubDeclaration.singleLine_comment_symbol shape hp hn) hline hrest
    fun hf => absurd hf (by simp [hfun])⟩
  rw [StubDeclaration.comment_symbol c name shape]
  simp only [typeDeclText, Fragment.text_append, Fragment.text_before, Fragment.text_after,
    endedLines_cons, String.append_assoc, String.empty_append] at hbody ⊢
  rw [hbody]

omit hc in
theorem prints_value {name : String} (rest : String) (type : Option GoType) (constant : Bool)
    (basic : Option ConstantKind) (hn : SingleLine name) (hrest : SingleLine rest) :
    Prints c [.symbol name (.value type constant basic)]
      ("\n" ++ c.comment name name ++
        ((if constant then "const " else "var ") ++ name ++ " " ++ rest ++ "\n")) := by
  have hline : SingleLine ((if constant then "const " else "var ") ++ name ++ " " ++ rest) := by
    simp only [singleLine_append]
    exact ⟨⟨⟨by split <;> decide, hn⟩, by decide⟩, hrest⟩
  refine ⟨_, ?_, declares_declaration ⟨rest, rfl⟩
    (StubDeclaration.singleLine_comment_symbol _ hp hn) hline declares_nil
    fun hf => absurd hf Bool.false_ne_true⟩
  rw [StubDeclaration.comment_symbol c name (.value type constant basic)]
  simp only [endedLines_cons, endedLines_nil, String.append_assoc, String.empty_append,
    String.append_empty]

theorem prints_function {name : String} {params : List TypeParam} {signature : Signature}
    {f : Fragment} (hn : SingleLine name) (hs : (Shape.function params signature).OnSingleLine)
    (h : shapeText c name (.function params signature) = .ok f) :
    Prints c [.symbol name (.function params signature)]
      ("\n" ++ c.comment name name ++ f.text) := by
  obtain ⟨hnames, htypes⟩ := hs
  obtain ⟨ps, hps, h⟩ := Except.bind_eq_ok.mp h
  obtain ⟨s, hs, h⟩ := Except.bind_eq_ok.mp h
  obtain rfl := Except.pure_eq_ok.mp h
  obtain ⟨hconstraints, hsignature⟩ := List.forall_mem_append.mp htypes
  have hline : SingleLine ("func " ++ name ++ ps.text ++ s.text ++ " \x7b") := by
    simp only [singleLine_append]
    exact ⟨⟨⟨⟨by decide, hn⟩, singleLine_paramListText hc hnames hconstraints hps⟩,
      singleLine_declaredSignature hc hsignature hs⟩, by decide⟩
  refine ⟨_, ?_, declares_declaration ⟨ps, s, hps, hs, rfl⟩
    (StubDeclaration.singleLine_comment_symbol _ hp hn) hline (declares_failingBody c)
    fun _ => rfl⟩
  rw [StubDeclaration.comment_symbol c name (.function params signature)]
  simp only [Fragment.text_append, Fragment.text_before, Fragment.text_after, functionBody_eq,
    endedLines_cons, String.append_assoc, String.empty_append]

/-- A constant has an initial value after its type, if it has one; a variable has a type only. -/
theorem prints_valueShape {name : String} {type : Option GoType} {constant : Bool}
    {basic : Option ConstantKind} {f : Fragment} (hn : SingleLine name)
    (hs : (Shape.value type constant basic).OnSingleLine)
    (h : shapeText c name (.value type constant basic) = .ok f) :
    Prints c [.symbol name (.value type constant basic)]
      ("\n" ++ c.comment name name ++ f.text) := by
  obtain ⟨-, htypes⟩ := hs
  have hequals : " = " = " " ++ "= " := by decide
  have hinitial (kind : ConstantKind) : SingleLine ("= " ++ kind.zero) := by
    rw [singleLine_append]
    exact ⟨by decide, singleLine_zero kind⟩
  cases constant with
  | true =>
    cases basic with
    | none => cases h
    | some kind =>
      cases type with
      | none =>
        cases h
        have htext := prints_value hp _ none true (some kind) hn (hinitial kind)
        simpa only [Fragment.text_ofText, hequals, if_true, String.append_assoc] using htext
      | some type =>
        obtain ⟨t, ht, h⟩ := Except.bind_eq_ok.mp h
        obtain rfl := Except.pure_eq_ok.mp h
        have htype := type.singleLine_text hc (htypes type List.mem_cons_self) ht
        have hrest : SingleLine (t.text ++ " " ++ ("= " ++ kind.zero)) :=
          singleLine_append.mpr ⟨singleLine_append.mpr ⟨htype, by decide⟩, hinitial kind⟩
        have htext := prints_value hp _ (some type) true (some kind) hn hrest
        simpa only [Fragment.text_before, Fragment.text_after, hequals, if_true,
          String.append_assoc] using htext
  | false =>
    cases type with
    | none => cases h
    | some type =>
      obtain ⟨t, ht, h⟩ := Except.bind_eq_ok.mp h
      obtain rfl := Except.pure_eq_ok.mp h
      have htype := type.singleLine_text hc (htypes type List.mem_cons_self) ht
      exact prints_value hp _ (some type) false basic hn htype

/-- The symbol of a record and its methods, each with its comment. -/
theorem prints_shape {name : String} {shape : Shape} {f : Fragment} (hn : SingleLine name)
    (hs : shape.OnSingleLine) (h : shapeText c name shape = .ok f) :
    Prints c (.symbol name shape :: shape.methods.map (.method name))
      ("\n" ++ c.comment name name ++ f.text) := by
  obtain ⟨hnames, htypes⟩ := hs
  cases shape with
  | function params signature => exact prints_function hc hp hn ⟨hnames, htypes⟩ h
  | interface params body =>
    obtain ⟨ps, hps, h⟩ := Except.bind_eq_ok.mp h
    obtain ⟨members, hmembers, h⟩ := Except.bind_eq_ok.mp h
    obtain rfl := Except.pure_eq_ok.mp h
    obtain ⟨hconstraints, hbody⟩ := List.forall_mem_append.mp htypes
    obtain ⟨hparams, hmethods⟩ := List.forall_mem_append.mp hnames
    have hm := singleLine_members hmembers hmethods fun t ht _ => t.singleLine_text hc (hbody t ht)
    obtain ⟨opening, rest, hblock, hopening, hrest⟩ :=
      exists_lines_blockText (c := c) "interface" (by decide) hm
    exact prints_type hp _ _ hn hps (singleLine_paramListText hc hparams hconstraints hps)
      (fun _ => id) rfl hblock hopening hrest
  | struct params fields methods =>
    obtain ⟨ps, hps, h⟩ := Except.bind_eq_ok.mp h
    obtain ⟨members, hmembers, h⟩ := Except.bind_eq_ok.mp h
    obtain ⟨ms, hms, h⟩ := Except.bind_eq_ok.mp h
    obtain rfl := Except.pure_eq_ok.mp h
    obtain ⟨hconstraints, htypes⟩ := List.forall_mem_append.mp htypes
    obtain ⟨hmethodTypes, hfieldTypes⟩ := List.forall_mem_append.mp htypes
    obtain ⟨hparams, hnames⟩ := List.forall_mem_append.mp hnames
    obtain ⟨hfields, hmethods⟩ := List.forall_mem_append.mp hnames
    have hm := singleLine_fields hmembers hfields fun t ht _ =>
      t.singleLine_text hc (hfieldTypes t ht)
    obtain ⟨opening, rest, hblock, hopening, hrest⟩ :=
      exists_lines_blockText (c := c) "struct" (by decide) hm
    have htype := prints_type hp (.struct params fields methods) _ hn hps
      (singleLine_paramListText hc hparams hconstraints hps) (fun _ => id) rfl hblock hopening hrest
    rw [Fragment.text_append, ← String.append_assoc]
    exact htype.append (prints_methods hc hp hn hmethods hmethodTypes hms)
  | named params underlying isAlias methods =>
    obtain ⟨ps, hps, h⟩ := Except.bind_eq_ok.mp h
    obtain ⟨u, hu, h⟩ := Except.bind_eq_ok.mp h
    obtain ⟨ms, hms, h⟩ := Except.bind_eq_ok.mp h
    obtain rfl := Except.pure_eq_ok.mp h
    obtain ⟨hconstraints, htypes⟩ := List.forall_mem_append.mp htypes
    obtain ⟨hmethodTypes, hunderlying⟩ := List.forall_mem_append.mp htypes
    obtain ⟨hparams, hmethods⟩ := List.forall_mem_append.mp hnames
    have hopening : SingleLine ((if isAlias then "= " else "") ++ u.text) := by
      rw [singleLine_append]
      exact ⟨by split <;> decide, underlying.singleLine_text hc
        (hunderlying underlying List.mem_cons_self) hu⟩
    have htype := prints_type hp (.named params underlying isAlias methods)
      ((if isAlias then "= " else "") ++ u) hn hps
      (singleLine_paramListText hc hparams hconstraints hps) (fun _ => id) rfl (by simp) hopening
      declares_nil
    rw [Fragment.text_append, ← String.append_assoc]
    exact htype.append (prints_methods hc hp hn hmethods hmethodTypes hms)
  | value type constant basic => exact prints_valueShape hc hp hn ⟨hnames, htypes⟩ h

theorem prints_records {records : List Record} {f : Fragment}
    (hr : ∀ r ∈ records, SingleLine r.name ∧ r.shape.OnSingleLine)
    (h : recordsText c records = .ok f) : Prints c (records.flatMap (·.declarations)) f.text := by
  induction records generalizing f with
  | nil =>
    cases h
    exact prints_empty
  | cons r records ih =>
    obtain ⟨first, hfirst, h⟩ := Except.bind_eq_ok.mp h
    obtain ⟨rest, hrest, h⟩ := Except.bind_eq_ok.mp h
    obtain rfl := Except.pure_eq_ok.mp h
    obtain ⟨⟨hname, hshape⟩, hrecords⟩ := List.forall_mem_cons.mp hr
    unfold recordText at hfirst
    split at hfirst
    · cases hfirst
    next declaration hd =>
      cases hfirst
      exact (prints_shape hc hp hname hshape hd).append (ih hrecords hrest)

end Declarations

theorem singleLine_importLine {path qualifier : String} (hpath : SingleLine path)
    (hq : SingleLine qualifier) : SingleLine (importLine path qualifier) := by
  unfold importLine
  split <;> simp only [singleLine_append]
  · exact ⟨⟨by decide, hpath⟩, by decide⟩
  · exact ⟨⟨⟨hq, by decide⟩, hpath⟩, by decide⟩

theorem prints_imports (c : StubScope) (imports : List (String × String))
    (h : ∀ i ∈ imports, SingleLine i.1 ∧ SingleLine i.2) : Prints c [] (importText imports) := by
  have hlines (i : String × String) (hi : i ∈ imports) : SingleLine (importLine i.1 i.2) :=
    singleLine_importLine (h i hi).1 (h i hi).2
  have hempty : Prints c [] "\n" := by
    simpa using prints_line (c := c) "" (by decide) (by decide)
  unfold importText
  split
  · exact prints_empty
  next path qualifier =>
    have hline : SingleLine ("import " ++ importLine path qualifier) :=
      singleLine_append.mpr ⟨by decide, hlines (path, qualifier) List.mem_cons_self⟩
    have himport := hempty.append (prints_line (c := c) _ hline
      (isDeclarationLine_of_first 'i' (by simp) (by decide)))
    have hstart : "\nimport " = "\n" ++ "import " := by decide
    rw [hstart]
    simpa only [List.append_nil, String.append_assoc] using himport
  · have hlisted (q : String × String → Bool) : Prints c [] (Text.concat
        ((imports.filter q).map fun i => "\t" ++ importLine i.1 i.2 ++ "\n")) := by
      have hsingle : ∀ s ∈ (imports.filter q).map fun i => importLine i.1 i.2, SingleLine s := by
        intro s hs
        obtain ⟨i, hi, rfl⟩ := List.mem_map.mp hs
        exact hlines i (List.mem_filter.mp hi).1
      have hindented := prints_indented (c := c) hsingle
      rwa [List.map_map] at hindented
    have hgap (b : Bool) : Prints c [] (if b then "" else "\n") := by
      cases b with
      | true => exact prints_empty
      | false => exact hempty
    have hopening : Prints c [] "\nimport (\n" := by
      have hstart : "\nimport (\n" = "\n" ++ ("import (" ++ "\n") := by decide
      rw [hstart]
      exact hempty.append (prints_line _ (by decide) (by decide))
    have hclosing : Prints c [] ")\n" := by
      have hend : ")\n" = ")" ++ "\n" := by decide
      rw [hend]
      exact prints_line _ (by decide) (by decide)
    exact (((hopening.append (hlisted _)).append (hgap _)).append (hlisted _)).append hclosing

theorem Stub.prints_text {p : StubPlan} {stub : Stub} (h : ofPlan p = .ok stub)
    (hp : p.OnSingleLine) : Prints (.ofPlan p) p.declarations stub.text := by
  obtain ⟨body, hbody, h⟩ := Except.bind_eq_ok.mp h
  obtain rfl := Except.pure_eq_ok.mp h
  have hc : (StubScope.ofPlan p).imports.OnSingleLine := fun path name hname =>
    (hp.imports _ (Dict.mem_entries_of_get? hname)).2
  have hpackage : SingleLine ("package " ++ p.packageName) :=
    singleLine_append.mpr ⟨by decide, hp.packageName⟩
  have hheading : Prints (.ofPlan p) [] ("package " ++ p.packageName ++ "\n") :=
    prints_line _ hpackage (isDeclarationLine_of_first 'p' (by simp) (by decide))
  have himports := prints_imports (.ofPlan p)
    (p.imports.names.entries.filter fun i => body.uses.contains i.1)
    fun i hi => hp.imports i (List.mem_of_mem_filter hi)
  exact (hheading.append himports).append (prints_records hc hp.package hp.records hbody)

/-- The lines of a stub that begin like a function are the functions and methods of its records, in
order. The body that fails follows each of them, and right before each declaration stands the
comment that names its package and symbol. -/
theorem functions_fail {p : StubPlan} {stub : Stub} (h : Stub.ofPlan p = .ok stub)
    (hp : p.OnSingleLine) :
    List.Forall₂ (fun d line => d.Begins (.ofPlan p) line)
      (p.declarations.filter (·.isFunction))
      ((Text.splitText '\n' stub.text).filter isFunctionLine) ∧
    List.Forall₂ (fun d line => d.Begins (.ofPlan p) line) p.declarations
      ((Text.splitText '\n' stub.text).filter isDeclarationLine) ∧
    ∀ before line after, Text.splitText '\n' stub.text = before ++ line :: after →
      (isFunctionLine line = true →
        (∃ start, line = start ++ " \x7b") ∧ failingBody <+: after) ∧
      (isDeclarationLine line = true → ∃ d ∈ p.declarations, d.Begins (.ofPlan p) line ∧
        before.getLast? = some (d.commentLine p.package)) := by
  obtain ⟨lines, htext, hlines⟩ := Stub.prints_text h hp
  have hend : Declares (.ofPlan p) p.declarations (lines ++ [""]) := by
    have happend := hlines.append (declares_line "" (by decide) (by decide))
    rwa [List.append_nil] at happend
  rw [htext, splitText_endedLines hlines.single]
  refine ⟨?_, hend.begins, fun before line after heq => ⟨fun hline => ?_, fun hline => ?_⟩⟩
  · -- the function lines are found among the declaration lines
    have hfilter : (lines ++ [""]).filter isFunctionLine =
        ((lines ++ [""]).filter isDeclarationLine).filter isFunctionLine := by
      rw [List.filter_filter]
      refine List.filter_congr fun line _ => ?_
      cases hf : isFunctionLine line with
      | false => simp
      | true => simp [isDeclarationLine_of_isFunctionLine hf]
    rw [hfilter]
    refine List.rel_filter (fun d line hbegins => ?_) hend.begins
    simp only [hbegins.isDeclarationLine.2]
  · obtain ⟨d, -, hbegins, -, hbody⟩ :=
      hend.framed before line after heq (isDeclarationLine_of_isFunctionLine hline)
    have hd : d.isFunction = true := by rw [← hbegins.isDeclarationLine.2, hline]
    exact ⟨hbegins.endsWith hd, hbody hd⟩
  · obtain ⟨d, hd, hbegins, hcomment, -⟩ := hend.framed before line after heq hline
    exact ⟨d, hd, hbegins, hcomment⟩

/-- A function that opens a store, and the method that closes it. -/
def openSignature : Signature :=
  ⟨[.builtin "string"], false, [.pointer (.named "example.com/store" "Store" [])]⟩

def closeMethod : DeclaredMethod :=
  ⟨"Close", true, [], ⟨[], false, [.builtin "error"]⟩⟩

def storePlan : StubPlan where
  package := "example.com/store"
  packageName := "store"
  records := [
    ⟨"Open", "example.com/store", true, .function [] openSignature⟩,
    ⟨"Store", "example.com/store", false,
      .struct [] [⟨"Opened", .named "time" "Time" [], false, none⟩] [closeMethod]⟩]
  imports := ⟨Dict.empty.insert "time" "time"⟩

theorem storePlan_onSingleLine : storePlan.OnSingleLine where
  package := by decide
  packageName := by decide
  imports := by decide +kernel
  records := by
    have hbuiltin (name : String) (h : SingleLine name) : (GoType.builtin name).OnSingleLine :=
      GoType.onSingleLine_iff.mpr ⟨by simpa [GoType.textsHere] using h, by simp [GoType.parts]⟩
    have hnamed (package name : String) (hp : SingleLine package) (h : SingleLine name) :
        (GoType.named package name []).OnSingleLine :=
      GoType.onSingleLine_iff.mpr
        ⟨by simpa [GoType.textsHere] using ⟨hp, h⟩, by simp [GoType.parts]⟩
    have hstore := hnamed "example.com/store" "Store" (by decide) (by decide)
    have hpointer : (GoType.pointer (.named "example.com/store" "Store" [])).OnSingleLine :=
      GoType.onSingleLine_iff.mpr
        ⟨by simp [GoType.textsHere], by simpa [GoType.parts] using hstore⟩
    rw [storePlan, List.forall_mem_cons, List.forall_mem_singleton]
    refine ⟨⟨by decide, by decide, ?_⟩, by decide, by decide, ?_⟩
    · simpa [Shape.types, constraintTypes, openSignature, Signature.types] using
        ⟨hbuiltin "string" (by decide), hpointer⟩
    · simpa [Shape.types, constraintTypes, methodTypes, closeMethod, Signature.types] using
        ⟨hbuiltin "error" (by decide), hnamed "time" "Time" (by decide) (by decide)⟩

theorem storePlan_functions_fail :
    ∃ stub, Stub.ofPlan storePlan = .ok stub ∧
      (Text.splitText '\n' stub.text).filter isFunctionLine =
        ["func Open(_ string) *Store \x7b", "func (*Store) Close() error \x7b"] := by
  have hok : (Stub.ofPlan storePlan).isOk = true := by decide +kernel
  cases hplan : Stub.ofPlan storePlan with
  | error fault =>
    rw [hplan] at hok
    cases hok
  | ok stub =>
    obtain ⟨hlines, -⟩ := functions_fail hplan storePlan_onSingleLine
    have hfunctions : storePlan.declarations.filter (·.isFunction) =
        [.symbol "Open" (.function [] openSignature), .method "Store" closeMethod] := rfl
    rw [hfunctions] at hlines
    refine ⟨stub, rfl, ?_⟩
    generalize (Text.splitText '\n' stub.text).filter isFunctionLine = lines at hlines ⊢
    obtain ⟨first, _, ⟨ps, s, hps, hs, hfirst⟩, hrest, rfl⟩ := List.forall₂_cons_left_iff.mp hlines
    obtain ⟨second, _, ⟨s', hs', hsecond⟩, hnil, rfl⟩ := List.forall₂_cons_left_iff.mp hrest
    obtain rfl := List.forall₂_nil_left_iff.mp hnil
    cases hps
    cases hs
    cases hs'
    rw [hfirst, hsecond]
    decide +kernel

end GoStub
