import GoStub.Proofs.Closure
import GoStub.Proofs.Layout
import GoStub.Proofs.Wanted

/-! The imports of a stub: one line for each package whose names the declarations use, and none for
any other. The declarations use the local name that the line stands for. -/

namespace GoStub

/-- An import line, its path and the local name it stands for: the one that is written, or the one
of the path. -/
inductive ImportsAs : String → String → String → Prop
  | plain (path : String) : ImportsAs ("\"" ++ path ++ "\"") path (Name.ofImportPath path)
  | aliased (path name : String) : ImportsAs (name ++ " \"" ++ path ++ "\"") path name

theorem importsAs_importLine (path name : String) : ImportsAs (importLine path name) path name := by
  unfold importLine
  split
  next hname =>
    rw [hname]
    exact .plain path
  next => exact .aliased path name

/-- The line imports the path by its local name. -/
def ImportTable.Line (imports : ImportTable) (path line : String) : Prop :=
  ∃ name, imports.localName? path = some name ∧ ImportsAs line path name

/-- The import declaration with these lines, those of the standard library first. -/
def importBlock (standard other : List String) : String :=
  let listed (lines : List String) := Text.concat (lines.map fun line => "\t" ++ line ++ "\n")
  match standard ++ other with
  | [] => ""
  | [line] => "\nimport " ++ line ++ "\n"
  | _ =>
    let gap := if standard.isEmpty || other.isEmpty then "" else "\n"
    "\nimport (\n" ++ listed standard ++ gap ++ listed other ++ ")\n"

/-- The lines of some imports. -/
def importLines (entries : List (String × String)) : List String :=
  entries.map fun i => importLine i.1 i.2

theorem importText_eq (entries : List (String × String)) :
    importText entries =
      importBlock (importLines (entries.filter fun i => Name.isStandard i.1))
        (importLines (entries.filter fun i => !Name.isStandard i.1)) := by
  match entries with
  | [] => rfl
  | [(path, name)] =>
    cases hs : Name.isStandard path <;> simp [importText, importBlock, importLines, hs]
  | first :: second :: rest =>
    -- the two groups together are as long as the whole
    have hlength : (importLines ((first :: second :: rest).filter fun i => Name.isStandard i.1) ++
        importLines ((first :: second :: rest).filter fun i => !Name.isStandard i.1)).length =
          rest.length + 2 := by
      rw [importLines, importLines, ← List.map_append, List.length_map]
      exact (List.filter_append_perm _ _).length_eq
    simp only [importBlock]
    split
    next hnil =>
      rw [hnil] at hlength
      cases hlength
    next hone =>
      rw [hone] at hlength
      cases hlength
    next =>
      have hempty (l : List (String × String)) : (importLines l).isEmpty = l.isEmpty := by
        cases l <;> rfl
      rw [hempty, hempty]
      simp only [importText, importLines, List.map_map, Function.comp_def, Prod.mk.eta]

/-- The text of a piece. The name of another package goes with the local name of the package. -/
inductive Piece.Spells (imports : ImportTable) : Piece → String → Prop
  | plain (text : String) : Spells imports (.plain text) text
  | foreign {package qualifier : String} (name : String)
      (h : imports.localName? package = some qualifier) :
      Spells imports (.foreign package name) (qualifier ++ "." ++ name)

/-- The text of a layout. -/
def Spelt (imports : ImportTable) (layout : List Piece) (text : String) : Prop :=
  ∃ texts, List.Forall₂ (Piece.Spells imports) layout texts ∧ text = Text.concat texts

theorem spelt_fill {imports : ImportTable} {layout : List Piece}
    (h : ∀ package name, .foreign package name ∈ layout → imports.contains package = true) :
    Spelt imports layout (fill imports layout).text := by
  induction layout with
  | nil => exact ⟨[], .nil, rfl⟩
  | cons piece layout ih =>
    obtain ⟨texts, htexts, htext⟩ := ih fun package name hp =>
      h package name (List.mem_cons_of_mem piece hp)
    have hpiece : piece.Spells imports (piece.fragment imports).text := by
      cases piece with
      | plain text => exact .plain text
      | foreign package name =>
        obtain ⟨q, hq⟩ := Dict.contains_iff.mp (h package name List.mem_cons_self)
        have hlocal : imports.localName? package = some q := hq
        simpa [Piece.fragment, hlocal] using Piece.Spells.foreign name hlocal
    refine ⟨_ :: texts, .cons hpiece htexts, ?_⟩
    rw [fill_cons, Fragment.text_append, htext]
    rfl

namespace StubPlan

variable {p : StubPlan}

/-- The name of another package occurs in a record. -/
def Names (p : StubPlan) (package name : String) : Prop :=
  package ≠ p.package ∧
    ∃ r ∈ p.records, ∃ t ∈ r.shape.types, ∃ u : GoType, u.Occurs t ∧ u.Names package name

/-- The declarations of a plan have this layout, under whatever local names they are written, and
the names of other packages in it are those that occur in the records. -/
def LaidOut (p : StubPlan) (layout : List Piece) : Prop :=
  (∀ package name, .foreign package name ∈ layout ↔ p.Names package name) ∧
    ∀ imports body, recordsText (.ofPlan { p with imports := imports }) p.records = .ok body →
      Spelt imports layout body.text

theorem contains_of_names {body : Fragment} (h : recordsText (.ofPlan p) p.records = .ok body)
    {package name : String} (hn : p.Names package name) : p.imports.contains package = true := by
  obtain ⟨hown, r, hr, t, ht, u, hu, hname⟩ := hn
  obtain ⟨-, htypes⟩ := shapeText_ok_iff.mp (recordsText_ok_iff.mp ⟨body, h⟩ r hr)
  have hw := GoType.text_ok_iff.mp (htypes t ht) u hu
  cases u with
  | named p' n' args =>
    obtain ⟨rfl, rfl⟩ := hname
    simpa [GoType.WritableHere, StubScope.ofPlan, hown] using hw
  | array length elem =>
    cases length with
    | constant p' n' =>
      obtain ⟨rfl, rfl⟩ := hname
      exact hw.2
    | _ => exact hname.elim
  | _ => exact hname.elim

theorem exists_laidOut (p : StubPlan) :
    ∃ layout, p.LaidOut layout ∧
      ∀ body, recordsText (.ofPlan p) p.records = .ok body → body = fill p.imports layout := by
  obtain ⟨f, hf, layout, hlayout, hN⟩ := writes_recordsText (c := .ofPlan p) p.records
  have hnames (package name : String) :
      .foreign package name ∈ layout ↔ p.Names package name := by
    rw [hN]
    simp only [foreignNamesOf, GoType.foreignNames, Names, List.mem_flatMap, Set.mem_ofPred_eq]
    constructor
    · rintro ⟨t, ⟨r, hr, ht⟩, hown, u, hu⟩
      exact ⟨hown, r, hr, t, ht, u, hu⟩
    · rintro ⟨hown, r, hr, t, ht, u, hu⟩
      exact ⟨t, ⟨r, hr, ht⟩, hown, u, hu⟩
  refine ⟨layout, ⟨hnames, fun imports body h => ?_⟩,
    fun body h => (hf p.imports body h).trans (hlayout p.imports)⟩
  rw [hf imports body h, hlayout imports]
  exact spelt_fill fun package name hp =>
    contains_of_names (p := { p with imports := imports }) h ((hnames package name).mp hp)

/-- A package is referred to in the text if one of its names occurs in the records. -/
theorem mem_uses_iff {body : Fragment} (h : recordsText (.ofPlan p) p.records = .ok body)
    {path : String} : path ∈ body.uses ↔ ∃ name, p.Names path name := by
  obtain ⟨layout, hlaid, hfill⟩ := p.exists_laidOut
  rw [hfill body h, mem_uses_fill]
  exact exists_congr fun name => hlaid.1 path name

/-- The packages that are imported, under their local names. -/
def usedImports (p : StubPlan) (paths : List String) : List (String × String) :=
  p.imports.names.entries.filter fun i => paths.contains i.1

theorem map_fst_usedImports {paths : List String} (hs : p.imports.names.Sorted)
    (hpaths : ∀ path ∈ paths, p.imports.contains path = true) :
    (p.usedImports paths).map (·.1) = NameSet.ofNames paths := by
  refine NameSet.eq_of_mem_iff ?_ (NameSet.sorted_ofNames paths) fun path => ?_
  · exact List.Pairwise.sublist (List.filter_sublist.map _) hs
  · rw [NameSet.mem_ofNames, usedImports, List.mem_map]
    constructor
    · rintro ⟨i, hi, rfl⟩
      exact List.contains_iff_mem.mp (List.mem_filter.mp hi).2
    · intro hpath
      obtain ⟨name, hname⟩ := Dict.contains_iff.mp (hpaths path hpath)
      exact ⟨(path, name), List.mem_filter.mpr ⟨hs.mem_entries_iff.mpr hname,
        List.contains_iff_mem.mpr hpath⟩, rfl⟩

theorem line_of_mem_usedImports {paths : List String} (hs : p.imports.names.Sorted)
    {i : String × String} (hi : i ∈ p.usedImports paths) :
    p.imports.Line i.1 (importLine i.1 i.2) :=
  ⟨i.2, hs.mem_entries_iff.mp (List.mem_filter.mp hi).1, importsAs_importLine i.1 i.2⟩

/-- The lines of the imports in one group. -/
theorem forall₂_lines {paths : List String} (hs : p.imports.names.Sorted)
    (hpaths : ∀ path ∈ paths, p.imports.contains path = true) (group : String → Bool) :
    List.Forall₂ p.imports.Line ((NameSet.ofNames paths).filter group)
      (importLines ((p.usedImports paths).filter fun i => group i.1)) := by
  rw [← map_fst_usedImports hs hpaths, List.filter_map, importLines, List.forall₂_map_left_iff,
    List.forall₂_map_right_iff]
  exact List.forall₂_same.mpr fun i hi => line_of_mem_usedImports hs (List.mem_filter.mp hi).1

end StubPlan

section

open Lookup

variable {source : Source} {request : Request} {target : PackageScope} {p : StubPlan}
  {c c' : Cache}

theorem sorted_imports_of_planFrom (h : (planFrom source request target).Yields c p c') :
    p.imports.names.Sorted := by
  obtain ⟨first, done, w, hsorted, -, -, -, rfl⟩ := Subject.planFrom_run
    (motive := fun _ _ w _ => w.imports.names.Sorted) rfl Dict.sorted_empty
    (fun hw _ _ => Progress.sorted_imports_meetAll hw)
    (fun hw _ _ _ => Progress.sorted_imports_meetAll hw) h
  exact ImportTable.sorted_renameApart hsorted _

/-- With a consistent source, and no methods on interface types, a plan imports nothing that its
records do not use. -/
theorem names_of_imported (hs : source.Consistent) (hc : Agrees source c)
    (hb : target.InterfacesBare) (h : (planFrom source request target).Yields c p c')
    {path : String} (hpath : p.imports.contains path = true) : ∃ name, p.Names path name := by
  obtain ⟨first, done, w, hfin, rfl⟩ := Subject.planFrom_finished rfl hs hc h
  have hwanted := hfin.imports_contains_iff.mp (ImportTable.contains_renameApart.mp hpath)
  obtain ⟨withMethods, n, d, hwants, hd, hneed⟩ := hwanted
  obtain ⟨r, hr, more, d', hd', hshape, hsub⟩ := hfin.exists_record_of_wants hs hwants hd
  obtain ⟨c₁, hyields⟩ := Subject.yields_of_outcome hd'
  have hneeds := (Site.drafted_of_draft hyields).shape_needs_of_bare hb (hsub hneed)
  obtain ⟨hown, t, ht, u, hu, name, hname⟩ := Shape.needs_imported_iff.mp hneeds
  exact ⟨name, hown, r, hr, t, hshape ▸ ht, u, hu, hname⟩

end

open Lookup in
/-- A stub imports the packages whose names occur in its records, in increasing order, with one line
for each. The declarations use the local names of the import table, which the lines stand for. A
plan made with a consistent source, of a package without methods on interface types, imports
nothing else. -/
theorem stub_imports_exact {p : StubPlan} {stub : Stub} (hs : p.imports.names.Sorted)
    (h : Stub.ofPlan p = .ok stub) :
    stub.imports.Pairwise (· < ·) ∧
      (∀ path, path ∈ stub.imports ↔ ∃ name, p.Names path name) ∧
      (∃ standard other body layout,
        List.Forall₂ p.imports.Line (stub.imports.filter Name.isStandard) standard ∧
        List.Forall₂ p.imports.Line (stub.imports.filter (!Name.isStandard ·)) other ∧
        stub.text = "package " ++ p.packageName ++ "\n" ++ importBlock standard other ++ body ∧
        p.LaidOut layout ∧ Spelt p.imports layout body) ∧
      ∀ source request target c c', source.Consistent → Agrees source c → target.InterfacesBare →
        (planFrom source request target).Yields c p c' → stub.imports = p.imports.paths := by
  obtain ⟨body, hbody, h⟩ := Except.bind_eq_ok.mp h
  obtain rfl := Except.pure_eq_ok.mp h
  obtain ⟨layout, hlaid, -⟩ := p.exists_laidOut
  have huses (path : String) : path ∈ body.uses ↔ ∃ name, p.Names path name :=
    StubPlan.mem_uses_iff hbody
  have hcontains (path : String) (hpath : path ∈ body.uses) : p.imports.contains path = true := by
    obtain ⟨name, hname⟩ := (huses path).mp hpath
    exact StubPlan.contains_of_names hbody hname
  refine ⟨NameSet.sorted_ofNames _, fun path => NameSet.mem_ofNames.trans (huses path), ?_, ?_⟩
  · refine ⟨_, _, body.text, layout, StubPlan.forall₂_lines hs hcontains _,
      StubPlan.forall₂_lines hs hcontains _, ?_, hlaid,
      hlaid.2 p.imports body hbody⟩
    rw [← importText_eq]
    rfl
  · intro source request target c c' hcons hc hb hplan
    refine NameSet.eq_of_mem_iff (NameSet.sorted_ofNames _) hs fun path => ?_
    rw [NameSet.mem_ofNames, ImportTable.paths, Dict.mem_keys_iff]
    have hused (hpath : p.imports.contains path = true) : path ∈ body.uses :=
      (huses path).mpr (names_of_imported hcons hc hb hplan hpath)
    exact ⟨hcontains path, hused⟩

theorem shop_stub_imports_exact :
    ∃ p c' stub, (planFrom shopSource (.ofNames "example.com/shop" [] ["Open"]) shop).Yields
        .empty p c' ∧
      Stub.ofPlan p = .ok stub ∧ stub.imports = ["time"] ∧ stub.imports = p.imports.paths ∧
      ∃ name, p.Names "time" name := by
  have hrun : (((planFrom shopSource (.ofNames "example.com/shop" [] ["Open"]) shop).run
      .empty).1.toOption.map fun p => (Stub.ofPlan p).toOption.map (·.imports)) =
        some (some ["time"]) := by
    decide +kernel
  obtain ⟨p, c', h, hview⟩ := Lookup.exists_yields hrun
  obtain ⟨stub, hstub, himports⟩ := Except.exists_ok_of_toOption hview
  obtain ⟨-, hmem, -, hpaths⟩ := stub_imports_exact (sorted_imports_of_planFrom h) hstub
  have hbare : shop.InterfacesBare := by decide +kernel
  exact ⟨p, c', stub, h, hstub, himports,
    hpaths _ _ _ _ _ consistent_shopSource (Lookup.agrees_empty shopSource) hbare h,
    (hmem "time").mp (by simp [himports])⟩

/-- Like `twoFacedSource`, but the method `M` of `q.X` has a result of a third package. -/
def strayingSource : Source := fun path =>
  if path = "example.com/q" then .ok (twoFacedSource.scope [("X", ⟨"X", [], false, .interface
    ⟨[⟨"M", ⟨[], false, [.plain "example.com/z" "T"]⟩⟩], [], []⟩⟩)])
  else twoFacedSource path

/-- Without a consistent source a plan can import a package that its stub does not: `I` is made
again when `S` is found to embed it, and no longer names `z.T`. -/
theorem unused_import_of_strayingSource :
    ∃ p c' stub, (planFrom strayingSource (.ofNames "example.com/t" [] ["F"]) twiceLoading).Yields
        .empty p c' ∧
      twiceLoading.InterfacesBare ∧ Stub.ofPlan p = .ok stub ∧ stub.imports ≠ p.imports.paths := by
  have hrun : (((planFrom strayingSource (.ofNames "example.com/t" [] ["F"]) twiceLoading).run
      .empty).1.toOption.map fun p => (p.imports.paths,
        (Stub.ofPlan p).toOption.map (·.imports))) = some (["example.com/z"], some []) := by
    decide +kernel
  obtain ⟨p, c', h, hview⟩ := Lookup.exists_yields hrun
  obtain ⟨hpaths, hview⟩ := Prod.mk.inj hview
  obtain ⟨stub, hstub, himports⟩ := Except.exists_ok_of_toOption hview
  exact ⟨p, c', stub, h, by decide +kernel, hstub, by simp [hpaths, himports]⟩

end GoStub
