import GoStub.Proofs.Cache
import GoStub.Proofs.LocalNames
import GoStub.Proofs.StubImports
import GoStub.Stub.Make

/-! What an import line binds. A line with an alias binds that; a line without one binds the name
that the package itself declares. A stub leaves the alias out where the local name is the default
name of the path, and then the line binds the local name only if the path spells what the package is
called. -/

namespace GoStub

/-- The line of an import without an alias. -/
def plainLine (path : String) : String :=
  "\"" ++ path ++ "\""

/-- The name that a line brings into scope: the alias, or else the name the package declares. -/
inductive Source.Binds (source : Source) (path : String) : String → String → Prop
  | declared {package : PackageScope} (h : source path = .ok package) :
      Binds source path (plainLine path) package.name
  | given (name : String) : Binds source path (name ++ " \"" ++ path ++ "\"") name

theorem aliased_ne_plainLine (path name : String) :
    name ++ " \"" ++ path ++ "\"" ≠ plainLine path := by
  intro h
  have hquote : "\"".length = 1 := rfl
  have hgap : " \"".length = 2 := rfl
  have hlength := congrArg String.length h
  simp only [plainLine, String.length_append] at hlength
  omega

theorem importLine_eq_plainLine_iff {path name : String} :
    importLine path name = plainLine path ↔ name = Name.ofImportPath path := by
  unfold importLine
  split
  next hname => exact ⟨fun _ => hname, fun _ => rfl⟩
  next hname => exact ⟨fun h => absurd h (aliased_ne_plainLine path name), fun h => absurd h hname⟩

theorem binds_importLine_iff {source : Source} {path name : String} {package : PackageScope}
    (hpackage : source path = .ok package) :
    source.Binds path (importLine path name) name ↔
      name ≠ Name.ofImportPath path ∨ package.name = Name.ofImportPath path := by
  constructor
  · intro h
    by_cases hname : name = Name.ofImportPath path
    · refine Or.inr ?_
      rw [importLine_eq_plainLine_iff.mpr hname] at h
      generalize hline : plainLine path = line at h
      cases h with
      | declared h =>
        cases hpackage.symm.trans h
        exact hname
      | given => exact absurd hline.symm (aliased_ne_plainLine path name)
    · exact Or.inl hname
  · intro h
    by_cases hname : name = Name.ofImportPath path
    · have hdeclared : package.name = name := (h.resolve_left (absurd hname)).trans hname.symm
      rw [importLine_eq_plainLine_iff.mpr hname, ← hdeclared]
      exact .declared hpackage
    · rw [importLine, if_neg hname]
      exact .given name

/-- The text of a stub, with its import declaration apart from the declarations, which use the local
names of the plan. -/
theorem exists_imports_of_ofPlan {p : StubPlan} {stub : Stub} (hs : p.imports.names.Sorted)
    (h : Stub.ofPlan p = .ok stub) :
    ∃ imports body layout,
      stub.text = "package " ++ p.packageName ++ "\n" ++ importText imports ++ body ∧
      imports.map (·.1) = stub.imports ∧ p.LaidOut layout ∧ Spelt p.imports layout body ∧
      ∀ i ∈ imports, p.imports.localName? i.1 = some i.2 := by
  obtain ⟨body, hbody, h⟩ := Except.bind_eq_ok.mp h
  obtain rfl := Except.pure_eq_ok.mp h
  obtain ⟨layout, hlaid, hfill⟩ := p.exists_laidOut
  have hcontains (path : String) (hpath : path ∈ body.uses) : p.imports.contains path = true := by
    rw [hfill body hbody] at hpath
    obtain ⟨name, hname⟩ := mem_uses_fill.mp hpath
    exact StubPlan.contains_of_names hbody ((hlaid.1 path name).mp hname)
  exact ⟨p.usedImports body.uses, body.text, layout, rfl, StubPlan.map_fst_usedImports hs hcontains,
    hlaid, hlaid.2 p.imports body hbody, fun i hi =>
      hs.mem_entries_iff.mp (List.mem_filter.mp hi).1⟩

/-- The import lines of a stub bind the local names that its declarations use, except where a line
without an alias imports a package that is not called as its path has it. A line is without an alias
exactly when the local name is the default name of the path, and every local name is one that the
target's sources have for the package, or else that default name, perhaps with a number. -/
theorem import_binds_local_name_iff {source : Source} {request : Request} {s : SourcedStub}
    (h : makeStub source request = .ok s) :
    ∃ target p c c', source request.package = .ok target ∧
      (planFrom source request target).Yields c p c' ∧ Stub.ofPlan p = .ok s.stub ∧
      ∃ imports body layout,
        s.stub.text = "package " ++ p.packageName ++ "\n" ++ importText imports ++ body ∧
        imports.map (·.1) = s.stub.imports ∧ p.LaidOut layout ∧ Spelt p.imports layout body ∧
        ∀ i ∈ imports, p.imports.localName? i.1 = some i.2 ∧
          Name.Numbered (target.nameFor i.1) i.2 ∧
          (importLine i.1 i.2 = plainLine i.1 ↔ i.2 = Name.ofImportPath i.1) ∧
          ∀ package, source i.1 = .ok package →
            (source.Binds i.1 (importLine i.1 i.2) i.2 ↔
              i.2 ≠ Name.ofImportPath i.1 ∨ package.name = Name.ofImportPath i.1) := by
  obtain ⟨target, p, c, c', htarget, -, hplan, hstub, -⟩ := exists_plan_of_makeStub h
  obtain ⟨imports, body, layout, htext, hpaths, hlaid, hspelt, hlocal⟩ :=
    exists_imports_of_ofPlan (sorted_imports_of_planFrom hplan) hstub
  refine ⟨target, p, c, c', htarget, hplan, hstub, imports, body, layout, htext, hpaths, hlaid,
    hspelt, fun i hi => ?_⟩
  exact ⟨hlocal i hi, namedFor_of_planFrom hplan i.1 i.2 (hlocal i hi),
    importLine_eq_plainLine_iff, fun package hpackage => binds_importLine_iff hpackage⟩

/-- Packages of which `ids` embeds an interface of `keys` that names types of two others: one is
called as its path has it, the other is not. -/
def idsSource : Source := fun path =>
  if path = "example.com/ids" then .ok (scope path "ids" [("Maker", ⟨"Maker", [], false, .interface
    ⟨[], [.plain "example.com/keys" "Source"], []⟩⟩)])
  else if path = "example.com/keys" then .ok (scope path "keys" [("Source", ⟨"Source", [], false,
    .interface ⟨[⟨"Next", ⟨[.plain "time" "Time"], false,
      [.plain "github.com/satori/go.uuid" "UUID"]⟩⟩], [], []⟩⟩)])
  else if path = "github.com/satori/go.uuid" then .ok (scope path "uuid" [])
  else if path = "time" then .ok (scope path "time" [])
  else .error (.load path .unmapped)
where
  scope (path name : String) (types : List (String × TypeDecl)) : PackageScope :=
    ⟨path, name, ⟨name⟩, none, ⟨types⟩, .empty, .empty, .empty, .empty⟩

theorem maker_time_binds :
    ∃ s p name, makeStub idsSource (.ofNames "example.com/ids" ["Maker"] []) = .ok s ∧
      Stub.ofPlan p = .ok s.stub ∧ "time" ∈ s.stub.imports ∧
      p.imports.localName? "time" = some name ∧
      idsSource.Binds "time" (importLine "time" name) name := by
  have hrun : (makeStub idsSource (.ofNames "example.com/ids" ["Maker"] [])).toOption.map
      (fun s => decide ("time" ∈ s.stub.imports)) = some true := by
    decide +kernel
  obtain ⟨s, hs, htime⟩ := Except.exists_ok_of_toOption hrun
  have htime : "time" ∈ s.stub.imports := of_decide_eq_true htime
  obtain ⟨target, p, c, c', -, -, hstub, imports, body, layout, -, hpaths, -, -, hbinds⟩ :=
    import_binds_local_name_iff hs
  obtain ⟨⟨path, name⟩, hi, rfl⟩ := List.mem_map.mp (hpaths ▸ htime)
  obtain ⟨hlocal, -, -, hiff⟩ := hbinds _ hi
  have hspelt : "time" = Name.ofImportPath "time" := by decide +kernel
  exact ⟨s, p, name, hs, hstub, htime, hlocal,
    (hiff (idsSource.scope "time" "time" []) rfl).mpr (Or.inr hspelt)⟩

/-- A package that only an embedded interface brings in goes by the default name of its path,
without an alias, whatever it is called: `uuid` is imported as `go_uuid`. -/
theorem plain_import_misnamed :
    ¬ ∀ (source : Source) (request : Request) (s : SourcedStub) (p : StubPlan) (c' : Cache),
      makeStub source request = .ok s → (plan source request).Yields .empty p c' →
      Stub.ofPlan p = .ok s.stub → ∀ path ∈ s.stub.imports, ∀ name,
        p.imports.localName? path = some name → importLine path name = plainLine path →
          ∀ package, source path = .ok package → name = package.name := by
  intro hbinds
  have hrun : ((plan idsSource (.ofNames "example.com/ids" ["Maker"] [])).run .empty).1.toOption.map
      (fun p => (p.imports.localName? "github.com/satori/go.uuid",
        (Stub.ofPlan p).toOption.map fun stub =>
          decide ("github.com/satori/go.uuid" ∈ stub.imports))) =
        some (some "go_uuid", some true) := by
    decide +kernel
  obtain ⟨p, c', hplan, hview⟩ := Lookup.exists_yields hrun
  obtain ⟨hlocal, hview⟩ := Prod.mk.inj hview
  obtain ⟨stub, hstub, hmem⟩ := Except.exists_ok_of_toOption hview
  have hmake := makeStub_stub idsSource (.ofNames "example.com/ids" ["Maker"] [])
  rw [hplan] at hmake
  cases hs : makeStub idsSource (.ofNames "example.com/ids" ["Maker"] []) with
  | error e =>
    rw [hs] at hmake
    cases hmake.trans hstub
  | ok s =>
    rw [hs] at hmake
    obtain rfl : s.stub = stub := Except.ok.inj (hmake.trans hstub)
    have hplain : "go_uuid" = Name.ofImportPath "github.com/satori/go.uuid" := by decide +kernel
    have hname := hbinds _ _ s p c' hs hplan hstub _ (of_decide_eq_true hmem) _ hlocal
      (importLine_eq_plainLine_iff.mpr hplain) _ rfl
    exact absurd hname (by decide)

end GoStub
