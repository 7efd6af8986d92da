import GoStub.Proofs.Decoding
import GoStub.Proofs.Regeneration
import GoStub.Proofs.Rereading
import GoStub.Proofs.TreeSpelling

/-! A stub in the place of its package: made again from itself, it is the same. -/

namespace GoStub

open Lookup

/-- What Go asks of packages, as far as a stub of `target` depends on it: a package is found under
its own path, too, no type is declared as a bare type parameter, no interface type has methods
declared on it, and what is imported does not lead back. -/
structure Source.Accepts (source : Source) (target : PackageScope) (imports : ImportTable) :
    Prop where
  consistent : source.Consistent
  regular : ∀ path p, source path = .ok p → p.Regular
  named : target.name ≠ ""
  bare : target.InterfacesBare
  acyclic : ∀ path, imports.contains path = true → ¬ source.Leads target.importPath path

instance (b : InterfaceBody) : Decidable b.Ordered :=
  inferInstanceAs (Decidable (b.typeSets.Pairwise _))

/-- The body of an interface. -/
def Shape.body? : Shape → Option InterfaceBody
  | .interface _ body => some body
  | _ => none

/-- In the type sets of every interface, the elements that could be embedded come last. -/
def StubPlan.Ordered (p : StubPlan) : Prop :=
  ∀ r ∈ p.records, ∀ body ∈ r.shape.body?, body.Ordered

instance (p : StubPlan) : Decidable p.Ordered :=
  inferInstanceAs (Decidable (∀ r ∈ p.records, ∀ body ∈ r.shape.body?, body.Ordered))

/-- The package stands for `target`, and has one file, with this text. -/
structure PackageFiles.Holds (package : PackageFiles) (files : FileTree) (target : PackageScope)
    (text : String) : Prop where
  importPath : package.importPath = target.importPath
  name : package.name.getD target.name = target.name
  file : ∃ path, package.files = [path] ∧ files.readText path = .ok text

section

variable {source : Source} {request : Request} {target s : PackageScope} {p : StubPlan}
  {stub : Stub} {c c' : Cache}

/-- A stub is made from the plan of its request. -/
theorem exists_planFrom_of_makeStub {made : SourcedStub} (hs : source.Consistent)
    (htarget : source request.package = .ok target) (hmade : makeStub source request = .ok made)
    (hplan : (plan source request).Yields .empty p c') :
    ∃ c, Agrees source c ∧ (planFrom source request target).Yields c p c' ∧
      Stub.ofPlan p = .ok made.stub ∧ made.request = request := by
  obtain ⟨target', p', c, c'', htarget', hloaded, hplanned, hstub, hrequest⟩ :=
    exists_plan_of_makeStub hmade
  have hplan' : (plan source request).Yields .empty p' c'' :=
    yields_bind.mpr ⟨target', c, hloaded, hplanned⟩
  cases hplan.symm.trans hplan'
  cases htarget.symm.trans htarget'
  exact ⟨c, (steady_package hs _).agrees (agrees_empty source) hloaded, hplanned, hstub, hrequest⟩

theorem makeStub_of_returns (hs : source.Consistent) (htarget : source request.package = .ok target)
    (hplan : Returns source (planFrom source request target) p)
    (hstub : Stub.ofPlan p = .ok stub) :
    makeStub source request = .ok ⟨request, stub, target.dir, target.moduleDir⟩ := by
  have hmade : Returns source (stubFor source request)
      ⟨request, stub, target.dir, target.moduleDir⟩ :=
    (returns_package hs htarget).bind (hplan.bind ((returns_ofExcept hstub).bind (returns_pure _)))
  obtain ⟨c, hyields, -⟩ := hmade .empty (agrees_empty source)
  exact congrArg Prod.fst hyields

/-- A package that holds the text of a stub is indexed as one that can stand in for its package. -/
theorem exists_replaces_of_holds {files : FileTree} {package : PackageFiles} {text : String}
    (hc : Agrees source c) (hnodup : request.names.Nodup)
    (htarget : source request.package = .ok target)
    (hplan : (planFrom source request target).Yields c p c')
    (haccepts : source.Accepts target p.imports) (hordered : p.Ordered)
    (hholds : package.Holds files target text)
    (hspelt : p.isSpeltBy (Syntax.SourceFile.read text) = true) :
    ∃ s, PackageScope.ofFiles files package = .ok s ∧ s.dir = package.dir ∧
      s.moduleDir = package.moduleDir ∧ s.Replaces source target p := by
  have hcompletes := completes_of_planFrom haccepts.consistent hc hnodup hplan
  obtain ⟨path, hfiles, hread⟩ := hholds.file
  obtain ⟨-, -, hclause, -⟩ := exists_of_isSpeltBy hspelt
  have hindexed := ofFiles_eq_declareFile (hcompletes.packageName ▸ hholds.name)
    (hcompletes.packageName ▸ haccepts.named) hfiles hread hclause
  have hrestates := restates_declareFile (hholds.importPath.trans hcompletes.package.symm)
    hcompletes.nodup (sorted_imports_of_planFrom hplan) (distinct_of_planFrom hplan)
    (fun _ => names_of_imported haccepts.consistent hc haccepts.bare hplan) hspelt
  obtain ⟨-, -, hdir, hmoduleDir, -⟩ := PackageScope.foldl_declare_eq _
    { PackageScope.ofPackage package with name := p.packageName }
  refine ⟨_, hindexed, hdir, hmoduleDir, haccepts.consistent,
    haccepts.consistent _ _ htarget, haccepts.regular, haccepts.acyclic, ?_, hcompletes, hrestates⟩
  intro r hr params body hshape
  exact hordered r hr body (by rw [hshape, Shape.body?]; rfl)

end

/-- Where a stub takes the place of its package, the same request gives the same stub, if the plan is
legible and each interface has the elements that could be embedded last among its type sets. The
text is then how the syntax of the plan is written; of reading it is asked that such a text gives
the syntax back. -/
theorem stub_of_own_stub {source : Source} {name : String} {types values : List String}
    {target : PackageScope} {p : StubPlan} {c' : Cache} {made : SourcedStub} {files : FileTree}
    {package : PackageFiles} (hmade : makeStub source (.ofNames name types values) = .ok made)
    (htarget : source name = .ok target)
    (hplan : (plan source (.ofNames name types values)).Yields .empty p c')
    (haccepts : source.Accepts target p.imports)
    (hholds : package.Holds files target made.stub.text) (hlegible : p.Legible)
    (hordered : p.Ordered) (hreads : p.tree.ReadsBack made.stub.text) :
    ∃ s, PackageScope.ofFiles files package = .ok s ∧
      makeStub (source.replacing target.importPath s) (.ofNames name types values) =
        .ok { made with packageDir := package.dir, moduleDir := package.moduleDir } := by
  have hnodup := Request.nodup_names name types values
  obtain ⟨c, hc, hplanned, hstub, hrequest⟩ :=
    exists_planFrom_of_makeStub haccepts.consistent htarget hmade hplan
  have hspelt := hlegible.isSpeltBy_read hstub
    (fun _ => names_of_imported haccepts.consistent hc haccepts.bare hplanned) hreads
  obtain ⟨s, hs, hdir, hmoduleDir, hreplaces⟩ :=
    exists_replaces_of_holds hc hnodup htarget hplanned haccepts hordered hholds hspelt
  have hagain := makeStub_of_returns hreplaces.consistent_replacing
    (Source.replacing_own htarget rfl) (hreplaces.returns_planFrom haccepts.bare hnodup hc hplanned)
    hstub
  rw [← hrequest, hdir, hmoduleDir] at hagain
  exact ⟨s, hs, hrequest ▸ hagain⟩

/-- A package that can be the only one. -/
structure SolePackage extends PackageScope where
  regular : toPackageScope.Regular
  named : name ≠ ""
  bare : toPackageScope.InterfacesBare

/-- A source that has just one package. -/
def Source.only (q : SolePackage) : Source := fun path =>
  if path = q.importPath then .ok q.toPackageScope else .error (.load path .unmapped)

theorem Source.eq_of_only {q : SolePackage} {p : PackageScope} {path : String}
    (h : Source.only q path = .ok p) : path = q.importPath ∧ p = q.toPackageScope := by
  unfold Source.only at h
  split at h
  next hpath =>
    cases h
    exact ⟨hpath, rfl⟩
  next => cases h

theorem Source.only_accepts {q : SolePackage} {imports : ImportTable}
    (himports : imports.contains q.importPath = false) :
    (Source.only q).Accepts q.toPackageScope imports := by
  refine ⟨Source.consistent_single q.toPackageScope _, ?_, q.named, q.bare, ?_⟩
  · intro path p hp
    obtain ⟨-, rfl⟩ := Source.eq_of_only hp
    exact q.regular
  · intro path hpath hleads
    have hown : path = q.importPath := by
      cases hleads with
      | here hp | through hp => exact (Source.eq_of_only hp).1
    rw [hown, himports] at hpath
    cases hpath

/-- The package as a single file. -/
def SolePackage.files (q : SolePackage) : PackageFiles :=
  ⟨q.importPath, none, ⟨"."⟩, none, [⟨"stub.go"⟩]⟩

/-- A tree with that file. -/
def stubTree (text : String) : FileTree :=
  ⟨[(["stub.go"], .file text.toUTF8)], []⟩

theorem readText_stubTree (text : String) : (stubTree text).readText ⟨"stub.go"⟩ = .ok text :=
  FileTree.readText_of_find (l := ["stub.go"]) rfl

theorem SolePackage.holds_files (q : SolePackage) (text : String) :
    q.files.Holds (stubTree text) q.toPackageScope text :=
  ⟨rfl, rfl, ⟨"stub.go"⟩, rfl, readText_stubTree text⟩

/-- What the package is when it has the declarations of that file. -/
def SolePackage.fromFile (q : SolePackage) (file : Syntax.SourceFile) : PackageScope :=
  PackageScope.declareFile { PackageScope.ofPackage q.files with name := q.name } file

/-- A package where `Number` and `Mixed` embed the same types, in another order. -/
def numbers : SolePackage where
  importPath := "num"
  name := "num"
  dir := ⟨"num"⟩
  moduleDir := none
  types := ⟨[
    ("Int", ⟨"Int", [], false, .builtin "int"⟩),
    ("Mixed", ⟨"Mixed", [], false, .interface
      ⟨[], [.plain "num" "Int", .plain "num" "Signed"], []⟩⟩),
    ("Number", ⟨"Number", [], false, .interface ⟨[⟨"Write", ⟨[.plain "io" "Writer"], false, []⟩⟩],
      [.plain "num" "Signed", .plain "num" "Int"], []⟩⟩),
    ("Signed", ⟨"Signed", [], false, .interface
      ⟨[], [], [.union [.tilde (.builtin "int"), .tilde (.builtin "int64")]]⟩⟩)]⟩
  funcs := .empty
  values := .empty
  methods := .empty
  importNames := .empty
  regular := by decide +kernel
  named := by decide
  bare := by decide +kernel

def numberStub : String :=
  "package num\n\nimport \"io\"\n\n// Number is a stub of num.Number. Generated code, do not " ++
  "edit.\ntype Number interface \x7b\n\tWrite(io.Writer)\n\t~int | ~int64\n\tInt\n\x7d\n\n" ++
  "// Int is a stub of num.Int. Generated code, do not edit.\ntype Int int\n"

theorem number_stub_of_own_stub :
    ∃ made s, makeStub (.only numbers) (.ofNames "num" ["Number"] []) = .ok made ∧
      made.stub.text = numberStub ∧
      PackageScope.ofFiles (stubTree numberStub) numbers.files = .ok s ∧
      makeStub ((Source.only numbers).replacing "num" s) (.ofNames "num" ["Number"] []) =
        .ok { made with packageDir := ⟨"."⟩, moduleDir := none } := by
  have hmake : (makeStub (.only numbers) (.ofNames "num" ["Number"] [])).toOption.map
      (·.stub.text) = some numberStub := by
    decide +kernel
  obtain ⟨made, hmade, htext⟩ := Except.exists_ok_of_toOption hmake
  have hrun : ((plan (.only numbers) (.ofNames "num" ["Number"] [])).run .empty).1.toOption.map
      (fun p => (p.imports.contains "num", p.legibleWithin 5, decide p.Ordered,
        p.tree.sameAs (.read numberStub))) = some (false, true, true, true) := by
    unfold numberStub
    rw [Syntax.SourceFile.read_pieces]
    decide +kernel
  obtain ⟨p, c', hplan, hview⟩ := Lookup.exists_yields hrun
  obtain ⟨hown, hview⟩ := Prod.mk.inj hview
  obtain ⟨hlegible, hview⟩ := Prod.mk.inj hview
  obtain ⟨hordered, hsame⟩ := Prod.mk.inj hview
  obtain ⟨s, hs, hagain⟩ := stub_of_own_stub hmade rfl hplan (Source.only_accepts hown)
    (htext ▸ numbers.holds_files numberStub) (p.legible_of_legibleWithin hlegible)
    (of_decide_eq_true hordered) (fun _ _ => htext ▸ hsame)
  exact ⟨made, s, hmade, htext, htext ▸ hs, hagain⟩

/-- If the plan and the text of a stub meet this condition, the stub is made again from itself with
the same text. -/
def StableUnder (condition : StubPlan → String → Prop) : Prop :=
  ∀ (source : Source) (name : String) (types values : List String) (target : PackageScope)
    (p : StubPlan) (c' : Cache) (made : SourcedStub) (files : FileTree) (package : PackageFiles),
    makeStub source (.ofNames name types values) = .ok made → source name = .ok target →
    (plan source (.ofNames name types values)).Yields .empty p c' →
    source.Accepts target p.imports → package.Holds files target made.stub.text →
    condition p made.stub.text →
    ∃ s again, PackageScope.ofFiles files package = .ok s ∧
      makeStub (source.replacing target.importPath s) (.ofNames name types values) = .ok again ∧
      again.stub.text = made.stub.text

/-- What a stub of the package says when it is made again from the stub in this file. -/
def SolePackage.remade (q : SolePackage) (type : String) (file : Syntax.SourceFile) :
    Option String :=
  (makeStub ((Source.only q).replacing q.importPath (q.fromFile file))
    (.ofNames q.importPath [type] [])).toOption.map (·.stub.text)

/-- A single package whose stub changes. -/
theorem not_stableUnder {q : SolePackage} {type text : String}
    {condition : StubPlan → String → Prop} {p : StubPlan} {c' : Cache}
    (hown : p.imports.contains q.importPath = false)
    (hmake : (makeStub (.only q) (.ofNames q.importPath [type] [])).toOption.map (·.stub.text) =
      some text)
    (hplan : (plan (.only q) (.ofNames q.importPath [type] [])).Yields .empty p c')
    (hcondition : condition p text)
    (hclause : (Syntax.SourceFile.read text).packageName? = some q.name)
    (hchanged : q.remade type (.read text) ≠ some text) : ¬ StableUnder condition := by
  intro hstable
  obtain ⟨made, hmade, rfl⟩ := Except.exists_ok_of_toOption hmake
  obtain ⟨s, again, hs, hagain, hequal⟩ := hstable _ _ _ _ q.toPackageScope p c' made _ q.files
    hmade (if_pos rfl) hplan (Source.only_accepts hown) (q.holds_files _) hcondition
  have hindexed : PackageScope.ofFiles (stubTree made.stub.text) q.files =
      .ok (q.fromFile (.read made.stub.text)) :=
    ofFiles_eq_declareFile rfl q.named rfl (readText_stubTree _) hclause
  cases hs.symm.trans hindexed
  exact hchanged (by simp [SolePackage.remade, Except.toOption, hagain, hequal])

def mixedStub : String :=
  "package num\n\n// Mixed is a stub of num.Mixed. Generated code, do not edit.\n" ++
  "type Mixed interface \x7b\n\tInt\n\t~int | ~int64\n\x7d\n\n" ++
  "// Int is a stub of num.Int. Generated code, do not edit.\ntype Int int\n"

/-- The order of the type sets matters, whatever the packages are and however well the text is read:
the stub of `Mixed` has `Int` before the union, and made again from itself after it. -/
theorem mixed_stub_changes :
    ¬ StableUnder fun p text => p.Legible ∧ p.tree.ReadsBack text := by
  have hrun : ((plan (.only numbers) (.ofNames "num" ["Mixed"] [])).run .empty).1.toOption.map
      (fun p => (p.imports.contains "num", p.legibleWithin 5,
        p.tree.sameAs (.read mixedStub))) = some (false, true, true) ∧
      (Syntax.SourceFile.read mixedStub).packageName? = some "num" ∧
      numbers.remade "Mixed" (.read mixedStub) ≠ some mixedStub := by
    unfold mixedStub
    rw [Syntax.SourceFile.read_pieces]
    decide +kernel
  obtain ⟨hrun, hclause, hchanged⟩ := hrun
  obtain ⟨p, c', hplan, hview⟩ := Lookup.exists_yields hrun
  obtain ⟨hown, hview⟩ := Prod.mk.inj hview
  obtain ⟨hlegible, hsame⟩ := Prod.mk.inj hview
  exact not_stableUnder hown (by decide +kernel) hplan
    ⟨p.legible_of_legibleWithin hlegible, fun _ _ => hsame⟩ hclause hchanged

/-- A package where a type parameter of `Box` hides the type `Foo`, which `Base` refers to, and where
the second parameter in `Load` begins with a word that can be a name. -/
def shelves : SolePackage where
  importPath := "shelf"
  name := "shelf"
  dir := ⟨"shelf"⟩
  moduleDir := none
  types := ⟨[
    ("Base", ⟨"Base", [], false, .interface
      ⟨[⟨"M", ⟨[], false, [.plain "shelf" "Foo"]⟩⟩], [], []⟩⟩),
    ("Box", ⟨"Box", [⟨"Foo", .builtin "any"⟩], false, .interface
      ⟨[⟨"N", ⟨[], false, [.param "Foo"]⟩⟩], [.plain "shelf" "Base"], []⟩⟩),
    ("Foo", ⟨"Foo", [], false, .struct []⟩),
    ("Load", ⟨"Load", [], false, .interface ⟨[⟨"M",
      ⟨[.plain "shelf" "Foo", .map (.builtin "string") (.builtin "int")], false, []⟩⟩], [], []⟩⟩)]⟩
  funcs := .empty
  values := .empty
  methods := .empty
  importNames := .empty
  regular := by decide +kernel
  named := by decide
  bare := by decide +kernel

def boxStub : String :=
  "package shelf\n\n// Box is a stub of shelf.Box. Generated code, do not edit.\n" ++
  "type Box[Foo any] interface \x7b\n\tM() Foo\n\tN() Foo\n\x7d\n\n" ++
  "// Foo is a stub of shelf.Foo. Generated code, do not edit.\ntype Foo struct\x7b\x7d\n"

/-- Names have to mean what they stand for: in the stub of `Box` the method of `Base` returns the type
parameter, so the stub that is made from it declares no `Foo`. -/
theorem box_stub_changes :
    ¬ StableUnder fun p text => p.tree.isLegible = true ∧ p.Ordered ∧ p.tree.ReadsBack text := by
  have hrun : ((plan (.only shelves) (.ofNames "shelf" ["Box"] [])).run .empty).1.toOption.map
      (fun p => (p.imports.contains "shelf", p.tree.isLegible, decide p.Ordered,
        p.tree.sameAs (.read boxStub))) = some (false, true, true, true) ∧
      (Syntax.SourceFile.read boxStub).packageName? = some "shelf" ∧
      shelves.remade "Box" (.read boxStub) ≠ some boxStub := by
    unfold boxStub
    rw [Syntax.SourceFile.read_pieces]
    decide +kernel
  obtain ⟨hrun, hclause, hchanged⟩ := hrun
  obtain ⟨p, c', hplan, hview⟩ := Lookup.exists_yields hrun
  obtain ⟨hown, hview⟩ := Prod.mk.inj hview
  obtain ⟨hlegible, hview⟩ := Prod.mk.inj hview
  obtain ⟨hordered, hsame⟩ := Prod.mk.inj hview
  exact not_stableUnder hown (by decide +kernel) hplan
    ⟨hlegible, of_decide_eq_true hordered, fun _ _ => hsame⟩ hclause hchanged

def loadStub : String :=
  "package shelf\n\n// Load is a stub of shelf.Load. Generated code, do not edit.\n" ++
  "type Load interface \x7b\n\tM(Foo, map[string]int)\n\x7d\n\n" ++
  "// Foo is a stub of shelf.Foo. Generated code, do not edit.\ntype Foo struct\x7b\x7d\n"

/-- Declarations have to be told from their text: in the stub of `Load` the parameters are read as
`Foo` and `map`, of the type `[string]int`. -/
theorem load_stub_changes :
    ¬ StableUnder fun p _ => p.Ordered ∧
      ∀ r ∈ p.records, ∀ s ∈ r.shape.scopes, s.2.Clear p.package s.1 := by
  have hrun : ((plan (.only shelves) (.ofNames "shelf" ["Load"] [])).run .empty).1.toOption.map
      (fun p => (p.imports.contains "shelf", decide p.Ordered, p.records.all fun r =>
        r.shape.scopes.all fun s => s.2.allWithin (·.isClearHere p.package s.1) 5)) =
          some (false, true, true) := by
    decide +kernel
  have hread : (Syntax.SourceFile.read loadStub).packageName? = some "shelf" ∧
      shelves.remade "Load" (.read loadStub) ≠ some loadStub := by
    unfold loadStub
    rw [Syntax.SourceFile.read_pieces]
    decide +kernel
  obtain ⟨p, c', hplan, hview⟩ := Lookup.exists_yields hrun
  obtain ⟨hown, hview⟩ := Prod.mk.inj hview
  obtain ⟨hordered, hclear⟩ := Prod.mk.inj hview
  simp only [List.all_eq_true] at hclear
  exact not_stableUnder hown (by decide +kernel) hplan
    ⟨of_decide_eq_true hordered, fun r hr s hs _ hu => GoType.check_of_allWithin (hclear r hr s hs) hu⟩
    hread.1 hread.2

end GoStub
