import GoStub.Package.Loader
import GoStub.Proofs.Declaring
import GoStub.Proofs.Promotion

/-! The methods shown with a type are collected over all sources of its directory. Nothing looks at
the system or the build a source is meant for, so a method that two sources declare is shown twice.
-/

namespace GoStub

open Syntax (SourceFile TopLevel)

namespace Syntax

/-- The name of the method that an item declares on a type. -/
def TopLevel.methodNameOn? (type : String) : TopLevel → Option String
  | .method (first :: _) name _ _ =>
    if (receiverName (peelReceiver first.type).2).1 = type then some name else none
  | _ => none

/-- The names of the methods that a source declares on a type. -/
def SourceFile.methodNames (type : String) (file : SourceFile) : List String :=
  file.items.filterMap (TopLevel.methodNameOn? type)

end Syntax

/-- The sources that belong to a package, if it has this name. Without a name it is called like its
first source. -/
def ownSources : String → List SourceFile → List SourceFile
  | _, [] => []
  | name, file :: rest =>
    if name = "" then file :: ownSources (file.packageName?.getD "") rest
    else if file.packageName? = some name then file :: ownSources name rest
    else ownSources name rest

/-- The sources at some paths. -/
def FileTree.sourcesAt (files : FileTree) (paths : List Path) : List SourceFile :=
  paths.filterMap fun path => (files.readText path).toOption.map .read

/-- The paths of the sources in a directory. -/
def Loader.sourcePaths (files : FileTree) (dir : Path) : List Path :=
  match files.list dir with
  | .ok names => ((names.map fun n => dir / n).filter (isSource files)).mergeSort Path.le
  | .error _ => []

/-- The names of the methods that the package in a directory declares on a type. -/
def Loader.methodNames (files : FileTree) (dir : Path) (type : String) : List String :=
  (ownSources "" (files.sourcesAt (sourcePaths files dir))).flatMap (·.methodNames type)

variable {files : FileTree} {type : String}

theorem methodNames_readTopLevel (c : FileScope) (type : String) (item : TopLevel) :
    ((readTopLevel c item).filterMap (·.methodOf? type)).map (·.name) =
      (item.methodNameOn? type).toList := by
  cases item with
  | method receiver name signature body =>
    cases receiver with
    | nil => rfl
    | cons first rest =>
      by_cases h : (receiverName (peelReceiver first.type).2).1 = type <;>
        simp [readTopLevel, readMethod, Declaration.methodOf?, TopLevel.methodNameOn?, h]
  | stmt stmt =>
    cases stmt with
    | declare decl =>
      cases decl <;>
        simp [readTopLevel, readDecl, TopLevel.methodNameOn?, Declaration.methodOf?]
    | _ => rfl
  | _ => rfl

theorem methodNames_read (c : FileScope) (type : String) (items : List TopLevel) :
    ((items.flatMap (readTopLevel c)).filterMap (·.methodOf? type)).map (·.name) =
      items.filterMap (TopLevel.methodNameOn? type) := by
  induction items with
  | nil => rfl
  | cons item items ih =>
    rw [List.flatMap_cons, List.filterMap_append, List.map_append, methodNames_readTopLevel, ih]
    cases h : item.methodNameOn? type <;> simp [h]

namespace PackageScope

/-- A source adds the methods it declares. -/
theorem methodNames_declareFile (p : PackageScope) (file : SourceFile) (type : String) :
    ((p.declareFile file).methodsOf type).map (·.name) =
      (p.methodsOf type).map (·.name) ++ file.methodNames type := by
  have hmethods : (p.declareFile file).methodsOf type =
      ((file.items.flatMap (readTopLevel (.ofImports p.importPath file.imports))).foldl declare
        p).methodsOf type := rfl
  rw [hmethods, methodsOf_foldl_declare, List.map_append, methodNames_read, SourceFile.methodNames]

theorem name_declareFile (p : PackageScope) (file : SourceFile) :
    (p.declareFile file).name = p.name :=
  (foldl_declare_eq _ p).2.1

/-- All sources that belong to the package add their methods. -/
theorem methodNames_declareFiles {p p' : PackageScope} {paths : List Path}
    (h : declareFiles files p paths = .ok p') (type : String) :
    (p'.methodsOf type).map (·.name) = (p.methodsOf type).map (·.name) ++
      (ownSources p.name (files.sourcesAt paths)).flatMap (·.methodNames type) := by
  induction paths generalizing p with
  | nil =>
    cases h
    simp [FileTree.sourcesAt, ownSources]
  | cons path paths ih =>
    rw [declareFiles] at h
    split at h
    next => cases h
    next text htext =>
      have hsources : files.sourcesAt (path :: paths) = .read text :: files.sourcesAt paths := by
        simp [FileTree.sourcesAt, htext, Except.toOption]
      dsimp only at h
      split at h
      next => cases h
      next name hname =>
        by_cases hunnamed : p.name = ""
        · rw [if_pos hunnamed, if_pos rfl] at h
          rw [ih h, hsources, ownSources, if_pos hunnamed, methodNames_declareFile,
            name_declareFile, hname, List.flatMap_cons, List.append_assoc]
          rfl
        · rw [if_neg hunnamed] at h
          rw [hsources, ownSources, if_neg hunnamed, hname]
          split at h
          next hsame =>
            rw [ih h, if_pos (congrArg some hsame), methodNames_declareFile, name_declareFile,
              List.flatMap_cons, List.append_assoc]
          next hother => rw [ih h, if_neg (hother ∘ Option.some.inj)]

end PackageScope

namespace Loader

theorem loadDirectory_eq_ok {path : String} {dir : Path} {package : PackageFiles}
    (h : loadDirectory files path dir = .ok package) :
    package.files = sourcePaths files dir ∧ package.name = none := by
  unfold loadDirectory at h
  unfold sourcePaths
  split at h
  next => cases h
  next names hlist =>
    rw [hlist]
    dsimp only at h
    split at h
    · cases h
    · cases h
      exact ⟨rfl, rfl⟩

variable {w : World} {packages : Dict Path} {fallback : Option Loader} {path : String} {dir : Path}

theorem find_directories (hdir : packages.get? path = some dir) :
    find w path (directories packages fallback) = loadDirectory w.files path dir := by
  unfold find
  simp only [hdir]

/-- A package in a directory has the methods that its sources declare. -/
theorem methodNames_index {target : PackageScope} (hdir : packages.get? path = some dir)
    (h : (directories packages fallback).index w path = .ok target) (type : String) :
    (target.methodsOf type).map (·.name) = methodNames w.files dir type := by
  obtain ⟨package, hfound, hfiles⟩ := Except.bind_eq_ok.mp h
  have hload : loadDirectory w.files path dir = .ok package := by
    unfold load at hfound
    rw [find_directories hdir] at hfound
    split at hfound
    · cases hfound
    · cases hfound
      assumption
  obtain ⟨hpaths, hname⟩ := loadDirectory_eq_ok hload
  unfold PackageScope.ofFiles at hfiles
  split at hfiles
  next => cases hfiles
  next p hp =>
    split at hfiles
    · cases hfiles
    · cases hfiles
      rw [PackageScope.methodNames_declareFiles hp, hpaths]
      simp [PackageScope.ofPackage, PackageScope.methodsOf, Dict.get?, Dict.empty, hname,
        methodNames]

end Loader

/-- The exported ones of some names, in order. -/
def exportedInOrder (names : List String) : List String :=
  (names.filter Name.isExported).mergeSort (fun a b => decide (a ≤ b))

theorem PackageScope.names_exportedMethods (p : PackageScope) (type : String) :
    (p.exportedMethods type).map (·.name) = exportedInOrder ((p.methodsOf type).map (·.name)) := by
  rw [exportedMethods, exportedInOrder, List.filter_map]
  exact List.map_mergeSort fun _ _ _ _ => rfl

theorem nodup_exportedInOrder {names : List String} :
    (exportedInOrder names).Nodup ↔ (names.filter Name.isExported).Nodup :=
  (List.mergeSort_perm _ _).nodup_iff

/-- A shape has no methods, or all exported ones of its type. -/
theorem Site.Drafted.methods_cases {source : Source} {site : Site} {withMethods : Bool} {c : Cache}
    {d : Draft} (h : site.Drafted source withMethods c d) :
    d.shape.methods = [] ∨
      d.shape.methods =
        (site.target.exportedMethods site.symbol).map site.target.inlineMethod := by
  have hkept {methods : List DeclaredMethod}
      (hm : site.methodRecords (site.methodsToKeep withMethods) = .ok methods) :
      methods = [] ∨
        methods = (site.target.exportedMethods site.symbol).map site.target.inlineMethod := by
    rw [methodRecords_eq hm, methodsToKeep]
    split
    · exact Or.inr rfl
    · exact Or.inl rfl
  cases h with
  | ofStruct hd ha ht hp hm hs => exact hkept hm
  | ofOther hd ha hi ht hp hm hu => exact hkept hm
  | _ => exact Or.inl rfl

/-- The names of the methods in a record are the exported ones that the sources of the directory
declare on its type, each as often as it is declared, or there are none. So they are distinct just
if no two sources, nor one alone, declare one of them twice. -/
theorem method_names_distinct_iff {w : World} {packages : Dict Path} {fallback : Option Loader}
    {path : String} {dir : Path} {target : PackageScope} {source : Source} {request : Request}
    {p : StubPlan} {c c' : Cache} (hdir : packages.get? path = some dir)
    (htarget : (Loader.directories packages fallback).index w path = .ok target)
    (hplan : (planFrom source request target).Yields c p c') :
    ∀ r ∈ p.records,
      (r.shape.methods = [] ∨ r.shape.methods.map (·.name) =
        exportedInOrder (Loader.methodNames w.files dir r.name)) ∧
      (∀ decl, target.types.get? r.name = some decl → decl.isAlias = false →
        (∀ body, decl.type ≠ .interface body) → r.name ∈ request.names →
          r.shape.methods.map (·.name) =
            exportedInOrder (Loader.methodNames w.files dir r.name)) ∧
      ((r.shape.methods.map (·.name)).Nodup ↔ r.shape.methods = [] ∨
        ((Loader.methodNames w.files dir r.name).filter Name.isExported).Nodup) := by
  intro r hr
  obtain ⟨first, done, progress, hledger, hpending, -, -, hp⟩ :=
    Subject.planFrom_ledger (P := fun _ => True) rfl trivial (fun _ _ => trivial) hplan
  have hrecords : p.records = first ++ done.values := by rw [hp]
  rw [hrecords] at hr
  have hnames : ((target.exportedMethods r.name).map target.inlineMethod).map (·.name) =
      exportedInOrder (Loader.methodNames w.files dir r.name) := by
    rw [List.map_map, ← Loader.methodNames_index hdir htarget, ← target.names_exportedMethods]
    rfl
  have hshown : r.shape.methods = [] ∨ r.shape.methods.map (·.name) =
      exportedInOrder (Loader.methodNames w.files dir r.name) := by
    obtain ⟨withMethods, hmade⟩ := hledger.made hr
    obtain ⟨c₁, d, hd, hshape⟩ := hmade.drafted
    rw [hshape]
    refine hd.methods_cases.imp_right fun hmethods => ?_
    rw [hmethods]
    exact hnames
  refine ⟨hshown, fun decl hdecl halias hface hrequested => ?_, ?_⟩
  · obtain ⟨c₁, d, hd, hshape⟩ :=
      (hledger.made_with_methods hpending (Or.inl hrequested) hr).drafted
    rw [hshape, hd.methods_eq hdecl halias hface]
    exact hnames
  · rw [← nodup_exportedInOrder]
    rcases hshown with hnone | hshown
    · simp [hnone]
    · rw [← hshown]
      constructor
      · exact Or.inr
      · rintro (hnone | hnodup)
        · simp [hnone]
        · exact hnodup

open Lookup in
/-- A symbol that needs nothing has a plan with its record alone. -/
theorem planFrom_of_draft {source : Source} {target : PackageScope} {name : String} {d : Draft}
    {c c' : Cache} (package : String) (hknown : target.contains name = true)
    (hd : ((⟨target, name⟩ : Site).draft source true).Yields c d c') (hneeds : d.needs = []) :
    ∃ p, (planFrom source (.ofNames package [name] []) target).Yields c p c' ∧
      p.records = [⟨name, target.importPath, true, d.shape⟩] := by
  let t : Subject := .ofRequest source (.ofNames package [name] []) target
  have hrecord (w : Progress) : (t.record true w name).Yields c (t.recordOf true name d, w) c' := by
    refine Subject.record_yields_iff.mpr ⟨d, hd, rfl, ?_⟩
    rw [Subject.after, hneeds]
    rfl
  have hfirst (w : Progress) :
      (t.requestedRecords w [name]).Yields c ([t.recordOf true name d], w) c' :=
    yields_bind.mpr ⟨_, c', hrecord w, yields_bind.mpr ⟨([], w), c', yields_pure.mpr ⟨rfl, rfl⟩,
      yields_pure.mpr ⟨rfl, rfl⟩⟩⟩
  have hfind : [name].find? (fun n => !target.contains n) = none := by simp [hknown]
  have hnames : (Request.ofNames package [name] []).names = [name] := rfl
  unfold planFrom
  rw [hnames, hfind]
  exact ⟨_, yields_bind.mpr ⟨_, c', hfirst _, yields_bind.mpr ⟨(.empty, _), c',
    yields_pure.mpr ⟨rfl, rfl⟩, yields_pure.mpr ⟨rfl, rfl⟩⟩⟩, rfl⟩

/-- A type over a predeclared one, whose methods take and give nothing. -/
def PackageScope.isSimple (p : PackageScope) (type : String) : Bool :=
  ((p.types.get? type).any fun d => d.params.isEmpty && !d.isAlias && d.type matches .builtin _) &&
    (p.methodsOf type).all fun m => m.signature.params.isEmpty && m.signature.results.isEmpty

theorem Site.methodRecords_of_bare (site : Site) {methods : List MethodDecl}
    (h : ∀ m ∈ methods, m.signature.params = [] ∧ m.signature.results = []) :
    ∃ records, site.methodRecords methods = .ok records ∧ site.needsOfMethods records = [] := by
  induction methods with
  | nil => exact ⟨[], rfl, rfl⟩
  | cons m methods ih =>
    obtain ⟨hm, hmethods⟩ := List.forall_mem_cons.mp h
    obtain ⟨receiver, pointer, receiverParams, name, params, variadic, results⟩ := m
    obtain ⟨rfl, rfl⟩ : params = [] ∧ results = [] := hm
    obtain ⟨records, hrecords, hneeds⟩ := ih hmethods
    refine ⟨⟨name, pointer, receiverParams, ⟨[], variadic, []⟩⟩ :: records, ?_, hneeds⟩
    rw [methodRecords, hrecords]
    rfl

open Lookup in
theorem exists_plan_of_isSimple {target : PackageScope} {name : String}
    (h : target.isSimple name = true) (package : String) (source : Source) (c : Cache) :
    ∃ p, (planFrom source (.ofNames package [name] []) target).Yields c p c ∧
      p.records.map (fun r => (r.name, r.shape.methods.map (·.name))) =
        [(name, (target.exportedMethods name).map (·.name))] := by
  obtain ⟨htype, hmethods⟩ := Bool.and_eq_true_iff.mp h
  cases hd : target.types.get? name with
  | none => simp [hd] at htype
  | some decl =>
    obtain ⟨declared, params, isAlias, type⟩ := decl
    simp only [hd, Option.any_some, Bool.and_eq_true, List.isEmpty_iff, Bool.not_eq_true'] at htype
    obtain ⟨⟨rfl, rfl⟩, htype⟩ := htype
    cases type with
    | builtin b =>
      have hbare : ∀ m ∈ target.exportedMethods name,
          m.signature.params = [] ∧ m.signature.results = [] := by
        intro m hm
        have hmem := (List.mem_filter.mp ((target.exportedMethods_perm name).mem_iff.mp hm)).1
        simpa using List.all_eq_true.mp hmethods m hmem
      obtain ⟨records, hrecords, hneeds⟩ := Site.methodRecords_of_bare ⟨target, name⟩ hbare
      have hdraft : ((⟨target, name⟩ : Site).draft source true).Yields c
          ⟨.named [] (.builtin b) false records, []⟩ c := by
        unfold Site.draft
        rw [hd]
        refine yields_ofExcept_bind.mpr ⟨[], rfl, yields_ofExcept_bind.mpr ⟨records, hrecords,
          yields_bind.mpr ⟨⟨.named [] (.builtin b) false records, []⟩, c,
            yields_ofExcept_bind.mpr ⟨.builtin b, rfl, yields_pure.mpr ⟨rfl, rfl⟩⟩,
            yields_pure.mpr ⟨?_, rfl⟩⟩⟩⟩
        rw [hneeds]
        rfl
      have hknown : target.contains name = true := by
        simp [PackageScope.contains, Dict.contains, hd]
      obtain ⟨p, hp, hr⟩ := planFrom_of_draft package hknown hdraft rfl
      refine ⟨p, hp, ?_⟩
      rw [hr, List.map_singleton, Shape.methods, Site.methodRecords_eq hrecords, List.map_map]
      rfl
    | _ => cases htype

theorem Loader.index_directories {w : World} {packages : Dict Path} {fallback : Option Loader}
    {path : String} {dir : Path} {paths : List Path} (hdir : packages.get? path = some dir)
    (hpaths : sourcePaths w.files dir = paths) (hne : paths ≠ []) :
    (directories packages fallback).index w path =
      PackageScope.ofFiles w.files ⟨path, none, dir, moduleDir? w.files dir, paths⟩ := by
  subst hpaths
  have hload : loadDirectory w.files path dir =
      .ok ⟨path, none, dir, moduleDir? w.files dir, sourcePaths w.files dir⟩ := by
    unfold loadDirectory sourcePaths
    unfold sourcePaths at hne
    cases hlist : w.files.list dir with
    | error fault => simp [hlist] at hne
    | ok names =>
      rw [hlist] at hne
      exact if_neg (by simpa using hne)
  simp only [index, load, find_directories hdir, hload]
  rfl

/-- A directory with sources for two systems. Both declare the method `Open` of `Port`; of the
methods of `Line` each declares one. -/
def portWorld : World :=
  .ofFiles ⟨[(["port"], .directory),
    (["port", "port_linux.go"], .file ("package port\n\ntype Port int\n\ntype Line int\n\n" ++
      "func (Port) Open()\n\nfunc (Line) Open()\n").toUTF8),
    (["port", "port_windows.go"], .file
      "package port\n\nfunc (Port) Open()\n\nfunc (Line) Close()\n".toUTF8)], []⟩

def portLoader : Loader :=
  .directories (.ofList [("port", ⟨"port"⟩)]) none

def portPaths : List Path :=
  [⟨"port/port_linux.go"⟩, ⟨"port/port_windows.go"⟩]

theorem sourcePaths_port : Loader.sourcePaths portWorld.files ⟨"port"⟩ = portPaths := by
  have hlist : (portWorld.files.list ⟨"port"⟩).toOption.map (fun names =>
      (names.map fun n => (⟨"port"⟩ : Path) / n).filter (Loader.isSource portWorld.files)) =
        some portPaths := by
    decide +kernel
  obtain ⟨names, hnames, hpaths⟩ := Except.exists_ok_of_toOption hlist
  simp only [Loader.sourcePaths, hnames, hpaths]
  exact List.mergeSort_of_pairwise (by decide +kernel)

/-- What the two sources say about the types. -/
theorem exists_port_target :
    ∃ target, portLoader.index portWorld "port" = .ok target ∧
      (target.isSimple "Port", target.isSimple "Line", (target.methodsOf "Port").map (·.name),
        (target.methodsOf "Line").map (·.name)) =
          (true, true, ["Open", "Open"], ["Open", "Close"]) := by
  have hindex : portLoader.index portWorld "port" = _ :=
    Loader.index_directories rfl sourcePaths_port (List.cons_ne_nil _ _)
  rw [hindex]
  exact Except.exists_ok_of_toOption (by decide +kernel)

/-- Each method of `Line` is declared by one of the sources. -/
theorem line_method_names_distinct :
    ∃ target p r, portLoader.index portWorld "port" = .ok target ∧
      (planFrom (portLoader.index portWorld) (.ofNames "port" ["Line"] []) target).Yields .empty p
        .empty ∧ r ∈ p.records ∧ (r.shape.methods.map (·.name)).Perm ["Open", "Close"] ∧
      (r.shape.methods.map (·.name)).Nodup := by
  obtain ⟨target, htarget, hview⟩ := exists_port_target
  simp only [Prod.mk.injEq] at hview
  obtain ⟨-, hsimple, -, hdeclared⟩ := hview
  obtain ⟨p, hp, hrecords⟩ :=
    exists_plan_of_isSimple hsimple "port" (portLoader.index portWorld) .empty
  obtain ⟨r, hr, hshown⟩ := List.map_eq_singleton_iff.mp hrecords
  obtain ⟨hname, hmethods⟩ := Prod.mk.inj hshown
  have hmem : r ∈ p.records := hr ▸ List.mem_singleton_self r
  obtain ⟨-, -, hdistinct⟩ := method_names_distinct_iff rfl htarget hp r hmem
  refine ⟨target, p, r, htarget, hp, hmem, ?_, hdistinct.mpr (Or.inr ?_)⟩
  · rw [hmethods, target.names_exportedMethods, hdeclared]
    exact List.mergeSort_perm _ _
  · rw [hname, ← Loader.methodNames_index rfl htarget, hdeclared]
    decide

/-- Both sources declare the method `Open` of `Port`. -/
theorem port_method_shown_twice :
    ¬ ∀ (w : World) (packages : Dict Path) (fallback : Option Loader) (path : String) (dir : Path)
      (target : PackageScope) (request : Request) (p : StubPlan) (c c' : Cache),
      packages.get? path = some dir →
      (Loader.directories packages fallback).index w path = .ok target →
      (planFrom ((Loader.directories packages fallback).index w) request target).Yields c p c' →
      ∀ r ∈ p.records, (r.shape.methods.map (·.name)).Nodup := by
  intro hdistinct
  obtain ⟨target, htarget, hview⟩ := exists_port_target
  simp only [Prod.mk.injEq] at hview
  obtain ⟨hsimple, -, hdeclared, -⟩ := hview
  obtain ⟨p, hp, hrecords⟩ :=
    exists_plan_of_isSimple hsimple "port" (portLoader.index portWorld) .empty
  obtain ⟨r, hr, hshown⟩ := List.map_eq_singleton_iff.mp hrecords
  obtain ⟨-, hmethods⟩ := Prod.mk.inj hshown
  have hnodup := hdistinct _ _ _ _ _ _ _ _ _ _ rfl htarget hp r (hr ▸ List.mem_singleton_self r)
  rw [hmethods, target.names_exportedMethods, nodup_exportedInOrder, hdeclared] at hnodup
  revert hnodup
  decide

end GoStub
