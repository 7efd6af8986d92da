import GoStub.Proofs.Files
import GoStub.Proofs.Lookup

/-! What a scan finds: the names of a package in the usage table are those that some scanned source
refers to, and its directories those of such sources. So the table does not depend on the order in
which the sources are read, and a further source takes nothing away. -/

namespace GoStub

open Syntax (SourceFile)

namespace Name

theorem mem_of_matchingImport? {qualifier path : String} {paths : List String}
    (h : matchingImport? qualifier paths = some path) : path ∈ paths := by
  simp only [matchingImport?] at h
  split at h
  · cases h
  · split at h
    next path' hfilter =>
      cases h
      have hmem : path ∈ paths.filter (mayBeCalled (fold qualifier.toList)) := by simp [hfilter]
      exact (List.mem_filter.mp hmem).1
    next => cases h

end Name

theorem Text.startsWith_iff {affix cs : List Char} : startsWith affix cs = true ↔ affix <+: cs := by
  rw [startsWith, Option.isSome_iff_exists]
  constructor
  · rintro ⟨rest, h⟩
    exact ⟨rest, (eq_append_of_dropPrefix? h).symm⟩
  · rintro ⟨rest, rfl⟩
    exact ⟨rest, dropPrefix?_append affix rest⟩

theorem Text.exists_split_eq_cons (sep : Char) (cs : List Char) :
    ∃ pieces, split sep cs = cs.takeWhile (· ≠ sep) :: pieces := by
  induction cs with
  | nil => exact ⟨[], rfl⟩
  | cons c cs ih =>
    obtain ⟨pieces, hpieces⟩ := ih
    by_cases hc : c = sep <;> simp [split, hc, hpieces]

/-- The packages that count have a dot before the first slash of their path, as a host has, and are
neither the module nor below it. -/
theorem isThirdParty_iff {path : String} {module : Option String} :
    isThirdParty path module = true ↔ '.' ∈ path.toList.takeWhile (· ≠ '/') ∧
      ∀ m, module = some m → path ≠ m ∧ ¬ (m ++ "/").toList <+: path.toList := by
  obtain ⟨pieces, hpieces⟩ := Text.exists_split_eq_cons '/' path.toList
  have hstandard : Name.isStandard path = !(path.toList.takeWhile (· ≠ '/')).contains '.' := by
    rw [Name.isStandard, hpieces]
  cases module with
  | none => simp [isThirdParty, hstandard]
  | some m => simp [isThirdParty, hstandard, ← Text.startsWith_iff]

/-- A reference is to an import it was looked for under, and its name is exported. -/
theorem imported_of_mem_references {imports : Dict String} {path : Path} {file : SourceFile}
    {r : Reference} (h : r ∈ (referencesIn imports path file).references) :
    (∃ qualifier, imports.get? qualifier = some r.package) ∧ Name.isExported r.name = true := by
  unfold referencesIn ImportView.sortMentions at h
  rcases List.mem_append.mp h with h | h
  · obtain ⟨o, ho, hr⟩ := List.mem_filterMap.mp h
    unfold ImportView.reference? at hr
    split at hr
    · cases hr
    · obtain ⟨package, hpackage, rfl⟩ := Option.map_eq_some_iff.mp hr
      exact ⟨⟨_, hpackage⟩, (List.mem_filter.mp ho).2⟩
  · obtain ⟨m, hm, hr⟩ := List.mem_filterMap.mp h
    obtain ⟨package, hpackage, rfl⟩ := Option.map_eq_some_iff.mp hr
    split at hm
    · cases hm
    · obtain ⟨o, ho, rfl⟩ := List.mem_map.mp hm
      have hexported := (List.mem_filter.mp (List.mem_filter.mp ho).1).2
      refine ⟨?_, hexported⟩
      -- a guess is made among the imports that go by their default names
      obtain ⟨d, hd, rfl⟩ := List.mem_map.mp (Name.mem_of_matchingImport? hpackage)
      obtain ⟨spec, -, hspec⟩ := List.mem_filterMap.mp (List.mem_filter.mp hd).1
      split at hspec
      next qualifier _ _ =>
        obtain ⟨hget, hd⟩ := Option.ite_none_right_eq_some.mp hspec
        cases hd
        exact ⟨qualifier, hget⟩
      next => cases hspec

/-- The imports of a source from outside the module, by the local names they have. -/
def Syntax.SourceFile.externalImports (file : SourceFile) (module : Option String) : Dict String :=
  .ofList ((file.imports.filter fun spec => isThirdParty spec.path module).filterMap fun spec =>
    spec.localName?.map fun name => (name, spec.path))

theorem Syntax.SourceFile.exists_spec_of_external {file : SourceFile} {module : Option String}
    {qualifier package : String} (h : (file.externalImports module).get? qualifier = some package) :
    isThirdParty package module = true ∧ ∃ spec ∈ file.imports, spec.path = package := by
  obtain ⟨spec, hspec, heq⟩ := List.mem_filterMap.mp (Dict.mem_of_get?_ofList h)
  obtain ⟨hmem, hparty⟩ := List.mem_filter.mp hspec
  obtain ⟨name, -, heq⟩ := Option.map_eq_some_iff.mp heq
  cases heq
  exact ⟨hparty, spec, hmem, rfl⟩

/-- The directory a file lies in. -/
def Path.directory (path : Path) : Path :=
  path.parent?.getD .empty

namespace FileTree

/-- The source at a path, unless it is generated. -/
def Scans (tree : FileTree) (path : Path) (file : SourceFile) : Prop :=
  ∃ text, tree.readText path = .ok text ∧ isMarkedGenerated text = false ∧ file = .read text

/-- The source at a path has this reference to a package from outside the module. -/
def Refers (tree : FileTree) (module : Option String) (path : Path) (r : Reference) : Prop :=
  ∃ file, tree.Scans path file ∧ r ∈ (referencesIn (file.externalImports module) path file).references

end FileTree

namespace UsedNames

variable {u : UsedNames} {found found' : Path → Reference → Prop}

/-- The names that are used as types, or as values. -/
def namesAs (u : UsedNames) : Bool → NameSet
  | true => u.types
  | false => u.values

/-- The names and directories are those of the references that were found, each with the directory
it was found in. Of equal directories one is kept. -/
structure Tallies (u : UsedNames) (found : Path → Reference → Prop) : Prop where
  names : ∀ asType n, n ∈ u.namesAs asType ↔
    ∃ dir r, found dir r ∧ r.name = n ∧ r.asType = asType
  dirs_found : ∀ dir ∈ u.dirs, ∃ r, found dir r
  dirs_all : ∀ dir r, found dir r → ∃ d ∈ u.dirs, d.components = dir.components
  sorted_names : ∀ asType, (u.namesAs asType).Pairwise (· < ·)
  sorted_dirs : u.dirs.Pairwise (Path.cmp · · = .lt)

theorem tallies_empty : empty.Tallies fun _ _ => False where
  names asType n := by cases asType <;> simp [empty, namesAs]
  dirs_found dir hdir := by cases hdir
  dirs_all dir r hr := hr.elim
  sorted_names asType := by cases asType <;> exact .nil
  sorted_dirs := .nil

theorem Tallies.congr (h : u.Tallies found) (hfound : ∀ dir r, found dir r ↔ found' dir r) :
    u.Tallies found' := by
  obtain rfl : found = found' := by
    funext dir r
    exact propext (hfound dir r)
  exact h

variable {dir : Path} {r : Reference}

theorem namesAs_add (asType : Bool) : (u.add dir r).namesAs asType =
    if r.asType = asType then NameSet.add r.name (u.namesAs asType) else u.namesAs asType := by
  unfold add
  cases asType <;> cases r.asType <;> rfl

theorem dirs_add : (u.add dir r).dirs = insertBy Path.cmp dir u.dirs := by
  unfold add
  split <;> rfl

theorem Tallies.add (h : u.Tallies found) (dir : Path) (r : Reference) :
    (u.add dir r).Tallies fun d s => found d s ∨ d = dir ∧ s = r := by
  have hfound (P : Reference → Prop) : (∃ d s, (found d s ∨ d = dir ∧ s = r) ∧ P s) ↔
      (∃ d s, found d s ∧ P s) ∨ P r := by
    constructor
    · rintro ⟨d, s, hs | ⟨-, rfl⟩, hp⟩
      · exact Or.inl ⟨d, s, hs, hp⟩
      · exact Or.inr hp
    · rintro (⟨d, s, hs, hp⟩ | hp)
      · exact ⟨d, s, Or.inl hs, hp⟩
      · exact ⟨dir, r, Or.inr ⟨rfl, rfl⟩, hp⟩
  refine ⟨fun asType n => ?_, fun d hd => ?_, fun d s hs => ?_, fun asType => ?_, ?_⟩
  · rw [namesAs_add, hfound fun s => s.name = n ∧ s.asType = asType, ← h.names]
    split
    next has =>
      rw [NameSet.mem_add, or_comm, eq_comm, and_iff_left has]
    next has => simp [has]
  · rcases mem_of_mem_insertBy (dirs_add ▸ hd) with rfl | hd
    · exact ⟨r, Or.inr ⟨rfl, rfl⟩⟩
    · obtain ⟨s, hs⟩ := h.dirs_found d hd
      exact ⟨s, Or.inl hs⟩
  · rw [dirs_add]
    rcases hs with hs | ⟨rfl, -⟩
    · obtain ⟨d', hd', heq⟩ := h.dirs_all d s hs
      exact ⟨d', mem_insertBy_of_mem hd', heq⟩
    · obtain ⟨d', hd', heq⟩ : ∃ d' ∈ insertBy Path.cmp d u.dirs, d.cmp d' = .eq :=
        exists_mem_insertBy d u.dirs
      exact ⟨d', hd', (Path.cmp_eq_iff.mp heq).symm⟩
  · rw [namesAs_add]
    split
    · exact NameSet.sorted_add (h.sorted_names asType) r.name
    · exact h.sorted_names asType
  · rw [dirs_add]
    exact pairwise_insertBy h.sorted_dirs dir

end UsedNames

/-- The usages by package are those of the references that were found. -/
structure Dict.Tallies (packages : Dict UsedNames) (found : Path → Reference → Prop) : Prop where
  sorted : packages.Sorted
  each : ∀ p, ((packages.get? p).getD .empty).Tallies fun dir r => found dir r ∧ r.package = p

theorem Dict.Tallies.congr {packages : Dict UsedNames} {found found' : Path → Reference → Prop}
    (h : packages.Tallies found) (hfound : ∀ dir r, found dir r ↔ found' dir r) :
    packages.Tallies found' where
  sorted := h.sorted
  each p := (h.each p).congr fun dir r => and_congr_left' (hfound dir r)

namespace ScanState

variable {packages : Dict UsedNames} {found : Path → Reference → Prop}

theorem tallies_empty : (Dict.empty : Dict UsedNames).Tallies fun _ _ => False where
  sorted := Dict.sorted_empty
  each p := UsedNames.tallies_empty.congr (by simp)

theorem tallies_addReference (h : packages.Tallies found) (dir : Path) (r : Reference) :
    (addReference dir packages r).Tallies fun d s => found d s ∨ d = dir ∧ s = r where
  sorted := h.sorted.insert _ _
  each p := by
    rw [addReference, Dict.get?_insert]
    split
    next hp =>
      subst hp
      refine ((h.each r.package).add dir r).congr fun d s => ?_
      constructor
      · rintro (⟨hs, hp⟩ | ⟨rfl, rfl⟩)
        · exact ⟨Or.inl hs, hp⟩
        · exact ⟨Or.inr ⟨rfl, rfl⟩, rfl⟩
      · rintro ⟨hs | ⟨rfl, rfl⟩, hp⟩
        · exact Or.inl ⟨hs, hp⟩
        · exact Or.inr ⟨rfl, rfl⟩
    next hp =>
      refine (h.each p).congr fun d s => ?_
      constructor
      · rintro ⟨hs, hs'⟩
        exact ⟨Or.inl hs, hs'⟩
      · rintro ⟨hs | ⟨rfl, rfl⟩, hs'⟩
        · exact ⟨hs, hs'⟩
        · exact absurd hs'.symm hp

theorem tallies_foldl (h : packages.Tallies found) (dir : Path) (refs : List Reference) :
    (refs.foldl (addReference dir) packages).Tallies fun d s => found d s ∨ d = dir ∧ s ∈ refs := by
  induction refs generalizing packages found with
  | nil => exact h.congr (by simp)
  | cons r rest ih =>
    refine (ih (tallies_addReference h dir r)).congr fun d s => ?_
    rw [List.mem_cons]
    tauto

variable {tree : FileTree} {module : Option String} {s s' : ScanState} {files : List Path}

theorem packages_note (path : Path) (file : SourceFile) :
    (s.note module path file).packages =
      if (file.externalImports module).size = 0 then s.packages
      else (referencesIn (file.externalImports module) path file).references.foldl
        (addReference path.directory) s.packages := by
  simp only [note, apply_ite ScanState.packages]
  rfl

theorem tallies_note (h : s.packages.Tallies found) (path : Path) (file : SourceFile) :
    (s.note module path file).packages.Tallies fun d r => found d r ∨ d = path.directory ∧
      r ∈ (referencesIn (file.externalImports module) path file).references := by
  rw [packages_note]
  split
  next hsize =>
    -- without imports to look for there is nothing to refer to
    refine h.congr fun d r => ⟨Or.inl, ?_⟩
    rintro (hr | ⟨-, hr⟩)
    · exact hr
    · obtain ⟨⟨qualifier, hget⟩, -⟩ := imported_of_mem_references hr
      simp [Dict.get?, List.eq_nil_of_length_eq_zero hsize] at hget
  next => exact tallies_foldl h _ _

/-- Reading sources adds their references. -/
theorem tallies_noteAll (h : s.packages.Tallies found)
    (hrun : s.noteAll tree module files = (s', none)) :
    s'.packages.Tallies fun d r => found d r ∨
      ∃ path ∈ files, d = path.directory ∧ tree.Refers module path r := by
  induction files generalizing s found with
  | nil =>
    cases hrun
    exact h.congr (by simp)
  | cons path rest ih =>
    rw [noteAll] at hrun
    cases hread : tree.readText path with
    | error fault => simp [hread] at hrun
    | ok text =>
      rw [hread] at hrun
      have hscans (file : SourceFile) :
          tree.Scans path file ↔ isMarkedGenerated text = false ∧ file = .read text := by
        simp [FileTree.Scans, hread]
      by_cases hgenerated : isMarkedGenerated text = true
      · simp only [hgenerated, ↓reduceIte] at hrun
        refine (ih h hrun).congr fun d r => or_congr_right ?_
        simp [FileTree.Refers, hscans, hgenerated]
      · simp only [hgenerated, Bool.false_eq_true, ↓reduceIte] at hrun
        refine (ih (tallies_note h path _) hrun).congr fun d r => ?_
        simp [FileTree.Refers, hscans, hgenerated, or_assoc]

/-- No source stops the scan if all can be read. -/
theorem noteAll_succeeds_iff : (s.noteAll tree module files).2 = none ↔
    ∀ path ∈ files, (tree.readText path).isOk = true := by
  induction files generalizing s with
  | nil => simp [noteAll]
  | cons path rest ih =>
    rw [noteAll, List.forall_mem_cons]
    cases tree.readText path with
    | error fault => simp [Except.isOk, Except.toBool]
    | ok text =>
      simp only [Except.isOk, Except.toBool, true_and]
      split <;> exact ih

end ScanState

namespace UsedNames

/-- A usage up to the way its directories are written. -/
def content (u : UsedNames) : NameSet × NameSet × List (List Component) :=
  (u.types, u.values, u.dirs.map (·.components))

variable {u v : UsedNames} {found : Path → Reference → Prop}

theorem Tallies.mem_components_iff (h : u.Tallies found) {components : List Component} :
    components ∈ u.dirs.map (·.components) ↔ ∃ dir r, found dir r ∧ dir.components = components := by
  rw [List.mem_map]
  constructor
  · rintro ⟨dir, hdir, rfl⟩
    obtain ⟨r, hr⟩ := h.dirs_found dir hdir
    exact ⟨dir, r, hr, rfl⟩
  · rintro ⟨dir, r, hr, rfl⟩
    exact h.dirs_all dir r hr

/-- What was found determines the usage. -/
theorem Tallies.content_eq (hu : u.Tallies found) (hv : v.Tallies found) :
    u.content = v.content := by
  have hnames (asType : Bool) : u.namesAs asType = v.namesAs asType :=
    NameSet.eq_of_mem_iff (hu.sorted_names asType) (hv.sorted_names asType)
      fun n => (hu.names asType n).trans (hv.names asType n).symm
  have htypes : u.types = v.types := hnames true
  have hvalues : u.values = v.values := hnames false
  have hasymm {a b : List Component} (hlt : Component.cmpAll a b = .lt) :
      ¬ Component.cmpAll b a = .lt := by
    simp [Std.OrientedCmp.gt_of_lt hlt]
  have hdirs : u.dirs.map (·.components) = v.dirs.map (·.components) :=
    eq_of_pairwise_of_mem_iff (r := (Component.cmpAll · · = .lt)) hasymm
      (List.pairwise_map.mpr hu.sorted_dirs) (List.pairwise_map.mpr hv.sorted_dirs)
      fun components => hu.mem_components_iff.trans hv.mem_components_iff.symm
  rw [content, content, htypes, hvalues, hdirs]

theorem content_normal (h : u.content = v.content) :
    u.normal.content = v.normal.content ∧ u.normal.isEmpty = v.normal.isEmpty := by
  obtain ⟨types, values, dirs⟩ := u
  obtain ⟨types', values', dirs'⟩ := v
  simp only [content, Prod.mk.injEq] at h
  obtain ⟨rfl, rfl, hdirs⟩ := h
  exact ⟨by simp [content, normal, hdirs], rfl⟩

end UsedNames

namespace UsageTable

variable {packages packages' : Dict UsedNames} {found : Path → Reference → Prop} {p n : String}

theorem get?_ofPackages (h : packages.Sorted) (p : String) :
    (ofPackages packages).packages.get? p =
      if ((packages.get? p).getD .empty).normal.isEmpty then none
      else some ((packages.get? p).getD .empty).normal := by
  rw [ofPackages, (h.map _).get?_filter, Dict.get?_map]
  cases packages.get? p with
  | none => rfl
  | some u => cases hu : u.normal.isEmpty <;> simp [hu]

/-- The name is in the table as that of a type. -/
def HasType (i : UsageTable) (p n : String) : Prop :=
  ∃ u, i.packages.get? p = some u ∧ n ∈ u.types

def HasValue (i : UsageTable) (p n : String) : Prop :=
  ∃ u, i.packages.get? p = some u ∧ n ∈ u.values

/-- The name is in the table. -/
def Names (i : UsageTable) (p n : String) : Prop :=
  i.HasType p n ∨ i.HasValue p n

/-- Two tables with the same packages, names and directories. -/
def Same (i j : UsageTable) : Prop :=
  ∀ p, (i.packages.get? p).map UsedNames.content = (j.packages.get? p).map UsedNames.content

/-- A name that is used one way or the other is in the table. -/
theorem exists_get?_iff (h : packages.Sorted) {P : UsedNames → Prop}
    (hP : ∀ u, P u → u.isEmpty = false) :
    (∃ u, (ofPackages packages).packages.get? p = some u ∧ P u) ↔
      P ((packages.get? p).getD .empty).normal := by
  rw [get?_ofPackages h]
  constructor
  · rintro ⟨u, hu, hp⟩
    obtain ⟨-, hu⟩ := Option.ite_none_left_eq_some.mp hu
    exact (Option.some.inj hu) ▸ hp
  · intro hp
    exact ⟨_, if_neg (by simp [hP _ hp]), hp⟩

theorem mem_namesAs_iff (h : packages.Tallies found) (asType : Bool) :
    n ∈ ((packages.get? p).getD .empty).namesAs asType ↔ ∃ dir, found dir ⟨p, n, asType⟩ := by
  rw [(h.each p).names]
  constructor
  · rintro ⟨dir, ⟨p', n', asType⟩, ⟨hr, rfl⟩, rfl, rfl⟩
    exact ⟨dir, hr⟩
  · rintro ⟨dir, hr⟩
    exact ⟨dir, _, ⟨hr, rfl⟩, rfl, rfl⟩

theorem hasType_iff (h : packages.Tallies found) :
    (ofPackages packages).HasType p n ↔ ∃ dir, found dir ⟨p, n, true⟩ := by
  have hempty (u : UsedNames) (hn : n ∈ u.types) : u.isEmpty = false := by
    simp [UsedNames.isEmpty, List.ne_nil_of_mem hn]
  exact (exists_get?_iff h.sorted hempty).trans (mem_namesAs_iff h true)

theorem hasValue_iff (h : packages.Tallies found) :
    (ofPackages packages).HasValue p n ↔
      (∃ dir, found dir ⟨p, n, false⟩) ∧ ¬ ∃ dir, found dir ⟨p, n, true⟩ := by
  have hempty (u : UsedNames) (hn : n ∈ u.values) : u.isEmpty = false := by
    simp [UsedNames.isEmpty, List.ne_nil_of_mem hn]
  refine (exists_get?_iff h.sorted hempty).trans ?_
  rw [← mem_namesAs_iff h, ← mem_namesAs_iff h]
  simp [UsedNames.normal, UsedNames.namesAs]

theorem same_of_tallies (h : packages.Tallies found) (h' : packages'.Tallies found) :
    (ofPackages packages).Same (ofPackages packages') := by
  intro p
  obtain ⟨hcontent, hempty⟩ := UsedNames.content_normal ((h.each p).content_eq (h'.each p))
  rw [get?_ofPackages h.sorted, get?_ofPackages h'.sorted, hempty]
  split
  · rfl
  · exact congrArg some hcontent

end UsageTable

theorem scan_eq_ok {o : ScanSettings} {tree : FileTree} {root : Path} {warnings : List DotImport}
    {report : ScanReport} (h : scan o tree root = (warnings, .ok report)) :
    scannedModule tree root = .ok report.module ∧ ∃ s,
      ScanState.empty.noteAll tree report.module (scannedFiles o tree root) = (s, none) ∧
        report.index = .ofPackages s.packages := by
  unfold scan at h
  split at h
  · cases h
  split at h
  · cases h
  next module hmodule =>
    rcases hrun : ScanState.empty.noteAll tree module (scannedFiles o tree root) with ⟨s, failure⟩
    cases failure with
    | some e => simp [hrun] at h
    | none =>
      simp only [hrun, Prod.mk.injEq, Except.ok.injEq] at h
      obtain ⟨-, rfl⟩ := h
      exact ⟨hmodule, s, hrun, rfl⟩

theorem exists_scan {o : ScanSettings} {tree : FileTree} {root : Path} {module : Option String}
    (hroot : tree.isDirectory root = true) (hmodule : scannedModule tree root = .ok module)
    (hread : ∀ path ∈ scannedFiles o tree root, (tree.readText path).isOk = true) :
    ∃ warnings report, scan o tree root = (warnings, .ok report) ∧ report.module = module := by
  have hrun : (ScanState.empty.noteAll tree module (scannedFiles o tree root)).2 = none :=
    ScanState.noteAll_succeeds_iff.mpr hread
  simp [scan, hroot, hmodule, hrun]

/-- Some scanned source has this reference. -/
def Found (o : ScanSettings) (tree : FileTree) (root : Path) (module : Option String)
    (r : Reference) : Prop :=
  ∃ path ∈ scannedFiles o tree root, tree.Refers module path r

/-- The usage of a package has exported names and no empty entry, and its directories are those of
the sources that refer to the package. -/
structure UsedNames.Accounts (u : UsedNames) (o : ScanSettings) (tree : FileTree) (root : Path)
    (module : Option String) (p : String) : Prop where
  used : u.types ≠ [] ∨ u.values ≠ []
  disjoint : u.types.Disjoint u.values
  exported : ∀ n ∈ u.types ++ u.values, Name.isExported n = true
  external : isThirdParty p module = true
  imported : ∃ path ∈ scannedFiles o tree root, ∃ file, tree.Scans path file ∧
    ∃ spec ∈ file.imports, spec.path = p
  sorted_dirs : u.dirs.Pairwise (Path.cmp · · = .lt)
  dirs_found : ∀ dir ∈ u.dirs, ∃ path ∈ scannedFiles o tree root, path.directory = dir ∧
    ∃ r, tree.Refers module path r ∧ r.package = p
  dirs_all : ∀ path ∈ scannedFiles o tree root, ∀ r, tree.Refers module path r → r.package = p →
    ∃ dir ∈ u.dirs, dir.components = path.directory.components

/-- A table has what the scanned sources refer to, and nothing else. -/
structure UsageTable.Accounts (i : UsageTable) (o : ScanSettings) (tree : FileTree) (root : Path)
    (module : Option String) : Prop where
  sorted : i.packages.Sorted
  types : ∀ p n, i.HasType p n ↔ Found o tree root module ⟨p, n, true⟩
  values : ∀ p n, i.HasValue p n ↔
    Found o tree root module ⟨p, n, false⟩ ∧ ¬ Found o tree root module ⟨p, n, true⟩
  each : ∀ p u, i.packages.get? p = some u → u.Accounts o tree root module p

section

variable {o : ScanSettings} {tree : FileTree} {root : Path} {module : Option String}
  {packages : Dict UsedNames}

theorem Found.imported {r : Reference} (h : Found o tree root module r) :
    Name.isExported r.name = true ∧ isThirdParty r.package module = true ∧
      ∃ path ∈ scannedFiles o tree root, ∃ file, tree.Scans path file ∧
        ∃ spec ∈ file.imports, spec.path = r.package := by
  obtain ⟨path, hpath, file, hscans, hr⟩ := h
  obtain ⟨⟨qualifier, hget⟩, hexported⟩ := imported_of_mem_references hr
  obtain ⟨hparty, hspec⟩ := SourceFile.exists_spec_of_external hget
  exact ⟨hexported, hparty, path, hpath, file, hscans, hspec⟩

/-- What the scanned sources refer to, with the directories of the sources. -/
def FoundIn (o : ScanSettings) (tree : FileTree) (root : Path) (module : Option String) (dir : Path)
    (r : Reference) : Prop :=
  ∃ path ∈ scannedFiles o tree root, dir = path.directory ∧ tree.Refers module path r

theorem exists_foundIn_iff {r : Reference} :
    (∃ dir, FoundIn o tree root module dir r) ↔ Found o tree root module r := by
  constructor
  · rintro ⟨dir, path, hpath, -, hr⟩
    exact ⟨path, hpath, hr⟩
  · rintro ⟨path, hpath, hr⟩
    exact ⟨path.directory, path, hpath, rfl, hr⟩

namespace UsageTable

variable {p : String} {u : UsedNames}

theorem listed_of_get? (h : packages.Sorted) (hu : (ofPackages packages).packages.get? p = some u) :
    u = ((packages.get? p).getD .empty).normal ∧ ∃ n, n ∈ u.types ++ u.values := by
  rw [get?_ofPackages h] at hu
  obtain ⟨hempty, hu⟩ := Option.ite_none_left_eq_some.mp hu
  obtain rfl := Option.some.inj hu
  refine ⟨rfl, List.exists_mem_of_ne_nil _ fun hnil => hempty ?_⟩
  obtain ⟨htypes, hvalues⟩ := List.append_eq_nil_iff.mp hnil
  rw [UsedNames.isEmpty, htypes, hvalues]
  rfl

theorem found_of_get? (h : packages.Tallies (FoundIn o tree root module))
    (hu : (ofPackages packages).packages.get? p = some u) {n : String}
    (hn : n ∈ u.types ++ u.values) : ∃ asType, Found o tree root module ⟨p, n, asType⟩ := by
  rcases List.mem_append.mp hn with hn | hn
  · exact ⟨true, exists_foundIn_iff.mp ((hasType_iff h).mp ⟨u, hu, hn⟩)⟩
  · exact ⟨false, exists_foundIn_iff.mp ((hasValue_iff h).mp ⟨u, hu, hn⟩).1⟩

theorem usage_accounts_of_tallies (h : packages.Tallies (FoundIn o tree root module))
    (hu : (ofPackages packages).packages.get? p = some u) : u.Accounts o tree root module p := by
  obtain ⟨hu₀, n, hn⟩ := listed_of_get? h.sorted hu
  obtain ⟨asType, hr⟩ := found_of_get? h hu hn
  obtain ⟨-, hexternal, himported⟩ := hr.imported
  have hdirs : u.dirs = ((packages.get? p).getD .empty).dirs := by
    rw [hu₀]
    rfl
  refine ⟨?_, fun n hn hn' => ?_, fun n hn => ?_, hexternal, himported, ?_, fun dir hdir => ?_,
    fun path hpath r hr hp => ?_⟩
  · exact (List.mem_append.mp hn).imp List.ne_nil_of_mem List.ne_nil_of_mem
  · obtain ⟨-, hvalue⟩ := (hasValue_iff h).mp ⟨u, hu, hn'⟩
    exact hvalue ((hasType_iff h).mp ⟨u, hu, hn⟩)
  · obtain ⟨asType, hr⟩ := found_of_get? h hu hn
    exact hr.imported.1
  · exact hdirs ▸ (h.each p).sorted_dirs
  · obtain ⟨r, ⟨path, hpath, rfl, hr⟩, hp⟩ := (h.each p).dirs_found dir (hdirs ▸ hdir)
    exact ⟨path, hpath, rfl, r, hr, hp⟩
  · rw [hdirs]
    exact (h.each p).dirs_all path.directory r ⟨⟨path, hpath, rfl, hr⟩, hp⟩

theorem accounts_of_tallies (h : packages.Tallies (FoundIn o tree root module)) :
    (ofPackages packages).Accounts o tree root module where
  sorted := (h.sorted.map _).sublist (List.filter_sublist.map _)
  types p n := by rw [hasType_iff h, exists_foundIn_iff]
  values p n := by rw [hasValue_iff h, exists_foundIn_iff, exists_foundIn_iff]
  each p u hu := usage_accounts_of_tallies h hu

end UsageTable

theorem tallies_foundIn {files : List Path} {s : ScanState}
    (hfiles : ∀ path, path ∈ files ↔ path ∈ scannedFiles o tree root)
    (hrun : ScanState.empty.noteAll tree module files = (s, none)) :
    s.packages.Tallies (FoundIn o tree root module) := by
  refine (ScanState.tallies_noteAll ScanState.tallies_empty hrun).congr fun dir r => ?_
  simp only [FoundIn, hfiles, false_or]

theorem UsageTable.Accounts.names_iff {i : UsageTable} (h : i.Accounts o tree root module)
    (p n : String) : i.Names p n ↔ ∃ asType, Found o tree root module ⟨p, n, asType⟩ := by
  rw [UsageTable.Names, h.types, h.values, Bool.exists_bool]
  tauto

theorem accounts_of_scan {warnings : List DotImport} {report : ScanReport}
    (h : scan o tree root = (warnings, .ok report)) :
    report.index.Accounts o tree root report.module := by
  obtain ⟨-, s, hrun, hindex⟩ := scan_eq_ok h
  rw [hindex]
  exact UsageTable.accounts_of_tallies (tallies_foundIn (fun _ => Iff.rfl) hrun)

/-- What some source refers to stays so when a source is added. -/
theorem Found.of_addsSource {tree' : FileTree} {l : Location} {r : Reference}
    (h : Found o tree root module r) (hadds : tree.AddsSource tree' l) :
    Found o tree' root module r := by
  obtain ⟨path, hpath, file, ⟨text, hread, hfile⟩, hr⟩ := h
  exact ⟨path, hadds.mem_scannedFiles hpath, file, ⟨text, hadds.readText_of_readText hread, hfile⟩,
    hr⟩

end

/-- When a scan succeeds, a name is in its table if and only if a scanned source refers to it, and
the table accounts for all references. Read in any other order, the sources give the same table, and
in a tree with one more source the table still has every name it has. -/
theorem usage_table_exact {o : ScanSettings} {tree : FileTree} {root : Path}
    {warnings : List DotImport} {report : ScanReport}
    (h : scan o tree root = (warnings, .ok report)) :
    scannedModule tree root = .ok report.module ∧
      (∀ p n, report.index.Names p n ↔
        ∃ asType, Found o tree root report.module ⟨p, n, asType⟩) ∧
      report.index.Accounts o tree root report.module ∧
      (∀ files, files.Perm (scannedFiles o tree root) → ∃ s,
        ScanState.empty.noteAll tree report.module files = (s, none) ∧
          (UsageTable.ofPackages s.packages).Same report.index) ∧
      ∀ dir name content warnings' report', tree.get? (dir ++ [name]) = none →
        FileTree.isSourceName name = true →
        scan o (tree.set (dir ++ [name]) (.file content)) root = (warnings', .ok report') →
        ∀ p n, report.index.Names p n → report'.index.Names p n := by
  obtain ⟨hmodule, s, hrun, hindex⟩ := scan_eq_ok h
  have haccounts := accounts_of_scan h
  refine ⟨hmodule, haccounts.names_iff, haccounts, fun files hperm => ?_, ?_⟩
  · have hread := ScanState.noteAll_succeeds_iff.mp (congrArg Prod.snd hrun)
    have hsucceeds : (ScanState.empty.noteAll tree report.module files).2 = none :=
      ScanState.noteAll_succeeds_iff.mpr fun path hpath => hread path (hperm.subset hpath)
    refine ⟨_, Prod.ext rfl hsucceeds, ?_⟩
    rw [hindex]
    exact UsageTable.same_of_tallies
      (tallies_foundIn (fun _ => hperm.mem_iff) (Prod.ext rfl hsucceeds))
      (tallies_foundIn (fun _ => Iff.rfl) hrun)
  · intro dir name content warnings' report' hfresh hname h' p n hnames
    have hadds := FileTree.addsSource_set content hfresh hname
    have hsame : report'.module = report.module :=
      Except.ok.inj ((scan_eq_ok h').1.symm.trans (hadds.scannedModule_eq hmodule))
    obtain ⟨asType, hr⟩ := (haccounts.names_iff p n).mp hnames
    refine ((accounts_of_scan h').names_iff p n).mpr ⟨asType, ?_⟩
    rw [hsame]
    exact hr.of_addsSource hadds

/-- A tree with a source that uses a type of another package. -/
def press : FileTree where
  entries := [
    (["press"], .directory),
    (["press", "go.mod"], .file "module example.com/press\n".toUTF8),
    (["press", "a.go"], .file source.toUTF8)]
  current := []
where source : String :=
  "package press\n\nimport \"ink.dev/plate\"\n\nvar Page plate.Sheet\n"

theorem found_press : Found ⟨false, []⟩ press ⟨"press"⟩ (some "example.com/press")
    ⟨"ink.dev/plate", "Sheet", true⟩ :=
  ⟨⟨"press/a.go"⟩, by decide +kernel, .read press.source,
    ⟨press.source, by decide +kernel, by decide +kernel, rfl⟩, by decide +kernel⟩

/-- The tree with a further source. -/
def press.later : FileTree :=
  press.set (["press"] ++ ["z.go"]) (.file "package press\n".toUTF8)

theorem scannedFiles_later : scannedFiles ⟨false, []⟩ press.later ⟨"press"⟩ =
    [⟨"press/a.go"⟩, ⟨"press/z.go"⟩] := by
  have hlocate : press.later.locate ⟨"press"⟩ = .ok ["press"] := by decide +kernel
  simp only [scannedFiles, hlocate]
  rw [List.mergeSort_of_pairwise (by decide +kernel)]
  decide +kernel

theorem press_usage_table_exact :
    ∃ warnings report warnings' report',
      scan ⟨false, []⟩ press ⟨"press"⟩ = (warnings, .ok report) ∧
      scan ⟨false, []⟩ press.later ⟨"press"⟩ = (warnings', .ok report') ∧
      report.index.HasType "ink.dev/plate" "Sheet" ∧
      ¬ report.index.HasValue "ink.dev/plate" "Sheet" ∧
      report'.index.Names "ink.dev/plate" "Sheet" := by
  obtain ⟨warnings, report, hscan, hmodule⟩ : ∃ warnings report,
      scan ⟨false, []⟩ press ⟨"press"⟩ = (warnings, .ok report) ∧
        report.module = some "example.com/press" :=
    exists_scan (by decide +kernel) (by decide +kernel) (by decide +kernel)
  obtain ⟨warnings', report', hscan', -⟩ : ∃ warnings report,
      scan ⟨false, []⟩ press.later ⟨"press"⟩ = (warnings, .ok report) ∧
        report.module = some "example.com/press" :=
    exists_scan (by decide +kernel) (by decide +kernel) (scannedFiles_later ▸ by decide +kernel)
  obtain ⟨-, hnames, haccounts, -, hlater⟩ := usage_table_exact hscan
  rw [hmodule] at hnames haccounts
  have hfresh : press.get? (["press"] ++ ["z.go"]) = none := by decide +kernel
  refine ⟨warnings, report, warnings', report', hscan, hscan',
    (haccounts.types _ _).mpr found_press,
    fun hvalue => ((haccounts.values _ _).mp hvalue).2 found_press, ?_⟩
  exact hlater _ _ _ _ _ hfresh (by decide) hscan' _ _ ((hnames _ _).mpr ⟨true, found_press⟩)

end GoStub
