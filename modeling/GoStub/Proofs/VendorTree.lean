import GoStub.Proofs.Vendoring

/-! The vendor tree and its list of modules. The packages found below the root are those that were
written and those that had a stub there before, and the list names exactly these. -/

namespace GoStub

open FileTree (Edits)

/-- A package has a stub below a directory. -/
def HasStub (t : FileTree) (dir : Location) (package : String) : Prop :=
  ∃ inside, inside ≠ [] ∧ package = Text.joinWith "/" inside ∧
    ∃ content, t.get? (dir ++ inside ++ [stubFileName]) = some (.file content)

/-- A path of one or more elements, none of them empty or made of dots that lead elsewhere. -/
def IsPackagePath (package : String) : Prop :=
  ∀ element ∈ Text.splitText '/' package, element ≠ "" ∧ element ≠ "." ∧ element ≠ ".."

instance (package : String) : Decidable (IsPackagePath package) :=
  inferInstanceAs (Decidable (∀ _ ∈ _, _))

variable {t t' : FileTree} {root : Path} {l : Location} {package : String}

theorem packageAt?_eq_some_iff {entry : Location × Node} :
    packageAt? l entry = some package ↔ ∃ inside, inside ≠ [] ∧
      package = Text.joinWith "/" inside ∧
      ∃ content, entry = (l ++ inside ++ [stubFileName], .file content) := by
  obtain ⟨k, node⟩ := entry
  cases node with
  | directory => simp [packageAt?]
  | file content =>
    simp only [packageAt?]
    constructor
    · intro h
      split at h
      next hk =>
        cases h
        simp only [Bool.and_eq_true, beq_iff_eq, Bool.not_eq_true', List.isEmpty_eq_false_iff,
          List.isPrefixOf_iff_prefix] at hk
        obtain ⟨⟨⟨rest, rfl⟩, hlast⟩, hinside⟩ := hk
        rw [List.drop_left] at hinside ⊢
        have hrest : rest ≠ [] := by
          rintro rfl
          exact hinside rfl
        rw [List.getLast?_append_of_ne_nil _ hrest] at hlast
        refine ⟨rest.dropLast, hinside, rfl, content, ?_⟩
        rw [List.append_assoc, List.dropLast_append_getLast? _ hlast]
      next => cases h
    · rintro ⟨inside, hinside, rfl, content', hentry⟩
      obtain ⟨rfl, -⟩ := Prod.mk.inj hentry
      simp [List.append_assoc, hinside]

namespace FileTree.WellFormed

variable (hwf : t.WellFormed)
include hwf

/-- The packages below a directory come in increasing order, each once. -/
theorem sorted_packagesBelow : (packagesBelow t root).Pairwise (· < ·) := by
  unfold packagesBelow
  split
  next l hfind =>
    have hdistinct : (t.entries.filterMap (packageAt? l)).Nodup := by
      refine List.pairwise_filterMap.mpr ?_
      refine (List.pairwise_map.mp hwf.distinct).imp_of_mem ?_
      rintro e e' he he' hne package hpackage _ hpackage' rfl
      -- two stubs of one package lie at one place
      obtain ⟨inside, hinside, hjoin, content, rfl⟩ := packageAt?_eq_some_iff.mp hpackage
      obtain ⟨inside', hinside', hjoin', content', rfl⟩ := packageAt?_eq_some_iff.mp hpackage'
      have hnames {inside : List String} {content : ByteArray}
          (he : (l ++ inside ++ [stubFileName], .file content) ∈ t.entries) :
          ∀ name ∈ inside, '/' ∉ name.toList := fun name hname =>
        ((hwf.named _ he).2 name (by simp [hname])).noSlash
      refine hne ?_
      rw [← Text.splitText_joinWith hinside (hnames he), ← hjoin, hjoin',
        Text.splitText_joinWith hinside' (hnames he')]
    have hperm := List.mergeSort_perm (t.entries.filterMap (packageAt? l)) fun a b => decide (a ≤ b)
    have hsorted : ((t.entries.filterMap (packageAt? l)).mergeSort
        fun a b => decide (a ≤ b)).Pairwise (· ≤ ·) := by
      refine (List.pairwise_mergeSort (fun a b d hab hbd => ?_) (fun a b => ?_) _).imp
        fun h => of_decide_eq_true h
      · exact decide_eq_true (le_trans (of_decide_eq_true hab) (of_decide_eq_true hbd))
      · rcases le_total a b with h | h
        · rw [decide_eq_true h, Bool.true_or]
        · rw [decide_eq_true h, Bool.or_true]
    exact hsorted.imp₂ (fun a b hle hne => lt_of_le_of_ne hle hne) (hperm.nodup_iff.mpr hdistinct)
  next => exact .nil

theorem mem_packagesBelow_iff
    (hfound : ∀ package, HasStub t (t.place root) package →
      t.find root = .ok (t.place root, .directory)) :
    package ∈ packagesBelow t root ↔ HasStub t (t.place root) package := by
  unfold packagesBelow
  split
  next l hfind =>
    obtain rfl := FileTree.eq_place_of_find hfind
    rw [(List.mergeSort_perm _ _).mem_iff, List.mem_filterMap]
    constructor
    · rintro ⟨entry, hentry, hpackage⟩
      obtain ⟨inside, hinside, hjoin, content, rfl⟩ := packageAt?_eq_some_iff.mp hpackage
      exact ⟨inside, hinside, hjoin, content, (hwf.mem_entries_iff.mp hentry).2⟩
    · rintro ⟨inside, hinside, hjoin, content, hget⟩
      exact ⟨_, hwf.mem_entries_iff.mpr ⟨by simp, hget⟩,
        packageAt?_eq_some_iff.mpr ⟨inside, hinside, hjoin, content, rfl⟩⟩
  next hnot =>
    exact ⟨fun h => absurd h List.not_mem_nil,
      fun h => absurd (hfound package h) (hnot (t.place root))⟩

theorem get?_of_hasStub (h : HasStub t l package) : t.get? l = some .directory := by
  obtain ⟨inside, hinside, -, content, hget⟩ := h
  rw [List.append_assoc] at hget
  have hrest : inside ++ [stubFileName] ≠ [] := by simp
  exact hwf.get?_of_append hrest (by simp [hget])

theorem follow_of_get? {dir : Location} {names : List String} (hup : ".." ∉ names)
    (hget : t.get? (dir ++ names) ≠ none) : t.follow dir names = .ok (dir ++ names) := by
  induction names generalizing dir with
  | nil => simp [FileTree.follow]
  | cons name names ih =>
    obtain ⟨hname, hnames⟩ := not_or.mp (mt List.mem_cons.mpr hup)
    have hdir : t.get? dir = some .directory :=
      hwf.get?_of_append (List.cons_ne_nil name names) hget
    rw [FileTree.follow, hdir]
    have hnext : dir ++ name :: names = dir ++ [name] ++ names := by simp
    rw [hnext] at hget ⊢
    simpa [Ne.symm hname] using ih hnames hget

/-- A path that never leads up leads to every directory at its place. -/
theorem find_of_get?_place (hroot : root.Usable) (hup : ".." ∉ root.steps)
    (hget : t.get? (t.place root) = some .directory) :
    t.find root = .ok (t.place root, .directory) := by
  rw [FileTree.place, FileTree.walk_of_not_mem hup] at hget ⊢
  have hlocate := hwf.follow_of_get? hup (ne_of_eq_of_ne hget (Option.some_ne_none _))
  exact FileTree.find_directory (FileTree.locate_eq_ok_iff.mpr ⟨hroot, hlocate, fun _ => hget⟩) hget

end FileTree.WellFormed

/-- A path that continues another leads somewhere only if the other leads to a directory. -/
theorem FileTree.find_of_locate_join {q : Path} {k : Location} (hroot : root.text ≠ "")
    (hq : q.isAbsolute = false) (hsteps : q.steps ≠ []) (h : t.locate (root.join q) = .ok k) :
    t.find root = .ok (t.place root, .directory) := by
  obtain ⟨husable, hfollow, -⟩ := locate_eq_ok_iff.mp h
  rw [Path.isAbsolute_join hroot hq, Path.steps_join hq] at hfollow
  have hsplit (names : List String) (dir : Location)
      (h : t.follow dir (names ++ q.steps) = .ok k) :
      t.follow dir names = .ok (walk dir names) ∧ t.get? (walk dir names) = some .directory := by
    induction names generalizing dir with
    | nil =>
      cases hq : q.steps with
      | nil => exact absurd hq hsteps
      | cons first rest =>
        rw [List.nil_append, hq] at h
        exact ⟨rfl, (follow_cons_ok h).1⟩
    | cons name names ih =>
      obtain ⟨hdir, h⟩ := follow_cons_ok h
      obtain ⟨hnames, hget⟩ := ih _ h
      refine ⟨?_, hget⟩
      rw [follow, hdir]
      exact hnames
  obtain ⟨hplace, hget⟩ := hsplit _ _ hfollow
  exact find_directory
    (locate_eq_ok_iff.mpr ⟨husable.of_join hroot hq, hplace, fun _ => hget⟩) hget

namespace IsPackagePath

theorem steps_eq (h : IsPackagePath package) : Path.steps ⟨package⟩ = Text.splitText '/' package :=
  List.filter_eq_self.mpr fun element helement => by
    obtain ⟨hempty, hdot, -⟩ := h element helement
    simp [Path.isIdle_eq_false_iff.mpr ⟨hempty, hdot⟩]

theorem isAbsolute_eq_false (h : IsPackagePath package) : Path.isAbsolute ⟨package⟩ = false := by
  cases hp : package.toList with
  | nil => simp [Path.isAbsolute, hp, Text.startsWith, Text.dropPrefix?]
  | cons c cs =>
    by_cases hc : '/' = c
    · have hempty : "" ∈ Text.splitText '/' package := by
        simp [Text.splitText, hp, Text.split, ← hc]
      exact absurd rfl (h "" hempty).1
    · simp [Path.isAbsolute, hp, Text.startsWith, Text.dropPrefix?, hc]

theorem not_mem_steps (h : IsPackagePath package) : ".." ∉ Text.splitText '/' package :=
  fun hmem => (h ".." hmem).2.2 rfl

end IsPackagePath

theorem Text.splitText_ne_nil (package : String) : splitText '/' package ≠ [] := by
  simp [splitText, split_ne_nil]

namespace StubWriter

variable {e : StubWriter} {s : SourcedStub} {stubs : List SourcedStub}

theorem place_stubPath (hroot : root.text ≠ "") (h : IsPackagePath s.stub.package) :
    t.place (stubPath root s) =
      t.place root ++ Text.splitText '/' s.stub.package ++ [stubFileName] := by
  have hdir : (root / s.stub.package).text ≠ "" := Path.text_join_ne_empty hroot
  have habs : (root / s.stub.package).isAbsolute = root.isAbsolute :=
    Path.isAbsolute_join hroot h.isAbsolute_eq_false
  have hsteps :
      (root / s.stub.package).steps = root.steps ++ Text.splitText '/' s.stub.package := by
    rw [← h.steps_eq]
    exact Path.steps_join h.isAbsolute_eq_false
  rw [stubPath, FileTree.place_div hdir isEntryName_stubFileName, FileTree.place, habs, hsteps,
    FileTree.walk_append, FileTree.walk_of_not_mem h.not_mem_steps]
  rfl

theorem nodup_stubPaths (hroot : root.text ≠ "") (hdistinct : (stubs.map (·.stub.package)).Nodup)
    (hpackages : ∀ s ∈ stubs, IsPackagePath s.stub.package) :
    (stubs.map fun s => t.place (stubPath root s)).Nodup := by
  refine List.pairwise_map.mpr ((List.pairwise_map.mp hdistinct).imp_of_mem ?_)
  intro s s' hs hs' hne heq
  rw [place_stubPath hroot (hpackages s hs), place_stubPath hroot (hpackages s' hs'),
    List.append_left_inj, List.append_right_inj] at heq
  exact hne (by rw [← Text.joinWith_splitText s.stub.package, heq, Text.joinWith_splitText])

theorem find_of_readBytes_stubPath {content : ByteArray} (hroot : root.text ≠ "")
    (h : IsPackagePath s.stub.package) (hread : t.readBytes (stubPath root s) = .ok content) :
    t.find root = .ok (t.place root, .directory) := by
  obtain ⟨k, hfind⟩ := FileTree.readBytes_eq_ok_iff.mp hread
  have hname := Path.steps_of_entryName isEntryName_stubFileName
  have hdir := FileTree.find_of_locate_join (Path.text_join_ne_empty hroot)
    (Path.isAbsolute_of_not_mem isEntryName_stubFileName.noSlash) (by simp [hname])
    (FileTree.find_eq_ok_iff.mp hfind).1
  exact FileTree.find_of_locate_join hroot h.isAbsolute_eq_false
    (h.steps_eq ▸ Text.splitText_ne_nil _) (FileTree.find_eq_ok_iff.mp hdir).1

end StubWriter

section HasStub

variable {written : Location → Prop}

theorem hasStub_mono (h : Edits written t t') (hstub : HasStub t l package) :
    HasStub t' l package := by
  obtain ⟨inside, hinside, hjoin, content, hget⟩ := hstub
  exact ⟨inside, hinside, hjoin, h.exists_file hget⟩

theorem hasStub_iff_of_edits (h : Edits written t t')
    (hw : ∀ k, written k → k.getLast? ≠ some stubFileName) :
    HasStub t' l package ↔ HasStub t l package := by
  refine ⟨?_, hasStub_mono h⟩
  rintro ⟨inside, hinside, hjoin, content, hget⟩
  refine ⟨inside, hinside, hjoin, content, (h.get?_file hget).resolve_right fun hwritten => ?_⟩
  exact hw _ hwritten (by simp)

variable {e : StubWriter} {stubs : List SourcedStub}

/-- Filling a vendor tree adds the packages that are written. -/
theorem hasStub_vendored_iff (hroot : root.text ≠ "") (hwf : t.WellFormed)
    (hpackages : ∀ s ∈ stubs, IsPackagePath s.stub.package)
    (h : Edits (Vendored t root stubs stubs) t t')
    (hread : ∀ s ∈ stubs, ∃ content, t'.readBytes (StubWriter.stubPath root s) = .ok content) :
    HasStub t' (t.place root) package ↔
      package ∈ stubs.map (·.stub.package) ∨ HasStub t (t.place root) package := by
  constructor
  · rintro ⟨inside, hinside, rfl, content, hget⟩
    rcases h.get?_file hget with hget | ⟨s, hs, hstub | ⟨name, hname, hplace⟩⟩
    · exact Or.inr ⟨inside, hinside, rfl, content, hget⟩
    · refine Or.inl (List.mem_map.mpr ⟨s, hs, ?_⟩)
      rw [← StubWriter.stubPath, StubWriter.place_stubPath hroot (hpackages s hs),
        List.append_left_inj, List.append_right_inj] at hstub
      rw [hstub, Text.joinWith_splitText]
    · have hlast := congrArg List.getLast? hplace
      rw [FileTree.getLast?_place_div (hname.isEntryName hwf), List.getLast?_concat] at hlast
      cases hlast
      cases hname.1.symm.trans isLicenseName_stubFileName
  · rintro (hmem | hstub)
    · obtain ⟨s, hs, rfl⟩ := List.mem_map.mp hmem
      obtain ⟨content, hread⟩ := hread s hs
      obtain ⟨k, hfind⟩ := FileTree.readBytes_eq_ok_iff.mp hread
      have hk : k = _ := FileTree.eq_place_of_find hfind
      rw [FileTree.place_congr h.current, StubWriter.place_stubPath hroot (hpackages s hs)] at hk
      exact ⟨_, Text.splitText_ne_nil _, (Text.joinWith_splitText _).symm, content,
        hk ▸ (FileTree.find_eq_ok_iff.mp hfind).2.1⟩
    · exact hasStub_mono h hstub

/-- With force, no package is left at the start. -/
theorem hasStub_startTree_iff
    (hfound : HasStub t (t.place root) package → t.exists? root = true) :
    HasStub (e.startTree root t) (t.place root) package ↔
      e.force = false ∧ HasStub t (t.place root) package := by
  unfold StubWriter.startTree
  split
  next hremove =>
    obtain ⟨hforce, -⟩ := Bool.and_eq_true_iff.mp hremove
    constructor
    · rintro ⟨inside, -, -, content, hget⟩
      rw [FileTree.get?_remove (by simp), if_pos (by simp [List.append_assoc])] at hget
      cases hget
    · rintro ⟨hforce', -⟩
      cases hforce.symm.trans hforce'
  next hkeep =>
    refine ⟨fun hstub => ⟨?_, hstub⟩, And.right⟩
    simpa [hfound hstub] using hkeep

end HasStub

theorem isEntryName_modulesFileName : IsEntryName modulesFileName := by decide

/-- Writing the list of modules changes no package, and the root is there afterwards. -/
theorem packagesBelow_of_writeModules {t₁ : FileTree} {content : ByteArray}
    (hroot : root.text ≠ "") (hwf : t.WellFormed)
    (hfound : ∀ package, HasStub t (t.place root) package →
      t.find root = .ok (t.place root, .directory))
    (hcreate : t.createDirectories root = .ok t₁)
    (hwrite : t₁.write (root / modulesFileName) content = .ok t') :
    Edits (· = t.place (root / modulesFileName)) t t' ∧
      t'.find root = .ok (t'.place root, .directory) ∧
      packagesBelow t' root = packagesBelow t root := by
  have hcreated := FileTree.edits_createDirectories hcreate
  obtain ⟨hwritten, -⟩ := FileTree.edits_write hwrite
  rw [FileTree.place_congr hcreated.current] at hwritten
  have hedits := (hcreated.mono fun _ h => h.elim).trans hwritten
  obtain ⟨k, hfind⟩ := FileTree.isDirectory_iff.mp
    (FileTree.isDirectory_of_createDirectories hroot hcreate)
  obtain ⟨hlocate, hget, -⟩ := FileTree.find_eq_ok_iff.mp hfind
  have hk : k = t'.place root :=
    (FileTree.eq_place_of_locate hlocate).trans (FileTree.place_congr hwritten.current root).symm
  have hfind' : t'.find root = .ok (t'.place root, .directory) := by
    rw [← hk]
    exact FileTree.find_directory (hwritten.locate_ok hlocate) (hwritten.get?_directory hget)
  have hwf' := hedits.wellFormed hwf
  refine ⟨hedits, hfind', NameSet.eq_of_mem_iff hwf'.sorted_packagesBelow
    hwf.sorted_packagesBelow fun package => ?_⟩
  rw [hwf'.mem_packagesBelow_iff fun _ _ => hfind', hwf.mem_packagesBelow_iff hfound,
    FileTree.place_congr hedits.current]
  refine hasStub_iff_of_edits hedits ?_
  rintro _ rfl
  rw [FileTree.getLast?_place_div isEntryName_modulesFileName]
  decide

/-- Listing packages that are listed already changes no file. -/
theorem files_of_writeModules_listed {c : Console}
    (hfind : c.files.find root = .ok (l, .directory))
    (hread : c.files.readBytes (root / modulesFileName) =
      .ok (modulesText (packagesBelow c.files root)).toUTF8) :
    ∃ n c', (writeModules root).run c = (.ok n, c') ∧ c'.files = c.files := by
  obtain ⟨k, hmodules⟩ := FileTree.readBytes_eq_ok_iff.mp hread
  obtain ⟨hlocate, hget, -⟩ := FileTree.find_eq_ok_iff.mp hmodules
  have hk : k ≠ [] := by
    rintro rfl
    simp at hget
  have hwrite : c.files.write (root / modulesFileName)
      (modulesText (packagesBelow c.files root)).toUTF8 = .ok c.files :=
    FileTree.write_eq_ok_iff.mpr ⟨k, hlocate, by simp [hget],
      Path.namesDirectory_div isEntryName_modulesFileName, (FileTree.set_of_get? hk hget).symm⟩
  refine ⟨(packagesBelow c.files root).length, (c.setFiles c.files).setFiles c.files, ?_, rfl⟩
  unfold writeModules
  refine run_bind_eq_ok.mpr ⟨c, c, rfl, run_bind_eq_ok.mpr ⟨(), c.setFiles c.files, ?_,
    run_bind_eq_ok.mpr ⟨(), (c.setFiles c.files).setFiles c.files, ?_, rfl⟩⟩⟩
  · exact Action.run_change_eq_ok.mpr ⟨c.files, FileTree.createDirectories_of_find hfind, rfl⟩
  · exact Action.run_change_eq_ok.mpr ⟨c.files, hwrite, rfl⟩

theorem files_of_listModules_listed {config : Config} {workDir : Path} {c : Console}
    (hdir : vendorDirectory c.files config workDir = root)
    (hfind : c.files.find root = .ok (l, .directory))
    (hread : c.files.readBytes (root / modulesFileName) =
      .ok (modulesText (packagesBelow c.files root)).toUTF8) :
    ∃ c', (Command.listModules config workDir).run c = (.ok (), c') ∧ c'.files = c.files := by
  obtain ⟨n, c₁, hrun, hfiles⟩ := files_of_writeModules_listed hfind hread
  refine ⟨c₁.tell ("Wrote " ++ (root / modulesFileName).text ++ " (" ++ toString n ++
    " package(s))"), run_bind_eq_ok.mpr ⟨c, c, rfl, ?_⟩, hfiles⟩
  rw [hdir]
  refine run_bind_eq_ok.mpr ⟨n, c₁, ?_, rfl⟩
  rw [Action.run_adapt, hrun]
  rfl

namespace StubWriter

variable {e : StubWriter} {stubs : List SourcedStub} {c c' : Console}

/-- A root with stubs below it is found, unless it leads up through what is not there. -/
theorem find_of_hasStub (hroot : root.Usable) (hwf : t.WellFormed)
    (hup : ".." ∈ root.steps → t.get? (t.place root) ≠ none → t.exists? root = true)
    (hstub : HasStub t (t.place root) package) :
    t.find root = .ok (t.place root, .directory) := by
  have hget := hwf.get?_of_hasStub hstub
  by_cases hsteps : ".." ∈ root.steps
  · have hexists := hup hsteps (by simp [hget])
    unfold FileTree.exists? at hexists
    cases hfind : t.find root with
    | error fault =>
      rw [hfind] at hexists
      cases hexists
    | ok found =>
      obtain ⟨k, node⟩ := found
      obtain rfl := FileTree.eq_place_of_find hfind
      cases hget.symm.trans (FileTree.find_eq_ok_iff.mp hfind).2.1
      rfl
  · exact hwf.find_of_get?_place hroot hsteps hget

/-- The packages in the tree that has been filled, and that its root is found if there are any. -/
theorem hasStub_filled_iff {t₁ : FileTree} (hroot : root.Usable) (hwf : t.WellFormed)
    (hup : ".." ∈ root.steps → t.get? (t.place root) ≠ none → t.exists? root = true)
    (hpackages : ∀ s ∈ stubs, IsPackagePath s.stub.package)
    (hedits : Edits (Vendored (e.startTree root t) root stubs stubs) (e.startTree root t) t₁)
    (hread : ∀ s ∈ stubs, ∃ content, t₁.readBytes (stubPath root s) = .ok content) :
    (∀ package, HasStub t₁ (t₁.place root) package ↔ package ∈ stubs.map (·.stub.package) ∨
        (e.force = false ∧ HasStub t (t.place root) package)) ∧
      ∀ package, HasStub t₁ (t₁.place root) package →
        t₁.find root = .ok (t₁.place root, .directory) := by
  have hplace : (e.startTree root t).place root = t.place root :=
    FileTree.place_congr startTree_current root
  have hplace₁ : t₁.place root = t.place root :=
    (FileTree.place_congr hedits.current root).trans hplace
  have hiff (package : String) : HasStub t₁ (t₁.place root) package ↔
      package ∈ stubs.map (·.stub.package) ∨
        (e.force = false ∧ HasStub t (t.place root) package) := by
    have hexists (hstub : HasStub t (t.place root) package) : t.exists? root = true := by
      simp [FileTree.exists?, find_of_hasStub hroot hwf hup hstub, Except.isOk, Except.toBool]
    rw [← hasStub_startTree_iff hexists, hplace₁, ← hplace]
    exact hasStub_vendored_iff hroot.1 (startTree_wellFormed hwf) hpackages hedits hread
  refine ⟨hiff, fun package hstub => ?_⟩
  rcases (hiff package).mp hstub with hmem | ⟨hforce, hstub⟩
  · obtain ⟨s, hs, rfl⟩ := List.mem_map.mp hmem
    obtain ⟨content, hread⟩ := hread s hs
    exact find_of_readBytes_stubPath hroot.1 (hpackages s hs) hread
  · have hstart : e.startTree root t = t := by simp [startTree, hforce]
    rw [hstart] at hedits
    obtain ⟨hlocate, hget, -⟩ :=
      FileTree.find_eq_ok_iff.mp (find_of_hasStub hroot hwf hup hstub)
    rw [hplace₁]
    exact FileTree.find_directory (hedits.locate_ok hlocate) (hedits.get?_directory hget)

/-- If nobody is asked, then below a root that is named and, where it leads up, found, the packages
with a stub are afterwards those that were written and, without force, those that had one before.
They stand in order in the list of modules, every stub is its header and its body, and listing the
modules again changes nothing. -/
theorem writeAll_lists_vendored_packages (hdest : e.destination = .vendor root)
    (hinput : e.interactive = false) (hroot : root.text ≠ "")
    (hup : ".." ∈ root.steps → c.files.get? (c.files.place root) ≠ none →
      c.files.exists? root = true)
    (hwf : c.files.WellFormed) (hdistinct : (stubs.map (·.stub.package)).Nodup)
    (hpackages : ∀ s ∈ stubs, IsPackagePath s.stub.package)
    (h : (e.writeAll stubs).run c = (.ok (), c')) :
    (packagesBelow c'.files root).Pairwise (· < ·) ∧
      (∀ package, package ∈ packagesBelow c'.files root ↔
        package ∈ stubs.map (·.stub.package) ∨
          (e.force = false ∧ HasStub c.files (c.files.place root) package)) ∧
      (∀ s ∈ stubs, ∃ body, e.IsBody c.world s body ∧
        c'.files.readBytes (root / s.stub.package / stubFileName) =
          .ok (header s.stub.package s.request e.copyright ++ body).toUTF8) ∧
      c'.files.readBytes (root / modulesFileName) =
        .ok (modulesText (packagesBelow c'.files root)).toUTF8 ∧
      ∀ config workDir (c₁ : Console), c₁.files = c'.files →
        vendorDirectory c'.files config workDir = root →
        ∃ c₂, (Command.listModules config workDir).run c₁ = (.ok (), c₂) ∧
          c₂.files = c'.files := by
  obtain ⟨t₁, t₂, hedits, hthere, hbodies, hcreate, hwrite⟩ := writeAll_vendor_ok hdest hwf h
  have haccepted (s : SourcedStub) : e.Accepted c.world.terminal (stubPath root s) :=
    accepted_of_not_interactive hinput
  have husable := FileTree.usable_of_createDirectories hroot hcreate
  obtain ⟨hiff, hfound⟩ := hasStub_filled_iff husable hwf hup hpackages hedits
    fun s hs => hthere s hs (haccepted s)
  have hwf₁ := hedits.wellFormed (startTree_wellFormed hwf)
  obtain ⟨hlisted, hfind, hpackages'⟩ :=
    packagesBelow_of_writeModules hroot hwf₁ hfound hcreate hwrite
  have hmodules : c'.files.readBytes (root / modulesFileName) =
      .ok (modulesText (packagesBelow c'.files root)).toUTF8 := by
    rw [hpackages']
    exact (FileTree.edits_write hwrite).2
  refine ⟨(hlisted.wellFormed hwf₁).sorted_packagesBelow, fun package => ?_, fun s hs => ?_,
    hmodules, ?_⟩
  · rw [hpackages', hwf₁.mem_packagesBelow_iff hfound, hiff]
  · obtain ⟨body, hbody, hread⟩ := hbodies (nodup_stubPaths hroot hdistinct hpackages) s hs
      (haccepted s)
    refine ⟨body, hbody, hlisted.readBytes_ok hread fun hplace => ?_⟩
    have hlast := congrArg List.getLast? hplace
    rw [FileTree.getLast?_place_div isEntryName_stubFileName,
      FileTree.getLast?_place_div isEntryName_modulesFileName] at hlast
    exact absurd hlast (by decide)
  · intro config workDir c₁ hfiles hdir
    rw [← hfiles] at hdir hfind hmodules ⊢
    exact files_of_listModules_listed hdir hfind hmodules

/-- A module with a licence and a vendored package. -/
def oldModule : FileTree where
  entries := [
    (["go.mod"], .file "module m\n".toUTF8),
    (["LICENSE"], .file "free\n".toUTF8),
    (["vendor"], .directory),
    (["vendor", "old"], .directory),
    (["vendor", "old", "stub.go"], .file "package old\n".toUTF8)]
  current := []

theorem oldModule_wellFormed : oldModule.WellFormed := by
  refine .of_entries (by decide) (by decide +kernel) ?_
  intro e he
  simp only [oldModule, List.mem_cons, List.not_mem_nil, or_false] at he
  rcases he with rfl | rfl | rfl | rfl | rfl <;> rfl

/-- An empty stub for a package whose sources lie in the working directory. -/
def emptyStub (package : String) : SourcedStub :=
  ⟨⟨package, ["T"], []⟩, ⟨package, "p", "package p\n", []⟩, ⟨"."⟩, none⟩

def oldConsole : Console :=
  .start (.ofFiles oldModule)

def vendorWriter (root : String) (force : Bool) : StubWriter :=
  ⟨.vendor ⟨root⟩, none, force, false, false⟩

theorem run_eq_of_isOk {ε : Type} {x : Action ε Unit} (h : (x.run c).1.isOk = true) :
    x.run c = (.ok (), (x.run c).2) := by
  rcases hx : x.run c with ⟨fault | ⟨⟩, c'⟩
  · rw [hx] at h
    cases h
  · rfl

theorem hasStub_oldModule_iff : HasStub oldModule ["vendor"] package ↔ package = "old" := by
  constructor
  · rintro ⟨inside, -, rfl, content, hget⟩
    have hentry := oldModule_wellFormed.mem_entries_iff.mpr ⟨by simp, hget⟩
    obtain ⟨hinside, -⟩ : inside ++ ["stub.go"] = ["old"] ++ ["stub.go"] ∧
        content = "package old\n".toUTF8 := by
      simpa [oldModule, stubFileName] using hentry
    rw [List.append_cancel_right hinside]
    rfl
  · rintro rfl
    exact ⟨["old"], by simp, rfl, "package old\n".toUTF8, rfl⟩

/-- What a writer leaves of the old module when it succeeds. -/
def Renewal (e : StubWriter) (stubs : List SourcedStub) : Type :=
  { c' : Console // (e.writeAll stubs).run oldConsole = (.ok (), c') }

def Renewal.ofIsOk {e : StubWriter} {stubs : List SourcedStub}
    (h : ((e.writeAll stubs).run oldConsole).1.isOk = true) : Renewal e stubs :=
  ⟨_, run_eq_of_isOk h⟩

/-- Two packages, one below the other, come to one that was there before. -/
def nestedRenewal : Renewal (vendorWriter "./vendor" false) [emptyStub "a/b", emptyStub "a"] :=
  .ofIsOk (by decide +kernel)

theorem nested_packages_listed :
    ∃ c', ((vendorWriter "./vendor" false).writeAll [emptyStub "a/b", emptyStub "a"]).run
        oldConsole = (.ok (), c') ∧
      packagesBelow c'.files ⟨"./vendor"⟩ = ["a", "a/b", "old"] ∧
      c'.files.readBytes ((⟨"./vendor"⟩ : Path) / modulesFileName) =
        .ok (modulesText ["a", "a/b", "old"]).toUTF8 ∧
      ∃ c₂, (Command.listModules .default ⟨"."⟩).run c' = (.ok (), c₂) ∧ c₂.files = c'.files := by
  have hrun := nestedRenewal.2
  have hwf : oldConsole.files.WellFormed := oldModule_wellFormed
  obtain ⟨hsorted, hmem, -, hmodules, hagain⟩ := writeAll_lists_vendored_packages rfl rfl
    (by decide) (by decide +kernel) hwf (by decide +kernel) (by decide +kernel) hrun
  have hplace : oldConsole.files.place ⟨"./vendor"⟩ = ["vendor"] := by decide +kernel
  have hlisted : (["a", "a/b", "old"] : NameSet).Pairwise (· < ·) := by decide +kernel
  have hpackages := NameSet.eq_of_mem_iff hsorted hlisted fun package => by
    rw [hmem, hplace, show oldConsole.files = oldModule from rfl, hasStub_oldModule_iff]
    simp [emptyStub, vendorWriter, or_left_comm, or_assoc]
  rw [hpackages] at hmodules
  exact ⟨_, hrun, hpackages, hmodules, hagain .default ⟨"."⟩ _ rfl (by decide +kernel)⟩

/-- A root without a name takes stubs, but is not found when the modules are listed. One that leads
up through what is not there is not found when it is to be removed, and stubs stay below it. -/
theorem unfound_root_mislists :
    (∃ c', ((vendorWriter "" false).writeAll [emptyStub "a"]).run oldConsole = (.ok (), c') ∧
      c'.files.isFile ⟨"a/stub.go"⟩ = true ∧ packagesBelow c'.files ⟨""⟩ = [] ∧
      c'.files.readText ⟨"modules.txt"⟩ = .ok "") ∧
    ∃ c', ((vendorWriter "new/../vendor" true).writeAll [emptyStub "a"]).run oldConsole =
        (.ok (), c') ∧
      c'.files.isFile ⟨"vendor/a/stub.go"⟩ = true ∧
      c'.files.isFile ⟨"vendor/old/stub.go"⟩ = true := by
  refine ⟨⟨_, run_eq_of_isOk (by decide +kernel), ?_, ?_, ?_⟩,
    _, run_eq_of_isOk (by decide +kernel), ?_, ?_⟩ <;> decide +kernel

end StubWriter

end GoStub
