import GoStub.Proofs.VendorTree

/-! The Go files of a new vendor tree. Besides the stubs there are only files that count as licences
by the way their names begin; what their names end in makes no difference. -/

namespace GoStub

open FileTree (Edits)

variable {t t' : FileTree} {dir path : Path} {l k : Location} {name : String}

theorem FileTree.locate_div (hfind : t.find dir = .ok (l, .directory)) (h : IsEntryName name) :
    t.locate (dir / name) = .ok (l ++ [name]) := by
  obtain ⟨hlocate, hget, -⟩ := find_eq_ok_iff.mp hfind
  obtain ⟨hdir, hfollow, -⟩ := locate_eq_ok_iff.mp hlocate
  have hextend (names : List String) (start : Location) (hl : t.follow start names = .ok l) :
      t.follow start (names ++ [name]) = .ok (l ++ [name]) := by
    induction names generalizing start with
    | nil =>
      cases hl
      rw [List.nil_append, follow, hget]
      simp [h.notUp, follow]
    | cons first names ih =>
      obtain ⟨hdir, hl⟩ := follow_cons_ok hl
      rw [List.cons_append, follow, hdir]
      exact ih _ hl
  have habs : (dir / name).isAbsolute = dir.isAbsolute :=
    Path.isAbsolute_join hdir.1 (Path.isAbsolute_of_not_mem h.noSlash)
  refine locate_eq_ok_iff.mpr ⟨hdir.div h, ?_, fun hdot => ?_⟩
  · rw [habs, Path.steps_div h]
    exact hextend _ _ hfollow
  · rw [Path.endsInDot_div h] at hdot
    cases hdot

/-- The licences in a directory are its files with the name of one, whatever they are. -/
theorem mem_licensesIn_iff (hwf : t.WellFormed) (hfind : t.find dir = .ok (l, .directory)) :
    path ∈ licensesIn t dir ↔ ∃ name, path = dir / name ∧ isLicenseName name = true ∧
      ∃ content, t.get? (l ++ [name]) = some (.file content) := by
  have hmem : path ∈ licensesIn t dir ↔ ∃ name ∈ t.childNames l, isLicenseName name = true ∧
      t.isFile (dir / name) = true ∧ path = dir / name := by
    unfold licensesIn
    rw [hfind]
    simp only [(List.mergeSort_perm _ _).mem_iff, List.mem_filter, List.mem_map]
    constructor
    · rintro ⟨⟨name, ⟨hname, hlicense⟩, rfl⟩, hfile⟩
      exact ⟨name, hname, hlicense, hfile, rfl⟩
    · rintro ⟨name, hname, hlicense, hfile, rfl⟩
      exact ⟨⟨name, ⟨hname, hlicense⟩, rfl⟩, hfile⟩
  rw [hmem]
  constructor
  · rintro ⟨name, hname, hlicense, hfile, rfl⟩
    obtain ⟨node, hentry⟩ := FileTree.mem_childNames_iff.mp hname
    have hentryName : IsEntryName name := (hwf.named _ hentry).2 name (by simp)
    obtain ⟨content, hread⟩ := FileTree.isFile_iff.mp hfile
    obtain ⟨k, hfound⟩ := FileTree.readBytes_eq_ok_iff.mp hread
    obtain ⟨hlocate, hget, -⟩ := FileTree.find_eq_ok_iff.mp hfound
    cases (FileTree.locate_div hfind hentryName).symm.trans hlocate
    exact ⟨name, rfl, hlicense, content, hget⟩
  · rintro ⟨name, rfl, hlicense, content, hget⟩
    have hentry := hwf.mem_entries_iff.mpr ⟨by simp, hget⟩
    have hentryName : IsEntryName name := (hwf.named _ hentry).2 name (by simp)
    have hread := FileTree.readBytes_of_get? (FileTree.locate_div hfind hentryName) hget
      (Path.namesDirectory_div hentryName)
    exact ⟨name, FileTree.mem_childNames_iff.mpr ⟨_, hentry⟩, hlicense,
      FileTree.isFile_iff.mpr ⟨content, hread⟩, rfl⟩

/-- A file whose name ends like that of a Go source file. -/
def IsGoFile (t : FileTree) (k : Location) : Prop :=
  (∃ content, t.get? k = some (.file content)) ∧
    ∃ name, k.getLast? = some name ∧ Path.extension? ⟨name⟩ = some "go"

theorem isGoFile_of_isFile (hfile : t.isFile path = true)
    (hname : (t.place path).getLast? = some name) (hext : Path.extension? ⟨name⟩ = some "go") :
    IsGoFile t (t.place path) := by
  obtain ⟨content, hread⟩ := FileTree.isFile_iff.mp hfile
  obtain ⟨k, hfind⟩ := FileTree.readBytes_eq_ok_iff.mp hread
  obtain rfl := FileTree.eq_place_of_find hfind
  exact ⟨⟨content, (FileTree.find_eq_ok_iff.mp hfind).2.1⟩, name, hname, hext⟩

theorem LicenseOf.of_remove {stubs : List SourcedStub} (h : LicenseOf (t.remove l) stubs name) :
    LicenseOf t stubs name := by
  obtain ⟨hlicense, s, hs, dir, hdir, k, content, hget, hlast, hplace⟩ := h
  rw [FileTree.get?_remove (List.ne_nil_of_mem (List.mem_of_getLast? hlast))] at hget
  split at hget
  · cases hget
  · exact ⟨hlicense, s, hs, dir, hdir, k, content, hget, hlast, hplace⟩

namespace StubWriter

variable {e : StubWriter} {root : Path} {stubs : List SourcedStub} {c c' : Console}

/-- At the start nothing is below a root that is new or is made anew. -/
theorem startTree_get?_below (hwf : t.WellFormed)
    (hnew : (e.force = true ∧ t.exists? root = true) ∨ t.get? (t.place root) = none)
    (hk : t.place root <+: k) (hne : k ≠ []) : (e.startTree root t).get? k = none := by
  have hnone (h : t.get? (t.place root) = none) : t.get? k = none := by
    obtain ⟨rest, rfl⟩ := hk
    by_cases hrest : rest = []
    · simpa [hrest] using h
    · by_contra hget
      cases h.symm.trans (hwf.get?_of_append hrest hget)
  unfold startTree
  split
  · rw [FileTree.get?_remove hne, if_pos hk]
  next hkeep =>
    rcases hnew with ⟨hforce, hexists⟩ | h
    · exact absurd (by simp [hforce, hexists]) hkeep
    · exact hnone h

theorem licenseOf_of_startTree (h : LicenseOf (e.startTree root t) stubs name) :
    LicenseOf t stubs name := by
  unfold startTree at h
  split at h
  · exact h.of_remove
  · exact h

/-- Every Go file below a root that is new or made anew is a stub, or has the name of a licence that
was in the directory of a package or module before; and every stub is there that nobody declines to
have. Which files are
licences depends on how their names begin, and on nothing else. -/
theorem go_file_is_stub_or_license (hdest : e.destination = .vendor root)
    (hwf : c.files.WellFormed)
    (hnew : (e.force = true ∧ c.files.exists? root = true) ∨
      c.files.get? (c.files.place root) = none)
    (h : (e.writeAll stubs).run c = (.ok (), c')) :
    (∀ k, c.files.place root <+: k → IsGoFile c'.files k → ∃ s ∈ stubs,
      k = c.files.place (root / s.stub.package / stubFileName) ∨
        ∃ name, LicenseOf c.files stubs name ∧ k = c.files.place (root / s.stub.package / name)) ∧
      (∀ s ∈ stubs, e.Accepted c.world.terminal (root / s.stub.package / stubFileName) →
        IsGoFile c'.files (c.files.place (root / s.stub.package / stubFileName))) ∧
      ∀ dir l, c.files.find dir = .ok (l, .directory) → ∀ path, path ∈ licensesIn c.files dir ↔
        ∃ name, path = dir / name ∧ isLicenseName name = true ∧
          ∃ content, c.files.get? (l ++ [name]) = some (.file content) := by
  obtain ⟨t₁, t₂, hedits, hthere, -, hcreate, hwrite⟩ := writeAll_vendor_ok hdest hwf h
  have hcreated := FileTree.edits_createDirectories hcreate
  obtain ⟨hwritten, -⟩ := FileTree.edits_write hwrite
  refine ⟨?_, fun s hs haccepted => ?_, fun dir l hfind path => mem_licensesIn_iff hwf hfind⟩
  · rintro k hk ⟨⟨content, hget⟩, name, hlast, hgo⟩
    have hne : k ≠ [] := List.ne_nil_of_mem (List.mem_of_getLast? hlast)
    rcases hwritten.get?_file hget with hget | hmodules
    · have hget₁ := (hcreated.get?_file hget).resolve_right id
      rcases hedits.get?_file hget₁ with hold | ⟨s, hs, hplace | ⟨other, hother, hplace⟩⟩
      · cases (startTree_get?_below hwf hnew hk hne).symm.trans hold
      · exact ⟨s, hs, Or.inl (hplace.trans (FileTree.place_congr startTree_current _))⟩
      · exact ⟨s, hs, Or.inr ⟨other, licenseOf_of_startTree hother,
          hplace.trans (FileTree.place_congr startTree_current _)⟩⟩
    · -- the list of modules is no Go file
      rw [hmodules, FileTree.getLast?_place_div isEntryName_modulesFileName] at hlast
      cases hlast
      exact absurd hgo (by decide)
  · obtain ⟨_, hread⟩ := hthere s hs haccepted
    obtain ⟨_, hread⟩ := hcreated.exists_readBytes hread
    have hfile := FileTree.isFile_iff.mpr (hwritten.exists_readBytes hread)
    have hplace : c'.files.place (stubPath root s) = c.files.place (stubPath root s) :=
      FileTree.place_congr (hwritten.current.trans (hcreated.current.trans
        (hedits.current.trans startTree_current))) _
    exact hplace ▸ isGoFile_of_isFile hfile
      (FileTree.getLast?_place_div isEntryName_stubFileName) (by decide)

theorem eq_license_of_oldModule (h : LicenseOf oldModule [emptyStub "a"] name) :
    name = "LICENSE" := by
  obtain ⟨hlicense, s, hs, dir, hdir, k, content, hget, hlast, hplace⟩ := h
  obtain rfl := List.mem_singleton.mp hs
  obtain rfl : dir = ⟨"."⟩ := List.mem_singleton.mp hdir
  have hroot : oldModule.place ⟨"."⟩ = [] := by decide +kernel
  rw [hroot, List.nil_append] at hplace
  obtain rfl : k = [name] := by
    refine hplace.resolve_left ?_
    rintro rfl
    cases hlast
  have hentry := oldModule_wellFormed.mem_entries_iff.mpr ⟨by simp, hget⟩
  have hnames : name = "go.mod" ∨ name = "LICENSE" := by
    simp only [oldModule, List.mem_cons, Prod.mk.injEq, List.cons.injEq] at hentry
    tauto
  rcases hnames with rfl | rfl
  · exact absurd hlicense (by decide)
  · rfl

def forcedRenewal : Renewal (vendorWriter "./vendor" true) [emptyStub "a"] :=
  .ofIsOk (by decide +kernel)

/-- The old package goes, and the licence of the module is no Go file. -/
theorem renewed_vendor_go_files :
    ∃ c', ((vendorWriter "./vendor" true).writeAll [emptyStub "a"]).run oldConsole = (.ok (), c') ∧
      ∀ k, ["vendor"] <+: k → (IsGoFile c'.files k ↔ k = ["vendor", "a", "stub.go"]) := by
  have hrun := forcedRenewal.2
  have hwf : oldConsole.files.WellFormed := oldModule_wellFormed
  obtain ⟨hgo, hthere, -⟩ := go_file_is_stub_or_license rfl hwf (by decide +kernel) hrun
  have hroot : oldConsole.files.place ⟨"./vendor"⟩ = ["vendor"] := by decide +kernel
  have hstub : oldConsole.files.place ((⟨"./vendor"⟩ : Path) / "a" / stubFileName) =
      ["vendor", "a", "stub.go"] := by
    decide +kernel
  refine ⟨_, hrun, fun k hk => ⟨fun h => ?_, ?_⟩⟩
  · obtain ⟨s, hs, hplace | ⟨name, hname, hplace⟩⟩ := hgo k (hroot ▸ hk) h
    · obtain rfl := List.mem_singleton.mp hs
      exact hplace.trans hstub
    · obtain ⟨-, other, hlast, hext⟩ := h
      obtain rfl := eq_license_of_oldModule hname
      rw [hplace, FileTree.getLast?_place_div (by decide)] at hlast
      cases hlast
      exact absurd hext (by decide)
  · rintro rfl
    exact hstub ▸ hthere (emptyStub "a") List.mem_cons_self (accepted_of_not_interactive rfl)

/-- A module with a Go file that deals with licences. -/
def licenseModule : FileTree where
  entries := [(["p"], .directory), (["p", "license.go"], .file "package p\n".toUTF8)]
  current := []

/-- An empty stub for a package of that module. -/
def licenseStub : SourcedStub :=
  ⟨⟨"a", ["T"], []⟩, ⟨"a", "p", "package p\n", []⟩, ⟨"p"⟩, none⟩

/-- A Go file with the name of a licence is taken for one, and comes beside the stub. -/
theorem go_file_taken_for_license :
    licensesIn licenseModule ⟨"p"⟩ = [⟨"p/license.go"⟩] ∧
      licenseModule.get? (licenseModule.place ⟨"vendor"⟩) = none ∧
      ∃ c', ((vendorWriter "vendor" false).writeAll [licenseStub]).run
          (.start (.ofFiles licenseModule)) = (.ok (), c') ∧
        IsGoFile c'.files (c'.files.place ⟨"vendor/a/license.go"⟩) := by
  have hgo : Path.extension? ⟨"license.go"⟩ = some "go" := by decide
  exact ⟨by decide +kernel, rfl, _, run_eq_of_isOk (by decide +kernel),
    isGoFile_of_isFile (by decide +kernel) (by decide +kernel) hgo⟩

end StubWriter

end GoStub
