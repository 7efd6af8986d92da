import GoStub.Proofs.Failure
import GoStub.Proofs.FileEdits

/-! Filling a vendor tree. Every file that is written is a stub in the directory of its package, a
file beside it that has the name of a licence, or the list of modules. -/

namespace GoStub

open FileTree (Edits)

theorem run_bind_eq_ok {σ ε α β : Type} {x : ExceptT ε (StateM σ) α}
    {f : α → ExceptT ε (StateM σ) β} {s s' : σ} {b : β} :
    (x >>= f).run s = (.ok b, s') ↔
      ∃ a s₁, x.run s = (.ok a, s₁) ∧ (f a).run s₁ = (.ok b, s') := by
  rw [run_bind]
  rcases x.run s with ⟨e | a, s₁⟩
  · exact ⟨fun h => (by cases h), fun ⟨_, _, h, _⟩ => (by cases h)⟩
  · constructor
    · exact fun h => ⟨a, s₁, rfl, h⟩
    · rintro ⟨_, _, h, hf⟩
      cases h
      exact hf

namespace Action

variable {ε : Type} {c c' : Console}

theorem run_change_eq_ok {wrap : FileFault → ε} {f : FileTree → Except FileFault FileTree} :
    (change wrap f).run c = (.ok (), c') ↔
      ∃ files, f c.files = .ok files ∧ c' = c.setFiles files := by
  unfold change
  rw [ExceptT.run_mk]
  cases f c.files with
  | error fault => exact ⟨fun h => (by cases h), fun ⟨_, h, _⟩ => (by cases h)⟩
  | ok files =>
    constructor
    · intro h
      cases h
      exact ⟨files, rfl, rfl⟩
    · rintro ⟨_, h, rfl⟩
      cases h
      rfl

theorem files_of_tell {line : String} (h : (tell line : Action ε Unit).run c = (.ok (), c')) :
    c'.files = c.files := by
  cases h
  rfl

/-- An action that leaves the terminal as it is. -/
def KeepsTerminal {α : Type} (x : Action ε α) : Prop :=
  ∀ c : Console, (x.run c).2.world.terminal = c.world.terminal

variable {α β : Type}

theorem Quiet.keepsTerminal {x : Action ε α} (hx : Quiet x) : KeepsTerminal x :=
  fun c => congrArg World.terminal (hx c).world

theorem KeepsTerminal.bind {x : Action ε α} {f : α → Action ε β} (hx : KeepsTerminal x)
    (hf : ∀ a, KeepsTerminal (f a)) : KeepsTerminal (x >>= f) := by
  intro c
  have hc := hx c
  rw [run_bind]
  rcases hrun : x.run c with ⟨e | a, c₁⟩
  · rw [hrun] at hc
    exact hc
  · rw [hrun] at hc
    exact (hf a c₁).trans hc

theorem keepsTerminal_change (wrap : FileFault → ε) (f : FileTree → Except FileFault FileTree) :
    KeepsTerminal (change wrap f) := by
  intro c
  unfold change
  rw [ExceptT.run_mk]
  cases f c.files <;> rfl

theorem quiet_ask (wrap : String → ε) (file : Path) : Quiet (ask wrap file) := by
  intro c
  unfold ask
  rw [ExceptT.run_mk]
  cases c.world.terminal.answer c.asked file <;> exact ⟨rfl, rfl⟩

theorem run_ask_eq_ok {wrap : String → ε} {file : Path} {overwrite : Bool} :
    (ask wrap file).run c = (.ok overwrite, c') ↔
      c.world.terminal.answer c.asked file = .ok overwrite ∧ c' = c.ask file := by
  unfold ask
  rw [ExceptT.run_mk]
  cases c.world.terminal.answer c.asked file with
  | error error => exact ⟨fun h => (by cases h), fun ⟨h, _⟩ => (by cases h)⟩
  | ok answer =>
    constructor
    · intro h
      cases h
      exact ⟨rfl, rfl⟩
    · rintro ⟨h, rfl⟩
      cases h
      rfl

end Action

namespace FileTree

variable {t t' : FileTree} {p : Path} {l : Location} {written : Location → Prop}

/-- A file that is not written stays readable as it is. -/
theorem Edits.readBytes_ok (h : Edits written t t') {content : ByteArray}
    (hread : t.readBytes p = .ok content) (hp : ¬ written (t.place p)) :
    t'.readBytes p = .ok content := by
  obtain ⟨l, hfind⟩ := readBytes_eq_ok_iff.mp hread
  obtain ⟨hlocate, hget, hname⟩ := find_eq_ok_iff.mp hfind
  have hl : l = t.place p := eq_place_of_locate hlocate
  exact readBytes_of_get? (h.locate_ok hlocate) (h.get?_of_not_written (hl ▸ hp) hget)
    (hname ⟨content, rfl⟩)

theorem Edits.exists_readBytes (h : Edits written t t') {content : ByteArray}
    (hread : t.readBytes p = .ok content) : ∃ content', t'.readBytes p = .ok content' := by
  obtain ⟨l, hfind⟩ := readBytes_eq_ok_iff.mp hread
  obtain ⟨hlocate, hget, hname⟩ := find_eq_ok_iff.mp hfind
  obtain ⟨content', hget'⟩ := h.exists_file hget
  exact ⟨content', readBytes_of_get? (h.locate_ok hlocate) hget' (hname ⟨content, rfl⟩)⟩

theorem getLast?_place_div {name : String} (h : IsEntryName name) :
    (t.place (p / name)).getLast? = some name := by
  rw [place, Path.steps_div h, walk_append]
  simp [walk, h.notUp]

theorem edits_write {content : ByteArray} (h : t.write p content = .ok t') :
    Edits (· = t.place p) t t' ∧ t'.readBytes p = .ok content := by
  obtain ⟨l, hlocate, hget, hp, rfl⟩ := write_eq_ok_iff.mp h
  have hl : l = t.place p := eq_place_of_locate hlocate
  have hedits : Edits (· = l) t (t.set l (.file content)) := edits_set_file hlocate hget
  have hne : l ≠ [] := by
    rintro rfl
    exact hget get?_nil
  refine ⟨hl ▸ hedits, readBytes_of_get? (hedits.locate_ok hlocate) ?_ hp⟩
  rw [get?_set hne, if_pos rfl]

theorem edits_copy {source : Path} (h : t.copy source p = .ok t') :
    Edits (· = t.place p) t t' := by
  obtain ⟨l, content, hlocate, hget, rfl⟩ := exists_of_copy h
  exact eq_place_of_locate hlocate ▸ edits_set_file hlocate hget

theorem mem_childNames_iff {name : String} :
    name ∈ t.childNames l ↔ ∃ node, (l ++ [name], node) ∈ t.entries := by
  unfold childNames
  rw [List.mem_filterMap]
  constructor
  · rintro ⟨⟨k, node⟩, he, hname⟩
    dsimp only at hname
    split at hname
    next hdir =>
      refine ⟨node, ?_⟩
      rwa [← hdir, List.dropLast_append_getLast? name hname]
    next => cases hname
  · rintro ⟨node, he⟩
    exact ⟨_, he, by simp⟩

end FileTree

variable {c c' : Console} {t : FileTree} {root dir file : Path} {text name : String}
  {stubs written : List SourcedStub} {s : SourcedStub} {license : Path} {licenses : List Path}
  {l : Location}

theorem putStub_ok (h : (putStub file text).run c = (.ok (), c')) :
    Edits (· = c.files.place file) c.files c'.files ∧
      c'.files.readBytes file = .ok text.toUTF8 := by
  have hwrite {c : Console} (h : ((do
      Action.change (.putStub file) fun t => t.write file text.toUTF8
      Action.tell ("✓ " ++ file.text)) : Action WriteFault Unit).run c = (.ok (), c')) :
      Edits (· = c.files.place file) c.files c'.files ∧
        c'.files.readBytes file = .ok text.toUTF8 := by
    obtain ⟨⟨⟩, c₁, hchange, htell⟩ := run_bind_eq_ok.mp h
    obtain ⟨files, hfiles, rfl⟩ := Action.run_change_eq_ok.mp hchange
    rw [Action.files_of_tell htell]
    exact FileTree.edits_write hfiles
  unfold putStub at h
  cases hparent : file.parent? with
  | none =>
    rw [hparent] at h
    exact hwrite h
  | some dir =>
    rw [hparent] at h
    obtain ⟨⟨⟩, c₁, hchange, h⟩ := run_bind_eq_ok.mp h
    obtain ⟨files, hfiles, rfl⟩ := Action.run_change_eq_ok.mp hchange
    have hdirs := FileTree.edits_createDirectories hfiles
    obtain ⟨hedits, hread⟩ := hwrite h
    have hplace : files.place file = c.files.place file :=
      FileTree.place_congr hdirs.current file
    exact ⟨(hdirs.mono fun _ h => h.elim).trans (hplace ▸ hedits), hread⟩

theorem keepsTerminal_putStub (file : Path) (text : String) :
    Action.KeepsTerminal (putStub file text) := by
  have hwrite : Action.KeepsTerminal (do
      Action.change (WriteFault.putStub file) fun t => t.write file text.toUTF8
      Action.tell ("✓ " ++ file.text)) :=
    (Action.keepsTerminal_change _ _).bind fun _ => (Action.quiet_tell _).keepsTerminal
  unfold putStub
  cases file.parent? with
  | none => exact hwrite
  | some dir => exact (Action.keepsTerminal_change _ _).bind fun _ => hwrite

theorem keepsTerminal_copyLicenses (dir : Path) (licenses : List Path) :
    Action.KeepsTerminal (copyLicenses dir licenses) := by
  induction licenses with
  | nil => exact (Action.quiet_pure ()).keepsTerminal
  | cons license rest ih =>
    unfold copyLicenses
    cases license.fileName? with
    | none => exact ih
    | some name => exact (Action.keepsTerminal_change _ _).bind fun _ => ih

theorem edits_copyLicenses (h : (copyLicenses dir licenses).run c = (.ok (), c')) :
    Edits (fun l => ∃ license ∈ licenses, ∃ name, license.fileName? = some name ∧
      l = c.files.place (dir / name)) c.files c'.files := by
  induction licenses generalizing c with
  | nil =>
    cases h
    exact .refl _
  | cons license rest ih =>
    rw [copyLicenses] at h
    cases hname : license.fileName? with
    | none =>
      rw [hname] at h
      exact (ih h).mono fun l ⟨other, hother, hl⟩ =>
        ⟨other, List.mem_cons_of_mem license hother, hl⟩
    | some name =>
      rw [hname] at h
      obtain ⟨⟨⟩, c₁, hchange, h⟩ := run_bind_eq_ok.mp h
      obtain ⟨files, hfiles, rfl⟩ := Action.run_change_eq_ok.mp hchange
      have hcopy := FileTree.edits_copy hfiles
      refine (hcopy.mono ?_).trans ((ih h).mono ?_)
      · rintro l rfl
        exact ⟨license, List.mem_cons_self, name, hname, rfl⟩
      · rintro l ⟨other, hother, name', hname', rfl⟩
        exact ⟨other, List.mem_cons_of_mem license hother, name', hname',
          FileTree.place_congr hcopy.current _⟩

/-- A licence is a file with the name of one, in the directory where it was looked for or in its
place. -/
theorem exists_of_mem_licensesIn (hwf : t.WellFormed) (h : license ∈ licensesIn t dir)
    (hname : license.fileName? = some name) :
    isLicenseName name = true ∧ ∃ k content, t.get? k = some (.file content) ∧
      k.getLast? = some name ∧ (k = t.place dir ∨ k = t.place dir ++ [name]) := by
  unfold licensesIn at h
  split at h
  next => cases h
  next k content hfind =>
    split at h
    next hlicense =>
      obtain rfl := List.mem_singleton.mp h
      obtain ⟨hlocate, hget, -⟩ := FileTree.find_eq_ok_iff.mp hfind
      obtain ⟨names, hsteps, hup⟩ := Path.fileName?_eq_some_iff.mp hname
      exact ⟨by simpa [hname] using hlicense, k, content, hget,
        FileTree.getLast?_of_locate hsteps hup hlocate,
        Or.inl (FileTree.eq_place_of_locate hlocate)⟩
    next => cases h
  next k hfind =>
    obtain ⟨hpath, hfile⟩ := List.mem_filter.mp ((List.mergeSort_perm _ _).mem_iff.mp h)
    obtain ⟨child, hchild, rfl⟩ := List.mem_map.mp hpath
    obtain ⟨hchild, hlicense⟩ := List.mem_filter.mp hchild
    obtain ⟨node, hentry⟩ := FileTree.mem_childNames_iff.mp hchild
    have hentryName : IsEntryName child := (hwf.named _ hentry).2 child (by simp)
    obtain rfl : child = name := Option.some.inj ((Path.fileName?_div hentryName).symm.trans hname)
    obtain ⟨content, hread⟩ := FileTree.isFile_iff.mp hfile
    obtain ⟨j, hfound⟩ := FileTree.readBytes_eq_ok_iff.mp hread
    obtain ⟨hlocate, hget, -⟩ := FileTree.find_eq_ok_iff.mp hfound
    have hdir : dir.text ≠ "" :=
      (FileTree.locate_eq_ok_iff.mp (FileTree.find_eq_ok_iff.mp hfind).1).1.1
    have hj : j = t.place dir ++ [child] :=
      (FileTree.eq_place_of_locate hlocate).trans (FileTree.place_div hdir hentryName)
    exact ⟨hlicense, j, content, hget, by simp [hj], Or.inr hj⟩

/-- The name of a licence that some stub has: a file of that name lies in the directory of its
package or of its module. -/
def LicenseOf (t : FileTree) (stubs : List SourcedStub) (name : String) : Prop :=
  isLicenseName name = true ∧ ∃ s ∈ stubs, ∃ dir ∈ s.packageDir :: s.moduleDir.toList,
    ∃ k content, t.get? k = some (.file content) ∧ k.getLast? = some name ∧
      (k = t.place dir ∨ k = t.place dir ++ [name])

/-- A place that is written when stubs go to a vendor tree: that of a stub, or of a licence beside
it. -/
def Vendored (t : FileTree) (root : Path) (stubs written : List SourcedStub) (l : Location) :
    Prop :=
  ∃ s ∈ written, l = t.place (root / s.stub.package / stubFileName) ∨
    ∃ name, LicenseOf t stubs name ∧ l = t.place (root / s.stub.package / name)

theorem isEntryName_stubFileName : IsEntryName stubFileName := by decide

theorem isLicenseName_stubFileName : isLicenseName stubFileName = false := by decide

theorem exists_of_mem_licensesOf {packageDir : Path} {moduleDir : Option Path}
    (h : license ∈ licensesOf t packageDir moduleDir) :
    ∃ dir ∈ packageDir :: moduleDir.toList, license ∈ licensesIn t dir := by
  unfold licensesOf at h
  dsimp only at h
  split at h
  next =>
    cases moduleDir with
    | none => cases h
    | some dir => exact ⟨dir, by simp, h⟩
  next => exact ⟨packageDir, List.mem_cons_self, h⟩

theorem LicenseOf.isEntryName (h : LicenseOf t stubs name) (hwf : t.WellFormed) :
    IsEntryName name := by
  obtain ⟨-, s, -, dir, -, k, content, hget, hlast, -⟩ := h
  have hmem : name ∈ k := List.mem_of_getLast? hlast
  have hentry := hwf.mem_entries_iff.mpr ⟨List.ne_nil_of_mem hmem, hget⟩
  exact (hwf.named _ hentry).2 name hmem

/-- The licences found while a vendor tree is being filled have names of licences that were there
before. -/
theorem licenseOf_of_mem_licensesOf (hwf : t.WellFormed)
    (hedits : Edits (Vendored t root stubs stubs) t c.files) (hs : s ∈ stubs)
    (h : license ∈ licensesOf c.files s.packageDir s.moduleDir)
    (hname : license.fileName? = some name) : LicenseOf t stubs name := by
  obtain ⟨dir, hdir, hmem⟩ := exists_of_mem_licensesOf h
  obtain ⟨hlicense, k, content, hget, hlast, hplace⟩ :=
    exists_of_mem_licensesIn (hedits.wellFormed hwf) hmem hname
  rw [FileTree.place_congr hedits.current] at hplace
  rcases hedits.get?_file hget with hget | ⟨other, -, hk | ⟨name', hname', hk⟩⟩
  · exact ⟨hlicense, s, hs, dir, hdir, k, content, hget, hlast, hplace⟩
  · -- a stub is no licence
    rw [hk, FileTree.getLast?_place_div isEntryName_stubFileName] at hlast
    cases hlast
    cases hlicense.symm.trans isLicenseName_stubFileName
  · rw [hk, FileTree.getLast?_place_div (hname'.isEntryName hwf)] at hlast
    cases hlast
    exact hname'

namespace StubWriter

variable {e : StubWriter} {texts : List (SourcedStub × String)}

/-- Where the stub of a package goes. -/
def stubPath (root : Path) (s : SourcedStub) : Path :=
  root / s.stub.package / stubFileName

/-- Nobody declines to have the file overwritten: whoever is asked agrees, or nobody is asked. -/
def Accepted (e : StubWriter) (terminal : Terminal) (file : Path) : Prop :=
  e.interactive = true → e.force = false → ∀ asked, terminal.answer asked file ≠ .ok false

theorem accepted_of_not_interactive {terminal : Terminal} (h : e.interactive = false) :
    e.Accepted terminal file :=
  fun hinteractive => absurd hinteractive (by simp [h])

/-- Asking changes nothing, and only a declined question keeps a file from being written. -/
theorem mayWrite_ok {isWritten : Bool} (h : (e.mayWrite file).run c = (.ok isWritten, c')) :
    c'.files = c.files ∧ (e.Accepted c.world.terminal file → isWritten = true) := by
  unfold mayWrite at h
  obtain ⟨_, c₁, hconsole, h⟩ := run_bind_eq_ok.mp h
  cases hconsole
  split at h
  next hask =>
    simp only [Bool.and_eq_true, Bool.not_eq_true'] at hask
    obtain ⟨overwrite, c₁, hrun, h⟩ := run_bind_eq_ok.mp h
    obtain ⟨hanswer, rfl⟩ := Action.run_ask_eq_ok.mp hrun
    cases overwrite with
    | true =>
      cases h
      exact ⟨rfl, fun _ => rfl⟩
    | false =>
      obtain ⟨⟨⟩, c₂, htell, h⟩ := run_bind_eq_ok.mp h
      cases h
      have hfiles : c'.files = (c.ask file).files := Action.files_of_tell htell
      refine ⟨hfiles, fun haccepted => ?_⟩
      exact absurd hanswer (haccepted hask.2 hask.1.2 c.asked)
  next =>
    cases h
    exact ⟨rfl, fun _ => rfl⟩

/-- A file is written as it is meant to be, or left as it was if that was asked for. -/
theorem writeStub_ok {isWritten : Bool} (h : (e.writeStub file text).run c = (.ok isWritten, c')) :
    (isWritten = false ∧ c'.files = c.files ∧ ¬ e.Accepted c.world.terminal file) ∨
      (isWritten = true ∧ ∃ c₁, c₁.files = c.files ∧ (putStub file text).run c₁ = (.ok (), c')) := by
  unfold writeStub at h
  obtain ⟨answer, c₁, hmay, h⟩ := run_bind_eq_ok.mp h
  obtain ⟨hfiles, haccepted⟩ := mayWrite_ok hmay
  cases answer with
  | false =>
    cases h
    exact Or.inl ⟨rfl, hfiles, fun h => Bool.false_ne_true (haccepted h)⟩
  | true =>
    obtain ⟨⟨⟩, c₂, hput, h⟩ := run_bind_eq_ok.mp h
    cases h
    exact Or.inr ⟨rfl, c₁, hfiles, hput⟩

theorem keepsTerminal_writeStub (e : StubWriter) (file : Path) (text : String) :
    Action.KeepsTerminal (e.writeStub file text) := by
  have hmay : Action.Quiet (e.mayWrite file) := by
    unfold mayWrite
    refine Action.quiet_console.bind fun c => ?_
    split
    · refine (Action.quiet_ask _ _).bind fun overwrite => ?_
      cases overwrite with
      | true => exact Action.quiet_pure true
      | false => exact (Action.quiet_tell _).bind fun _ => Action.quiet_pure false
    · exact Action.quiet_pure true
  unfold writeStub
  refine hmay.keepsTerminal.bind fun isWritten => ?_
  cases isWritten with
  | false => exact (Action.quiet_pure false).keepsTerminal
  | true =>
    exact (keepsTerminal_putStub file text).bind fun _ => (Action.quiet_pure true).keepsTerminal

theorem vendorLicenses_ok (h : (e.vendorLicenses root s).run c = (.ok (), c')) :
    ∃ c₁, c₁.files = c.files ∧ (copyLicenses (root / s.stub.package)
      (licensesOf c.files s.packageDir s.moduleDir)).run c₁ = (.ok (), c') := by
  unfold vendorLicenses at h
  obtain ⟨_, c₁, hconsole, h⟩ := run_bind_eq_ok.mp h
  cases hconsole
  dsimp only at h
  split at h
  · obtain ⟨⟨⟩, c₁, htell, h⟩ := run_bind_eq_ok.mp h
    exact ⟨c₁, Action.files_of_tell htell, h⟩
  · exact ⟨c, rfl, h⟩

/-- A stub is left out if that was asked for; otherwise it is written, and then its licences. -/
theorem vendorStub_steps (h : (e.vendorStub root s text).run c = (.ok (), c')) :
    (c'.files = c.files ∧ ¬ e.Accepted c.world.terminal (stubPath root s)) ∨
      ∃ c₁ c₂ c₃, c₁.files = c.files ∧ (putStub (stubPath root s) text).run c₁ = (.ok (), c₂) ∧
        c₃.files = c₂.files ∧ (copyLicenses (root / s.stub.package)
          (licensesOf c₂.files s.packageDir s.moduleDir)).run c₃ = (.ok (), c') := by
  unfold vendorStub at h
  obtain ⟨isWritten, c₂, hwrite, h⟩ := run_bind_eq_ok.mp h
  rcases writeStub_ok hwrite with ⟨rfl, hfiles, hdeclined⟩ | ⟨rfl, c₁, hfiles, hput⟩
  · cases h
    exact Or.inl ⟨hfiles, hdeclined⟩
  · obtain ⟨c₃, hfiles₃, hcopy⟩ := vendorLicenses_ok h
    exact Or.inr ⟨c₁, c₂, c₃, hfiles, hput, hfiles₃, hcopy⟩

theorem keepsTerminal_vendorStub (e : StubWriter) (root : Path) (s : SourcedStub) (text : String) :
    Action.KeepsTerminal (e.vendorStub root s text) := by
  have hlicenses : Action.KeepsTerminal (e.vendorLicenses root s) := by
    unfold vendorLicenses
    refine Action.quiet_console.keepsTerminal.bind fun c => ?_
    dsimp only
    split
    · exact (Action.quiet_tell _).keepsTerminal.bind fun _ => keepsTerminal_copyLicenses _ _
    · exact keepsTerminal_copyLicenses _ _
  unfold vendorStub
  refine (keepsTerminal_writeStub e _ text).bind fun isWritten => ?_
  cases isWritten with
  | false => exact (Action.quiet_pure ()).keepsTerminal
  | true => exact hlicenses

theorem keepsTerminal_vendorStubs (e : StubWriter) (root : Path)
    (texts : List (SourcedStub × String)) : Action.KeepsTerminal (e.vendorStubs root texts) := by
  induction texts with
  | nil => exact (Action.quiet_pure ()).keepsTerminal
  | cons first rest ih =>
    exact (keepsTerminal_vendorStub e root first.1 first.2).bind fun _ => ih

theorem vendorStub_ok (hwf : t.WellFormed) (hedits : Edits (Vendored t root stubs stubs) t c.files)
    (hs : s ∈ stubs) (h : (e.vendorStub root s text).run c = (.ok (), c')) :
    Edits (Vendored t root stubs [s]) c.files c'.files ∧
      (e.Accepted c.world.terminal (stubPath root s) →
        c'.files.readBytes (stubPath root s) = .ok text.toUTF8) := by
  rcases vendorStub_steps h with ⟨hfiles, hdeclined⟩ | ⟨c₁, c₂, c₃, hfiles, hput, hfiles₃, hcopy⟩
  · exact ⟨hfiles ▸ .refl _, fun haccepted => absurd haccepted hdeclined⟩
  obtain ⟨hstub, hread⟩ := putStub_ok hput
  rw [hfiles] at hstub
  have hstub : Edits (Vendored t root stubs [s]) c.files c₂.files := by
    refine hstub.mono ?_
    rintro l rfl
    exact ⟨s, List.mem_cons_self, Or.inl (FileTree.place_congr hedits.current _)⟩
  have hedits₂ : Edits (Vendored t root stubs stubs) t c₂.files := by
    refine hedits.trans (hstub.mono ?_)
    rintro l ⟨other, hother, hl⟩
    exact ⟨other, List.mem_singleton.mp hother ▸ hs, hl⟩
  have hcopy := edits_copyLicenses hcopy
  rw [hfiles₃] at hcopy
  constructor
  · refine hstub.trans (hcopy.mono ?_)
    rintro l ⟨license, hmem, name, hname, rfl⟩
    exact ⟨s, List.mem_cons_self, Or.inr ⟨name,
      licenseOf_of_mem_licensesOf hwf hedits₂ hs hmem hname,
      FileTree.place_congr hedits₂.current _⟩⟩
  · intro _
    refine hcopy.readBytes_ok hread ?_
    rintro ⟨license, hmem, name, hname, hplace⟩
    have hlicense := licenseOf_of_mem_licensesOf hwf hedits₂ hs hmem hname
    have hlast := congrArg List.getLast? hplace
    rw [stubPath, FileTree.getLast?_place_div isEntryName_stubFileName,
      FileTree.getLast?_place_div (hlicense.isEntryName hwf)] at hlast
    cases hlast
    cases hlicense.1.symm.trans isLicenseName_stubFileName

/-- The stubs are written one after the other. All that are not declined are there at the end, and
one that lies at a place of its own is as it was written. -/
theorem vendorStubs_ok (hwf : t.WellFormed)
    (hedits : Edits (Vendored t root stubs stubs) t c.files)
    (htexts : ∀ x ∈ texts, x.1 ∈ stubs) (h : (e.vendorStubs root texts).run c = (.ok (), c')) :
    Edits (Vendored t root stubs (texts.map (·.1))) c.files c'.files ∧
      (∀ x ∈ texts, e.Accepted c.world.terminal (stubPath root x.1) →
        ∃ content, c'.files.readBytes (stubPath root x.1) = .ok content) ∧
      ((texts.map fun x => t.place (stubPath root x.1)).Nodup →
        ∀ x ∈ texts, e.Accepted c.world.terminal (stubPath root x.1) →
          c'.files.readBytes (stubPath root x.1) = .ok x.2.toUTF8) := by
  induction texts generalizing c with
  | nil =>
    cases h
    exact ⟨.refl _, fun x hx => absurd hx List.not_mem_nil,
      fun _ x hx => absurd hx List.not_mem_nil⟩
  | cons first rest ih =>
    obtain ⟨s, text⟩ := first
    obtain ⟨⟨⟩, c₁, hfirst, hrest⟩ := run_bind_eq_ok.mp h
    have hs : s ∈ stubs := htexts (s, text) List.mem_cons_self
    obtain ⟨hstub, hread⟩ := vendorStub_ok hwf hedits hs hfirst
    have hedits₁ : Edits (Vendored t root stubs stubs) t c₁.files := by
      refine hedits.trans (hstub.mono ?_)
      rintro l ⟨other, hother, hl⟩
      exact ⟨other, List.mem_singleton.mp hother ▸ hs, hl⟩
    obtain ⟨hlater, hthere, hreads⟩ :=
      ih hedits₁ (fun x hx => htexts x (List.mem_cons_of_mem _ hx)) hrest
    have hterminal : c₁.world.terminal = c.world.terminal := by
      have hkept := keepsTerminal_vendorStub e root s text c
      rwa [hfirst] at hkept
    rw [hterminal] at hthere hreads
    refine ⟨?_, fun x hx haccepted => ?_, ?_⟩
    · refine (hstub.mono ?_).trans (hlater.mono ?_)
      · rintro l ⟨other, hother, hl⟩
        exact ⟨other, List.mem_singleton.mp hother ▸ List.mem_cons_self, hl⟩
      · rintro l ⟨other, hother, hl⟩
        exact ⟨other, List.mem_cons_of_mem _ hother, hl⟩
    · rcases List.mem_cons.mp hx with rfl | hx
      · exact hlater.exists_readBytes (hread haccepted)
      · exact hthere x hx haccepted
    · intro hdistinct x hx haccepted
      obtain ⟨hnot, hdistinct⟩ := List.nodup_cons.mp hdistinct
      rcases List.mem_cons.mp hx with rfl | hx
      · refine hlater.readBytes_ok (hread haccepted) ?_
        rw [FileTree.place_congr hedits₁.current]
        rintro ⟨other, hother, hplace | ⟨name, hname, hplace⟩⟩
        · obtain ⟨y, hy, rfl⟩ := List.mem_map.mp hother
          exact hnot (List.mem_map.mpr ⟨y, hy, hplace.symm⟩)
        · have hlast := congrArg List.getLast? hplace
          rw [stubPath, FileTree.getLast?_place_div isEntryName_stubFileName,
            FileTree.getLast?_place_div (hname.isEntryName hwf)] at hlast
          cases hlast
          cases hname.1.symm.trans isLicenseName_stubFileName
      · exact hreads hdistinct x hx haccepted

/-- The tree that stubs are written to: with force, without what was at the root before. -/
def startTree (e : StubWriter) (root : Path) (t : FileTree) : FileTree :=
  if e.force && t.exists? root then t.remove (t.place root) else t

end StubWriter

theorem files_of_removeRoot (h : (removeRoot root).run c = (.ok (), c')) :
    c'.files = if c.files.exists? root then c.files.remove (c.files.place root) else c.files := by
  unfold removeRoot at h
  obtain ⟨_, c₁, hconsole, h⟩ := run_bind_eq_ok.mp h
  cases hconsole
  split at h
  next hexists =>
    obtain ⟨⟨⟩, c₂, htell, h⟩ := run_bind_eq_ok.mp h
    have hc := Action.files_of_tell htell
    rw [if_pos hexists, ← hc]
    rw [ExceptT.run_mk] at h
    split at h
    next files hremove =>
      cases h
      unfold FileTree.removeDirectory at hremove
      split at hremove
      · cases hremove
      · cases hremove
      next l hfind =>
        split at hremove
        · cases hremove
        · cases hremove
          rw [FileTree.eq_place_of_find hfind]
          rfl
    next => cases h
  next hexists =>
    cases h
    rw [if_neg hexists]

theorem keepsTerminal_removeRoot (root : Path) : Action.KeepsTerminal (removeRoot root) := by
  unfold removeRoot
  refine Action.quiet_console.keepsTerminal.bind fun c => ?_
  split
  · refine (Action.quiet_tell _).keepsTerminal.bind fun _ c => ?_
    rw [ExceptT.run_mk]
    split <;> rfl
  · exact (Action.quiet_pure ()).keepsTerminal

theorem writeModules_ok {n : Nat} (h : (writeModules root).run c = (.ok n, c')) :
    n = (packagesBelow c.files root).length ∧ ∃ t₁, c.files.createDirectories root = .ok t₁ ∧
      t₁.write (root / modulesFileName) (modulesText (packagesBelow c.files root)).toUTF8 =
        .ok c'.files := by
  unfold writeModules at h
  obtain ⟨_, c₁, hconsole, h⟩ := run_bind_eq_ok.mp h
  cases hconsole
  obtain ⟨⟨⟩, c₁, hcreate, h⟩ := run_bind_eq_ok.mp h
  obtain ⟨t₁, ht₁, rfl⟩ := Action.run_change_eq_ok.mp hcreate
  obtain ⟨⟨⟩, c₂, hwrite, h⟩ := run_bind_eq_ok.mp h
  obtain ⟨t₂, ht₂, rfl⟩ := Action.run_change_eq_ok.mp hwrite
  cases h
  exact ⟨rfl, t₁, ht₁, ht₂⟩

namespace StubWriter

variable {e : StubWriter} {texts : List (SourcedStub × String)}

theorem startTree_wellFormed (h : t.WellFormed) : (e.startTree root t).WellFormed := by
  unfold startTree
  split
  · exact h.remove _
  · exact h

theorem startTree_current : (e.startTree root t).current = t.current := by
  unfold startTree
  split <;> rfl

/-- The body of a stub file: the text of the stub, formatted if that is asked for. -/
def IsBody (e : StubWriter) (w : World) (s : SourcedStub) (body : String) : Prop :=
  if e.format then formatted w s.stub.text = .ok body else body = s.stub.text

theorem exists_body_of_fileText {w : World} (h : e.fileText w s = .ok text) :
    ∃ body, e.IsBody w s body ∧ text = header s.stub.package s.request e.copyright ++ body := by
  unfold fileText at h
  unfold IsBody
  dsimp only at h
  split at h
  next hformat =>
    split at h
    next body hbody =>
      cases h
      exact ⟨body, by rw [if_pos hformat, hbody], rfl⟩
    next => cases h
  next hformat =>
    cases h
    exact ⟨s.stub.text, by rw [if_neg hformat], rfl⟩

theorem fileTexts_ok {w : World} (h : e.fileTexts w stubs = .ok texts) :
    texts.map (·.1) = stubs ∧ ∀ x ∈ texts, e.fileText w x.1 = .ok x.2 := by
  induction stubs generalizing texts with
  | nil =>
    cases h
    exact ⟨rfl, fun x hx => absurd hx List.not_mem_nil⟩
  | cons s rest ih =>
    obtain ⟨text, htext, h⟩ := Except.bind_eq_ok.mp h
    obtain ⟨later, hlater, h⟩ := Except.bind_eq_ok.mp h
    obtain rfl := Except.pure_eq_ok.mp h
    obtain ⟨hstubs, htexts⟩ := ih hlater
    refine ⟨by rw [List.map_cons, hstubs], fun x hx => ?_⟩
    rcases List.mem_cons.mp hx with rfl | hx
    · exact htext
    · exact htexts x hx

theorem vendorAll_ok (h : (e.vendorAll root texts).run c = (.ok (), c')) :
    ∃ c₁ c₂ n, c₁.files = e.startTree root c.files ∧
      c₁.world.terminal = c.world.terminal ∧
      (e.vendorStubs root texts).run c₁ = (.ok (), c₂) ∧
      (writeModules root).run c₂ = (.ok n, c') := by
  have hrest {c₁ : Console} (hc₁ : c₁.files = e.startTree root c.files)
      (hterminal : c₁.world.terminal = c.world.terminal) (h : ((do
        e.vendorStubs root texts
        let _ ← writeModules root) : Action WriteFault Unit).run c₁ = (.ok (), c')) :
      ∃ c₁ c₂ n, c₁.files = e.startTree root c.files ∧
        c₁.world.terminal = c.world.terminal ∧
        (e.vendorStubs root texts).run c₁ = (.ok (), c₂) ∧
        (writeModules root).run c₂ = (.ok n, c') := by
    obtain ⟨⟨⟩, c₂, hstubs, h⟩ := run_bind_eq_ok.mp h
    obtain ⟨n, c₃, hmodules, h⟩ := run_bind_eq_ok.mp h
    cases h
    exact ⟨c₁, c₂, n, hc₁, hterminal, hstubs, hmodules⟩
  unfold vendorAll at h
  split at h
  next hforce =>
    obtain ⟨⟨⟩, c₁, hremove, h⟩ := run_bind_eq_ok.mp h
    have hterminal := keepsTerminal_removeRoot root c
    rw [hremove] at hterminal
    refine hrest ?_ hterminal h
    rw [files_of_removeRoot hremove, startTree, hforce, Bool.true_and]
  next hforce =>
    refine hrest ?_ rfl h
    simp [startTree, hforce]

/-- With a vendor tree as destination, the tree is filled with the texts of the stubs. -/
theorem writeAll_ok (hdest : e.destination = .vendor root)
    (h : (e.writeAll stubs).run c = (.ok (), c')) :
    ∃ texts, texts.map (·.1) = stubs ∧ (∀ x ∈ texts, e.fileText c.world x.1 = .ok x.2) ∧
      (e.vendorAll root texts).run c = (.ok (), c') := by
  unfold writeAll at h
  obtain ⟨_, c₁, hconsole, h⟩ := run_bind_eq_ok.mp h
  cases hconsole
  obtain ⟨texts, c₁, htexts, h⟩ := run_bind_eq_ok.mp h
  cases hfiles : e.fileTexts c.world stubs with
  | error fault =>
    rw [hfiles] at htexts
    cases htexts
  | ok texts' =>
    rw [hfiles] at htexts
    cases htexts
    obtain ⟨hstubs, htext⟩ := fileTexts_ok hfiles
    unfold deliver at h
    rw [hdest, Action.run_adapt] at h
    rcases hrun : (e.vendorAll root texts).run c with ⟨fault | ⟨⟩, c₁⟩
    · rw [hrun] at h
      cases h
    · rw [hrun] at h
      cases h
      exact ⟨texts, hstubs, htext, hrun⟩

/-- Writing stubs to a vendor tree: the stubs with their licences, then the list of modules. -/
theorem writeAll_vendor_ok (hdest : e.destination = .vendor root) (hwf : c.files.WellFormed)
    (h : (e.writeAll stubs).run c = (.ok (), c')) :
    ∃ t₁ t₂, Edits (Vendored (e.startTree root c.files) root stubs stubs)
        (e.startTree root c.files) t₁ ∧
      (∀ s ∈ stubs, e.Accepted c.world.terminal (stubPath root s) →
        ∃ content, t₁.readBytes (stubPath root s) = .ok content) ∧
      ((stubs.map fun s => c.files.place (stubPath root s)).Nodup → ∀ s ∈ stubs,
        e.Accepted c.world.terminal (stubPath root s) → ∃ body, e.IsBody c.world s body ∧
          t₁.readBytes (stubPath root s) =
            .ok (header s.stub.package s.request e.copyright ++ body).toUTF8) ∧
      t₁.createDirectories root = .ok t₂ ∧
      t₂.write (root / modulesFileName) (modulesText (packagesBelow t₁ root)).toUTF8 =
        .ok c'.files := by
  obtain ⟨texts, hstubs, htext, hrun⟩ := writeAll_ok hdest h
  obtain ⟨c₁, c₂, n, hstart, hterminal, hrun, hmodules⟩ := vendorAll_ok hrun
  have hbase : Edits (Vendored (e.startTree root c.files) root stubs stubs)
      (e.startTree root c.files) c₁.files := hstart ▸ .refl _
  obtain ⟨hedits, hthere, hreads⟩ := vendorStubs_ok (startTree_wellFormed hwf) hbase
    (fun x hx => hstubs ▸ List.mem_map_of_mem hx) hrun
  rw [hterminal] at hthere hreads
  obtain ⟨-, t₂, hcreate, hwrite⟩ := writeModules_ok hmodules
  refine ⟨c₂.files, t₂, hbase.trans (hstubs ▸ hedits), fun s hs haccepted => ?_,
    fun hdistinct s hs haccepted => ?_, hcreate, hwrite⟩ <;>
    obtain ⟨x, hx, rfl⟩ := List.mem_map.mp (hstubs ▸ hs)
  · exact hthere x hx haccepted
  obtain ⟨body, hbody, htext⟩ := exists_body_of_fileText (htext x hx)
  simp only [FileTree.place_congr startTree_current] at hreads
  rw [← hstubs, List.map_map] at hdistinct
  exact ⟨body, hbody, htext ▸ hreads hdistinct x hx haccepted⟩

end StubWriter

end GoStub
