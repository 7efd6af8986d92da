import GoStub.Command
import GoStub.Proofs.Lookup

/-! Commands that fail before they write leave everything as it was: whatever can go wrong with the
scan, the packages, the formatter or the options goes wrong before the first file is touched. What
goes wrong later is a file operation, or a question about a file that is there already. -/

namespace GoStub

/-- Nothing but standard error has changed. -/
structure Console.Untouched (c c' : Console) : Prop where
  world : c'.world = c.world
  output : c'.output = c.output

namespace Console.Untouched

variable {c c₁ c₂ : Console}

theorem refl (c : Console) : c.Untouched c :=
  ⟨rfl, rfl⟩

theorem trans (h₁ : c.Untouched c₁) (h₂ : c₁.Untouched c₂) : c.Untouched c₂ :=
  ⟨h₂.world.trans h₁.world, h₂.output.trans h₁.output⟩

end Console.Untouched

namespace Action

variable {ε δ α β : Type}

theorem run_adapt (wrap : δ → ε) (x : Action δ α) (c : Console) :
    (x.adapt wrap).run c = ((x.run c).1.mapError wrap, (x.run c).2) :=
  rfl

/-- An action that does nothing but report on standard error, whether it succeeds or fails. -/
def Quiet (x : Action ε α) : Prop :=
  ∀ c : Console, c.Untouched (x.run c).2

/-- An action that succeeds on every console. -/
def Succeeds (x : Action ε α) : Prop :=
  ∀ c : Console, ∃ a c', x.run c = (.ok a, c')

/-- An action that, when it fails for another reason than those in `late`, has done nothing but
report on standard error. What counts as late may depend on the world the action starts in. -/
def CleanUnless (late : World → ε → Prop) (x : Action ε α) : Prop :=
  ∀ (c : Console) e c', x.run c = (.error e, c') → ¬ late c.world e → c.Untouched c'

/-- An action that fails for no other reasons than those in `reason`. -/
def FailsOnly (reason : ε → Prop) (x : Action ε α) : Prop :=
  ∀ (c : Console) e c', x.run c = (.error e, c') → reason e

/-- Whether a run fails, and the failure and the console it leaves pass a test. -/
def failsWith (test : ε → Console → Bool) (x : Action ε α) (c : Console) : Bool :=
  match x.run c with
  | (.ok _, _) => false
  | (.error e, c') => test e c'

theorem exists_of_failsWith {test : ε → Console → Bool} {x : Action ε α} {c : Console}
    (h : failsWith test x c = true) : ∃ e c', x.run c = (.error e, c') ∧ test e c' = true := by
  unfold failsWith at h
  split at h
  next => cases h
  next e c' hrun => exact ⟨e, c', hrun, h⟩

theorem quiet_pure (a : α) : Quiet (pure a : Action ε α) :=
  fun c => .refl c

theorem quiet_console : Quiet (console : Action ε Console) :=
  fun c => .refl c

theorem quiet_fail (e : ε) : Quiet (fail e : Action ε α) :=
  fun c => .refl c

theorem quiet_tell (line : String) : Quiet (tell line : Action ε Unit) :=
  fun _ => ⟨rfl, rfl⟩

theorem quiet_ofExcept (wrap : δ → ε) (x : Except δ α) : Quiet (ofExcept wrap x) := by
  cases x with
  | ok a => exact quiet_pure a
  | error e => exact quiet_fail (wrap e)

theorem succeeds_pure (a : α) : Succeeds (pure a : Action ε α) :=
  fun c => ⟨a, c, rfl⟩

theorem succeeds_console : Succeeds (console : Action ε Console) :=
  fun c => ⟨c, c, rfl⟩

theorem succeeds_tell (line : String) : Succeeds (tell line : Action ε Unit) :=
  fun c => ⟨(), c.tell line, rfl⟩

theorem succeeds_print (text : String) : Succeeds (print text : Action ε Unit) :=
  fun c => ⟨(), c.print text, rfl⟩

variable {x : Action ε α} {f : α → Action ε β} {late : World → ε → Prop} {reason : ε → Prop}

theorem Quiet.bind (hx : Quiet x) (hf : ∀ a, Quiet (f a)) : Quiet (x >>= f) := by
  intro c
  have hc := hx c
  rw [run_bind]
  rcases hrun : x.run c with ⟨e | a, c₁⟩
  · rw [hrun] at hc
    exact hc
  · rw [hrun] at hc
    exact hc.trans (hf a c₁)

theorem Quiet.cleanUnless (hx : Quiet x) : CleanUnless late x := by
  intro c e c' hrun _
  have hc := hx c
  rwa [hrun] at hc

theorem Succeeds.cleanUnless (hx : Succeeds x) : CleanUnless late x := by
  intro c e c' hrun _
  obtain ⟨a, c₁, ha⟩ := hx c
  cases ha.symm.trans hrun

/-- Reporting before an action does not spoil it. -/
theorem Quiet.bind_cleanUnless (hx : Quiet x) (hf : ∀ a, CleanUnless late (f a)) :
    CleanUnless late (x >>= f) := by
  intro c e c' h he
  have hc := hx c
  rw [run_bind] at h
  rcases hrun : x.run c with ⟨e₁ | a, c₁⟩
  · rw [hrun] at h hc
    cases h
    exact hc
  · rw [hrun] at h hc
    exact hc.trans (hf a c₁ e c' h (hc.world ▸ he))

/-- What cannot fail may follow an action. -/
theorem CleanUnless.bind_succeeds (hx : CleanUnless late x) (hf : ∀ a, Succeeds (f a)) :
    CleanUnless late (x >>= f) := by
  intro c e c' h he
  rw [run_bind] at h
  rcases hrun : x.run c with ⟨e₁ | a, c₁⟩
  · rw [hrun] at h
    cases h
    exact hx c e c' hrun he
  · rw [hrun] at h
    obtain ⟨b, c₂, hb⟩ := hf a c₁
    cases hb.symm.trans h

theorem Succeeds.failsOnly (hx : Succeeds x) : FailsOnly reason x := by
  intro c e c' hrun
  obtain ⟨a, c₁, ha⟩ := hx c
  cases ha.symm.trans hrun

theorem FailsOnly.bind (hx : FailsOnly reason x) (hf : ∀ a, FailsOnly reason (f a)) :
    FailsOnly reason (x >>= f) := by
  intro c e c' h
  rw [run_bind] at h
  rcases hrun : x.run c with ⟨e₁ | a, c₁⟩
  · rw [hrun] at h
    cases h
    exact hx c e c' hrun
  · rw [hrun] at h
    exact hf a c₁ e c' h

theorem FailsOnly.adapt {reason' : δ → Prop} {y : Action δ α} {wrap : δ → ε}
    (hy : FailsOnly reason' y) (hreason : ∀ e, reason' e → reason (wrap e)) :
    FailsOnly reason (y.adapt wrap) := by
  intro c e c' h
  rw [run_adapt] at h
  rcases hrun : y.run c with ⟨e₁ | a, c₁⟩
  · rw [hrun] at h
    cases h
    exact hreason e₁ (hy c e₁ c₁ hrun)
  · rw [hrun] at h
    cases h

theorem failsOnly_change {wrap : FileFault → ε} (h : ∀ fault, reason (wrap fault))
    (f : FileTree → Except FileFault FileTree) : FailsOnly reason (change wrap f) := by
  intro c e c' hrun
  unfold change at hrun
  rw [ExceptT.run_mk] at hrun
  split at hrun
  · cases hrun
  · cases hrun
    exact h _

theorem FailsOnly.cleanUnless (hx : FailsOnly reason x) (hlate : ∀ w e, reason e → late w e) :
    CleanUnless late x :=
  fun c e c' hrun he => absurd (hlate c.world e (hx c e c' hrun)) he

theorem CleanUnless.adapt {late' : World → δ → Prop} {y : Action δ α} {wrap : δ → ε}
    (hy : CleanUnless late' y) (hlate : ∀ w e, late' w e → late w (wrap e)) :
    CleanUnless late (y.adapt wrap) := by
  intro c e c' h he
  rw [run_adapt] at h
  rcases hrun : y.run c with ⟨e₁ | a, c₁⟩
  · rw [hrun] at h
    cases h
    exact hy c e₁ c₁ hrun fun hl => he (hlate c.world e₁ hl)
  · rw [hrun] at h
    cases h

end Action

open GoStub.Action

/-- The failure was met while stubs were being written: by a file operation, or by a question about
a file, which comes up only if somebody can be asked and nothing is forced. -/
def OutputError.IsWriteFault (force interactive : Bool) : OutputError → Prop
  | .write (.ask _ _) => force = false ∧ interactive = true
  | .write _ => True
  | _ => False

def CommandError.IsWriteFault (force interactive : Bool) : CommandError → Prop
  | .output e => e.IsWriteFault force interactive
  | _ => False

/-- A fault that a writer can meet. -/
def StubWriter.Meets (e : StubWriter) (fault : WriteFault) : Prop :=
  (OutputError.write fault).IsWriteFault e.force e.interactive

theorem failsOnly_putStub (e : StubWriter) (file : Path) (text : String) :
    FailsOnly e.Meets (putStub file text) := by
  have hwrite : FailsOnly e.Meets (do
      Action.change (.putStub file) fun t => t.write file text.toUTF8
      Action.tell ("✓ " ++ file.text)) :=
    (failsOnly_change (fun _ => trivial) _).bind fun _ => (succeeds_tell _).failsOnly
  unfold putStub
  cases file.parent? with
  | none => exact hwrite
  | some dir => exact (failsOnly_change (fun _ => trivial) _).bind fun _ => hwrite

theorem failsOnly_copyLicenses (e : StubWriter) (dir : Path) (licenses : List Path) :
    FailsOnly e.Meets (copyLicenses dir licenses) := by
  induction licenses with
  | nil => exact (succeeds_pure ()).failsOnly
  | cons license rest ih =>
    unfold copyLicenses
    cases license.fileName? with
    | none => exact ih
    | some name => exact (failsOnly_change (fun _ => trivial) _).bind fun _ => ih

theorem failsOnly_writeModules (e : StubWriter) (root : Path) :
    FailsOnly e.Meets (writeModules root) := by
  unfold writeModules
  exact succeeds_console.failsOnly.bind fun _ => (failsOnly_change (fun _ => trivial) _).bind
    fun _ => (failsOnly_change (fun _ => trivial) _).bind fun _ => (succeeds_pure _).failsOnly

theorem failsOnly_removeRoot (e : StubWriter) (root : Path) :
    FailsOnly e.Meets (removeRoot root) := by
  unfold removeRoot
  refine succeeds_console.failsOnly.bind fun c => ?_
  split
  · refine (succeeds_tell _).failsOnly.bind fun _ => ?_
    intro c e' c' hrun
    rw [ExceptT.run_mk] at hrun
    split at hrun
    · cases hrun
    · cases hrun
      trivial
  · exact (succeeds_pure ()).failsOnly

namespace StubWriter

variable (e : StubWriter)

/-- A question comes up only if somebody can be asked and nothing is forced. -/
theorem failsOnly_mayWrite (file : Path) : FailsOnly e.Meets (e.mayWrite file) := by
  unfold mayWrite
  refine succeeds_console.failsOnly.bind fun c => ?_
  split
  next hask =>
    simp only [Bool.and_eq_true, Bool.not_eq_true'] at hask
    have hquestion : FailsOnly e.Meets (Action.ask (.ask file) file) := by
      intro c e' c' hrun
      unfold Action.ask at hrun
      rw [ExceptT.run_mk] at hrun
      split at hrun
      · cases hrun
      · cases hrun
        exact ⟨hask.1.2, hask.2⟩
    refine hquestion.bind fun overwrite => ?_
    cases overwrite with
    | false => exact (succeeds_tell _).failsOnly.bind fun _ => (succeeds_pure false).failsOnly
    | true => exact (succeeds_pure true).failsOnly
  next => exact (succeeds_pure true).failsOnly

theorem failsOnly_writeStub (file : Path) (text : String) :
    FailsOnly e.Meets (e.writeStub file text) := by
  unfold writeStub
  refine (e.failsOnly_mayWrite file).bind fun isWritten => ?_
  cases isWritten with
  | false => exact (succeeds_pure false).failsOnly
  | true => exact (failsOnly_putStub e file text).bind fun _ => (succeeds_pure true).failsOnly

theorem failsOnly_vendorLicenses (root : Path) (s : SourcedStub) :
    FailsOnly e.Meets (e.vendorLicenses root s) := by
  unfold vendorLicenses
  refine succeeds_console.failsOnly.bind fun c => ?_
  dsimp only
  split
  · exact (succeeds_tell _).failsOnly.bind fun _ => failsOnly_copyLicenses e _ _
  · exact failsOnly_copyLicenses e _ _

theorem failsOnly_vendorStub (root : Path) (s : SourcedStub) (text : String) :
    FailsOnly e.Meets (e.vendorStub root s text) := by
  unfold vendorStub
  refine (e.failsOnly_writeStub _ text).bind fun isWritten => ?_
  cases isWritten with
  | false => exact (succeeds_pure ()).failsOnly
  | true => exact e.failsOnly_vendorLicenses root s

theorem failsOnly_vendorStubs (root : Path) (texts : List (SourcedStub × String)) :
    FailsOnly e.Meets (e.vendorStubs root texts) := by
  induction texts with
  | nil => exact (succeeds_pure ()).failsOnly
  | cons first rest ih => exact (e.failsOnly_vendorStub root first.1 first.2).bind fun _ => ih

theorem failsOnly_vendorAll (root : Path) (texts : List (SourcedStub × String)) :
    FailsOnly e.Meets (e.vendorAll root texts) := by
  have hfill : FailsOnly e.Meets (do
      e.vendorStubs root texts
      let _ ← writeModules root) :=
    (e.failsOnly_vendorStubs root texts).bind fun _ =>
      (failsOnly_writeModules e root).bind fun _ => (succeeds_pure ()).failsOnly
  unfold vendorAll
  split
  · exact (failsOnly_removeRoot e root).bind fun _ => hfill
  · exact hfill

theorem cleanUnless_deliver (texts : List (SourcedStub × String)) :
    CleanUnless (fun _ => OutputError.IsWriteFault e.force e.interactive) (e.deliver texts) := by
  have hwrite {α : Type} {x : Action WriteFault α} (hx : FailsOnly e.Meets x) :
      CleanUnless (fun _ => OutputError.IsWriteFault e.force e.interactive)
        (x.adapt OutputError.write) := by
    have hfails : FailsOnly (OutputError.IsWriteFault e.force e.interactive)
        (x.adapt OutputError.write) := hx.adapt fun _ h => h
    exact hfails.cleanUnless fun _ _ h => h
  unfold deliver
  cases e.destination with
  | standardOutput => exact (succeeds_print _).cleanUnless
  | file path =>
    match texts with
    | [] => exact (quiet_pure ()).cleanUnless
    | [(_, text)] =>
      exact (hwrite (e.failsOnly_writeStub path text)).bind_succeeds fun _ => succeeds_pure ()
    | _ :: _ :: _ => exact (quiet_fail _).cleanUnless
  | vendor root => exact hwrite (e.failsOnly_vendorAll root texts)

/-- All texts are made before any is written. -/
theorem cleanUnless_writeAll (stubs : List SourcedStub) :
    CleanUnless (fun _ => OutputError.IsWriteFault e.force e.interactive) (e.writeAll stubs) := by
  unfold writeAll
  exact quiet_console.bind_cleanUnless fun _ =>
    (quiet_ofExcept _ _).bind_cleanUnless fun texts => e.cleanUnless_deliver texts

/-- A writer for some options asks if the input is a terminal. -/
theorem ofOptions_ok {w : World} {o : OutputOptions} {config : Config} {workDir : Path}
    {writer : StubWriter} (h : ofOptions w o config workDir = .ok writer) :
    writer.force = o.force ∧ writer.interactive = w.terminal.isInput := by
  unfold ofOptions at h
  dsimp only at h
  split at h
  next =>
    cases h
    exact ⟨rfl, rfl⟩
  next =>
    split at h
    next =>
      cases h
      exact ⟨rfl, rfl⟩
    next => cases h

end StubWriter

namespace Command

variable (o : OutputOptions) (config : Config) (workDir : Path)

/-- What a command with some options can meet while it writes. -/
def IsLate (o : OutputOptions) (w : World) : CommandError → Prop :=
  CommandError.IsWriteFault o.force w.terminal.isInput

theorem cleanUnless_writeStubs (stubs : List SourcedStub) :
    CleanUnless (IsLate o) (writeStubs o config workDir stubs) := by
  intro c e c' h he
  have h : (ofExcept .output (StubWriter.ofOptions c.world o config workDir) >>= fun writer =>
    (writer.writeAll stubs).adapt .output).run c = (.error e, c') := h
  cases hwriter : StubWriter.ofOptions c.world o config workDir with
  | error fault =>
    rw [hwriter] at h
    cases h
    exact .refl c
  | ok writer =>
    rw [hwriter] at h
    obtain ⟨hforce, hinteractive⟩ := StubWriter.ofOptions_ok hwriter
    rw [IsLate, ← hforce, ← hinteractive] at he
    have hclean : CleanUnless (fun _ => CommandError.IsWriteFault writer.force writer.interactive)
        ((writer.writeAll stubs).adapt CommandError.output) :=
      (writer.cleanUnless_writeAll stubs).adapt fun _ _ h => h
    exact hclean c e c' h he

theorem quiet_tellAll (lines : List String) : Quiet (tellAll lines) := by
  induction lines with
  | nil => exact quiet_pure ()
  | cons line lines ih => exact (quiet_tell line).bind fun _ => ih

theorem quiet_scanUsage : Quiet (scanUsage config workDir) := by
  unfold scanUsage
  exact quiet_console.bind fun _ => (quiet_tellAll _).bind fun _ =>
    (quiet_ofExcept _ _).bind fun _ => (quiet_tellAll _).bind fun _ => quiet_pure _

theorem cleanUnless_gen (package types values : String) :
    CleanUnless (IsLate o) (gen package types values o config workDir) := by
  have hmake (request : Request) (loader : Loader) : CleanUnless (IsLate o) (do
      let stub ← Action.ofExcept (CommandError.stub package)
        (makeStub (loader.index (← Action.console).world) request)
      writeStubs o config workDir [stub]) :=
    quiet_console.bind_cleanUnless fun _ => (quiet_ofExcept _ _).bind_cleanUnless fun stub =>
      cleanUnless_writeStubs o config workDir [stub]
  unfold gen
  dsimp only
  split
  · exact (quiet_tell _).bind_cleanUnless fun _ => hmake _ _
  · exact hmake _ _

theorem cleanUnless_auto : CleanUnless (IsLate o) (auto o config workDir) := by
  have hwrite (stubs : List SourcedStub) : CleanUnless (IsLate o) (do
      writeStubs o config workDir stubs
      Action.tell ("Stubbed " ++ toString stubs.length ++ " package(s)")) :=
    (cleanUnless_writeStubs o config workDir stubs).bind_succeeds fun _ => succeeds_tell _
  unfold auto
  dsimp only
  split
  · -- the failure leaves nothing to go on with
    intro c e c' h _
    cases h
    exact .refl c
  · refine (quiet_tell _).bind_cleanUnless fun _ =>
      (quiet_scanUsage config workDir).bind_cleanUnless fun result => ?_
    split
    · exact (quiet_tell _).cleanUnless
    · exact quiet_console.bind_cleanUnless fun _ =>
        (quiet_ofExcept _ _).bind_cleanUnless fun stubs => hwrite stubs

end Command

/-- A command that fails leaves the files as they were and prints nothing, unless it fails while it
writes: by a file operation, or by a question that comes up if the input is a terminal and nothing
is forced. -/
theorem failure_leaves_no_trace {w : World} {o : OutputOptions} {config : Config} {workDir : Path}
    {e : CommandError} {c' : Console}
    (h : (∃ package types values,
        (Command.gen package types values o config workDir).run (.start w) = (.error e, c')) ∨
      (Command.auto o config workDir).run (.start w) = (.error e, c'))
    (he : ¬ e.IsWriteFault o.force w.terminal.isInput) :
    c'.files = w.files ∧ c'.output = [] := by
  have hclean : (Console.start w).Untouched c' := by
    rcases h with ⟨package, types, values, h⟩ | h
    · exact Command.cleanUnless_gen o config workDir package types values _ e c' h he
    · exact Command.cleanUnless_auto o config workDir _ e c' h he
  exact ⟨congrArg World.files hclean.world, hclean.output⟩

/-- What the Go tool says about a package in the directory `vendor`. -/
def vendorListing (name : String) : String :=
  "\x7b\"Name\": \"" ++ name ++ "\", \"Dir\": \"vendor\", \"GoFiles\": [\"" ++ name ++ ".go\"]\x7d"

/-- A module with two vendored packages, a Go tool called `go1`, a formatter that rejects the second
package, and a terminal that cannot ask. -/
def pickyWorld : World where
  files := ⟨[
    (["main.go"], .file
      "package m\nimport \"x.y/a\"\nimport \"x.y/b\"\nvar u a.T\nvar v b.T\n".toUTF8),
    (["vendor"], .directory),
    (["vendor", "a.go"], .file "package a\ntype T int\n".toUTF8),
    (["vendor", "b.go"], .file "package b\ntype T int\n".toUTF8)], []⟩
  programs i :=
    if i.program = "go1" then
      .ok ⟨0, (vendorListing (Name.ofImportPath (i.args.getLastD ""))).toUTF8, .empty⟩
    else if Text.startsWith "package b".toList i.input.toList then .ok ⟨2, .empty, .empty⟩
    else .ok ⟨0, i.input.toUTF8, .empty⟩
  terminal := ⟨true, fun _ _ => .error "IO error: not a terminal"⟩

/-- The vendor tree is to be made anew. -/
def vendorAnew : OutputOptions :=
  ⟨none, true, none, true, none⟩

/-- The Go tool is called `go1`. -/
def goOneConfig : Config :=
  { Config.default with goCommand := "go1" }

/-- The package whose stub the formatter did not take. -/
def CommandError.rejected? : CommandError → Option String
  | .output (.format package _) => some package
  | _ => none

theorem CommandError.not_isWriteFault {e : CommandError} {package : String} {force isInput : Bool}
    (h : e.rejected? = some package) : ¬ e.IsWriteFault force isInput := by
  unfold rejected? at h
  split at h
  next => exact id
  next => cases h

/-- The first stub is formatted, the second is rejected, and the vendor tree is still there. -/
theorem rejected_stub_leaves_no_trace :
    ∃ e c', (Command.auto vendorAnew goOneConfig ⟨"."⟩).run (.start pickyWorld) = (.error e, c') ∧
      e.rejected? = some "x.y/b" ∧ ¬ e.IsWriteFault true true ∧
      c'.files.isDirectory ⟨"vendor"⟩ = true ∧
      c'.files = pickyWorld.files ∧ c'.output = [] := by
  have hrun : failsWith (fun e _ => e.rejected? = some "x.y/b")
      (Command.auto vendorAnew goOneConfig ⟨"."⟩) (.start pickyWorld) = true := by
    decide +kernel
  obtain ⟨e, c', h, htest⟩ := exists_of_failsWith hrun
  have hrejected := of_decide_eq_true htest
  have he : ¬ e.IsWriteFault true true := CommandError.not_isWriteFault hrejected
  obtain ⟨hfiles, houtput⟩ := failure_leaves_no_trace (Or.inr h) he
  have hvendor : c'.files.isDirectory ⟨"vendor"⟩ = true := by
    rw [hfiles]
    decide +kernel
  exact ⟨e, c', h, hrejected, he, hvendor, hfiles, houtput⟩

/-- A package in the directory `p`, and an empty vendor tree. -/
def smallModule : FileTree :=
  ⟨[(["p"], .directory), (["p", "p.go"], .file "package p\ntype T int\n".toUTF8),
    (["vendor"], .directory)], []⟩

/-- The vendor tree is made anew from the directory `p`. -/
def vendorFromDirectory : OutputOptions :=
  { vendorAnew with source := some "p" }

/-- The module of `pickyWorld` with a stub for its second package, and no formatter. -/
def stubbedWorld : World where
  files := ⟨pickyWorld.files.entries ++ [(["vendor", "x.y"], .directory),
    (["vendor", "x.y", "b"], .directory), (["vendor", "x.y", "b", "stub.go"], .file .empty)], []⟩
  programs i := if i.program = "go1" then pickyWorld.programs i else .error (.files .notFound)
  terminal := pickyWorld.terminal

/-- The fault that a command met while it wrote. -/
def CommandError.writeFault? : CommandError → Option WriteFault
  | .output (.write fault) => some fault
  | _ => none

/-- Two failures that the system has no part in. A path with a NUL is refused once the vendor tree
is removed, and where a question cannot be asked, the stubs before it are written. -/
theorem refusal_leaves_traces :
    (∃ e c', (Command.gen "a\x00b" "T" "" vendorFromDirectory .default ⟨"."⟩).run
        (.start (.ofFiles smallModule)) = (.error e, c') ∧
      e.writeFault? = some (.createParent ⟨"./vendor/a\x00b"⟩ .nulByte) ∧
      smallModule.isDirectory ⟨"vendor"⟩ = true ∧ c'.files.exists? ⟨"vendor"⟩ = false) ∧
    ∃ e c', (Command.auto { vendorAnew with force := false } goOneConfig ⟨"."⟩).run
        (.start stubbedWorld) = (.error e, c') ∧
      e.writeFault? = some (.ask ⟨"./vendor/x.y/b/stub.go"⟩ "IO error: not a terminal") ∧
      stubbedWorld.files.exists? ⟨"vendor/x.y/a"⟩ = false ∧
      c'.files.isFile ⟨"vendor/x.y/a/stub.go"⟩ = true := by
  have hrefused : failsWith (fun e c' =>
      e.writeFault? = some (.createParent ⟨"./vendor/a\x00b"⟩ .nulByte) ∧
        c'.files.exists? ⟨"vendor"⟩ = false)
      (Command.gen "a\x00b" "T" "" vendorFromDirectory .default ⟨"."⟩)
      (.start (.ofFiles smallModule)) = true := by
    decide +kernel
  have hunasked : failsWith (fun e c' =>
      e.writeFault? = some (.ask ⟨"./vendor/x.y/b/stub.go"⟩ "IO error: not a terminal") ∧
        c'.files.isFile ⟨"vendor/x.y/a/stub.go"⟩ = true)
      (Command.auto { vendorAnew with force := false } goOneConfig ⟨"."⟩)
      (.start stubbedWorld) = true := by
    decide +kernel
  obtain ⟨e, c', h, htest⟩ := exists_of_failsWith hrefused
  obtain ⟨hfault, hgone⟩ := of_decide_eq_true htest
  obtain ⟨e₁, c₁, h₁, htest₁⟩ := exists_of_failsWith hunasked
  obtain ⟨hfault₁, hwritten⟩ := of_decide_eq_true htest₁
  exact ⟨⟨e, c', h, hfault, by decide +kernel, hgone⟩,
    e₁, c₁, h₁, hfault₁, by decide +kernel, hwritten⟩

end GoStub
