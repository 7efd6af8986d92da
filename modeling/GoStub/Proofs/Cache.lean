import GoStub.Package.Loader
import GoStub.Proofs.Draft
import GoStub.Stub.Make

/-! Packages that were loaded before do not show. A plan made after any calls, failed ones included,
is the plan made with nothing loaded, as long as the source is consistent; a loader that is gives
such a source. -/

namespace GoStub

open Lookup

variable {source : Source}

namespace Subject

variable {t : Subject}

theorem steady_record (hs : t.source.Consistent) (isRequested : Bool) (w : Progress)
    (name : String) : Steady t.source (t.record isRequested w name) := by
  unfold record
  exact (Site.steady_draft hs).bind fun _ => steady_pure _

theorem steady_requestedRecords (hs : t.source.Consistent) (w : Progress) (names : List String) :
    Steady t.source (t.requestedRecords w names) := by
  induction names generalizing w with
  | nil => exact steady_pure _
  | cons name names ih =>
    unfold requestedRecords
    exact (steady_record hs true w name).bind fun _ => (ih _).bind fun _ => steady_pure _

theorem steady_auxiliaryRecords (hs : t.source.Consistent) (fuel : Nat) (done : Dict Record)
    (w : Progress) : Steady t.source (t.auxiliaryRecords fuel done w) := by
  induction fuel generalizing done w with
  | zero => exact steady_pure _
  | succ fuel ih =>
    unfold auxiliaryRecords
    split
    · exact steady_pure _
    · exact (steady_record hs false _ _).bind fun _ => ih _ _

end Subject

theorem steady_planFrom (hs : source.Consistent) (request : Request) (target : PackageScope) :
    Steady source (planFrom source request target) := by
  unfold planFrom
  split
  · exact steady_fail _
  · let requested := NameSet.ofNames (request.names.filter target.types.contains)
    have hfirst (w : Progress) := Subject.steady_requestedRecords
      (t := ⟨source, target, requested⟩) hs w request.names
    have hrest (w : Progress) := Subject.steady_auxiliaryRecords
      (t := ⟨source, target, requested⟩) hs (2 * target.types.size + 1) .empty w
    exact (hfirst _).bind fun first => (hrest first.2).bind fun _ => steady_pure _

theorem steady_plan (hs : source.Consistent) (request : Request) :
    Steady source (plan source request) :=
  (steady_package hs request.package).bind fun target => steady_planFrom hs request target

/-- What may be asked of one store of loaded packages. -/
inductive Call
  | load (path : String)
  | plan (request : Request)
  | planFrom (request : Request) (target : PackageScope)

namespace Call

/-- The packages loaded after a call, whether it succeeds or fails. -/
def cacheAfter (source : Source) (c : Cache) : Call → Cache
  | .load path => ((Lookup.package source path).run c).2
  | .plan request => ((GoStub.plan source request).run c).2
  | .planFrom request target => ((GoStub.planFrom source request target).run c).2

/-- The packages loaded after some calls, none being loaded before. -/
def cacheAfterAll (source : Source) (calls : List Call) : Cache :=
  calls.foldl (cacheAfter source) .empty

theorem agrees_cacheAfter (hs : source.Consistent) {c : Cache} (hc : Agrees source c)
    (call : Call) : Agrees source (call.cacheAfter source c) := by
  have hsteady {α : Type} {x : Lookup α} (hx : Steady source x) : Agrees source (x.run c).2 := by
    obtain ⟨r, hr⟩ := hx
    exact (hr c hc).2
  cases call with
  | load path => exact hsteady (steady_package hs path)
  | plan request => exact hsteady (steady_plan hs request)
  | planFrom request target => exact hsteady (steady_planFrom hs request target)

theorem agrees_cacheAfterAll (hs : source.Consistent) (calls : List Call) :
    Agrees source (cacheAfterAll source calls) := by
  have hfold (c : Cache) (hc : Agrees source c) :
      Agrees source (calls.foldl (cacheAfter source) c) := by
    induction calls generalizing c with
    | nil => exact hc
    | cons call calls ih => exact ih _ (agrees_cacheAfter hs hc call)
  exact hfold .empty (agrees_empty source)

end Call

/-- After the packages of a consistent source have been loaded, a look-up gives what it gives when
nothing is loaded. -/
theorem Lookup.Steady.run_eq_fresh {α : Type} {x : Lookup α} {c : Cache} (hx : Steady source x)
    (hc : Agrees source c) : (x.run c).1 = (x.run .empty).1 := by
  obtain ⟨r, hr⟩ := hx
  rw [(hr c hc).1, (hr .empty (agrees_empty source)).1]

/-- A stub is the text of a plan of the package that was asked for. -/
theorem exists_plan_of_makeStub {request : Request} {made : SourcedStub}
    (h : makeStub source request = .ok made) :
    ∃ target p c c', source request.package = .ok target ∧
      (Lookup.package source request.package).Yields .empty target c ∧
      (planFrom source request target).Yields c p c' ∧ Stub.ofPlan p = .ok made.stub ∧
      made.request = request := by
  have hrun : (stubFor source request).Yields .empty made ((stubFor source request).run .empty).2 :=
    Prod.ext h rfl
  obtain ⟨target, c, hloaded, hrest⟩ := yields_bind.mp hrun
  obtain ⟨p, c', hplan, hrest⟩ := yields_bind.mp hrest
  obtain ⟨stub, hstub, hrest⟩ := yields_ofExcept_bind.mp hrest
  obtain ⟨rfl, -⟩ := yields_pure.mp hrest
  have hsource := fst_run_package (agrees_empty source) request.package
  rw [hloaded] at hsource
  exact ⟨target, p, c, c', hsource.symm, hloaded, hplan, hstub, rfl⟩

/-- A stub is made by planning with nothing loaded and writing the plan out. -/
theorem makeStub_stub (source : Source) (request : Request) :
    (makeStub source request).map (·.stub) =
      ((plan source request).run .empty).1 >>= Stub.ofPlan := by
  unfold makeStub stubFor plan
  rw [run_bind, run_bind]
  rcases (Lookup.package source request.package).run .empty with ⟨e | target, c₁⟩
  · rfl
  · dsimp only
    rw [run_bind]
    rcases (planFrom source request target).run c₁ with ⟨e | p, c₂⟩
    · rfl
    · change _ = Stub.ofPlan p
      dsimp only
      rw [run_bind]
      cases Stub.ofPlan p with
      | error e => rfl
      | ok stub => rfl

namespace PackageScope

theorem importPath_declare (p : PackageScope) (d : Declaration) :
    (p.declare d).importPath = p.importPath := by
  cases d <;> rfl

theorem importPath_declareFile (p : PackageScope) (file : Syntax.SourceFile) :
    (p.declareFile file).importPath = p.importPath := by
  have hfold (decls : List Declaration) (p : PackageScope) :
      (decls.foldl declare p).importPath = p.importPath := by
    induction decls generalizing p with
    | nil => rfl
    | cons d decls ih => rw [List.foldl_cons, ih, importPath_declare]
  unfold declareFile
  exact hfold _ p

theorem importPath_declareFiles {files : FileTree} {p p' : PackageScope} {paths : List Path}
    (h : declareFiles files p paths = .ok p') : p'.importPath = p.importPath := by
  induction paths generalizing p with
  | nil =>
    cases h
    rfl
  | cons path paths ih =>
    unfold declareFiles at h
    split at h
    · cases h
    · dsimp only at h
      split at h
      · cases h
      next name _ =>
        generalize hq : (if p.name = "" then { p with name := name } else p) = q at h
        have hnamed : q.importPath = p.importPath := by
          subst hq
          split <;> rfl
        split at h
        · rw [ih h, importPath_declareFile, hnamed]
        · rw [ih h, hnamed]

/-- A package is indexed under the path it was found to have. -/
theorem importPath_ofFiles {files : FileTree} {package : PackageFiles} {p : PackageScope}
    (h : ofFiles files package = .ok p) : p.importPath = package.importPath := by
  unfold ofFiles at h
  split at h
  · cases h
  next p' hp' =>
    split at h
    · cases h
    · cases h
      exact importPath_declareFiles hp'

end PackageScope

namespace Loader

variable {w : World} {loader : Loader}

/-- A package that is found is found again, the same, under the path it says it has. -/
def Consistent (w : World) (loader : Loader) : Prop :=
  ∀ path package, loader.load w path = .ok package → loader.load w package.importPath = .ok package

theorem Consistent.index (h : loader.Consistent w) : Source.Consistent (loader.index w) := by
  intro path p hp
  obtain ⟨package, hfound, hp⟩ := Except.bind_eq_ok.mp hp
  rw [PackageScope.importPath_ofFiles hp]
  exact Except.bind_eq_ok.mpr ⟨package, h path package hfound, hp⟩

/-- Directories that are given by import path make a consistent loader. -/
theorem consistent_directories (w : World) (packages : Dict Path) :
    (directories packages none).Consistent w := by
  intro path package h
  have hpath : package.importPath = path := by
    unfold load find at h
    cases hdir : packages.get? path with
    | none => simp [hdir] at h
    | some dir =>
      simp only [hdir, loadDirectory] at h
      split at h
      · cases h
      next package' hfound =>
        split at hfound
        · cases hfound
        · split at hfound
          · cases hfound
          · cases hfound
            cases h
            rfl
  rw [hpath, h]

end Loader

/-- After any calls on one store of loaded packages, the next plan is the one made with nothing
loaded, or fails alike; written out, it is the stub that the request has. -/
theorem plan_after_calls_eq_fresh (hs : source.Consistent) (calls : List Call)
    (request : Request) :
    ((plan source request).run (Call.cacheAfterAll source calls)).1 =
        ((plan source request).run .empty).1 ∧
      ((plan source request).run (Call.cacheAfterAll source calls)).1 >>= Stub.ofPlan =
        (makeStub source request).map (·.stub) := by
  have hplan := (steady_plan hs request).run_eq_fresh (Call.agrees_cacheAfterAll hs calls)
  exact ⟨hplan, by rw [hplan, makeStub_stub]⟩

/-- A directory with one package. -/
def stallWorld : World :=
  .ofFiles ⟨[(["stall"], .directory), (["stall", "stall.go"],
    .file "package stall\n\ntype Crate int\n\nfunc Open() Crate\n".toUTF8)], []⟩

def stallSource : Source :=
  (Loader.directories (.ofList [("example.com/stall", ⟨"stall"⟩)]) none).index stallWorld

/-- A package that is not there, a symbol that is not declared, and a plan that is made. -/
def stallCalls : List Call :=
  [.load "example.com/crate", .plan (.ofNames "example.com/stall" ["Cart"] []),
    .plan (.ofNames "example.com/stall" ["Crate"] [])]

theorem stall_plan_after_calls :
    stallSource.Consistent ∧
      ∃ p, p.records.map (·.name) = ["Open", "Crate"] ∧
        ((plan stallSource (.ofNames "example.com/stall" [] ["Open"])).run
          (Call.cacheAfterAll stallSource stallCalls)).1 = .ok p ∧
        (makeStub stallSource (.ofNames "example.com/stall" [] ["Open"])).map (·.stub) =
          Stub.ofPlan p := by
  have hconsistent : stallSource.Consistent := (Loader.consistent_directories _ _).index
  have hrun : (((plan stallSource (.ofNames "example.com/stall" [] ["Open"])).run
      .empty).1.toOption.map fun p => p.records.map (·.name)) = some ["Open", "Crate"] := by
    decide +kernel
  obtain ⟨p, c', h, hnames⟩ := Lookup.exists_yields hrun
  obtain ⟨hfresh, hstub⟩ := plan_after_calls_eq_fresh hconsistent stallCalls
    (.ofNames "example.com/stall" [] ["Open"])
  have hplan : ((plan stallSource (.ofNames "example.com/stall" [] ["Open"])).run
      (Call.cacheAfterAll stallSource stallCalls)).1 = .ok p := by
    rw [hfresh, h]
  refine ⟨hconsistent, p, hnames, hplan, ?_⟩
  rw [← hstub, hplan]
  rfl

end GoStub
