import GoStub.Json
import GoStub.Package.Scope
import GoStub.World

/-! Finding the sources of a package: in a directory, or by asking the Go tool. -/

namespace GoStub

/-- What the Go tool reports about a package. -/
structure Listing where
  importPath : String
  name : String
  dir : String
  goFiles : List String
  cgoFiles : List String
  moduleDir : Option String
  error : Option String

namespace Listing

/-- A missing or null value is none; any other must be a record with this one field. -/
def single? (name : String) : Option Json → Option (Option (Option Json))
  | none => some none
  | some .null => some none
  | some value =>
    match value.fields? [name] with
    | some [field] => some (some field)
    | _ => none

def moduleDir? (value : Option Json) : Option (Option String) := do
  match ← single? "Dir" value with
  | some (some .null) => return none
  | some (some dir) => some <$> Json.text? dir
  | _ => return none

def error? (value : Option Json) : Option (Option String) := do
  match ← single? "Err" value with
  | none => return none
  | some none => none
  | some err => some <$> Json.text? err

def ofJson? (value : Json) : Option Listing := do
  match ← value.fields? ["ImportPath", "Name", "Dir", "GoFiles", "CgoFiles", "Module", "Error"] with
  | [importPath, name, dir, goFiles, cgoFiles, module, error] =>
    return {
      importPath := ← Json.text? importPath
      name := ← Json.text? name
      dir := ← Json.text? dir
      goFiles := ← Json.texts? goFiles
      cgoFiles := ← Json.texts? cgoFiles
      moduleDir := ← moduleDir? module
      error := ← error? error }
  | _ => none

end Listing

/-- Paths in order, each once. -/
def Path.sortDistinct (paths : List Path) : List Path :=
  (paths.mergeSort Path.le).foldr
    (fun p rest =>
      match rest with
      | q :: _ => if p.cmp q = .eq then p :: rest.tail else p :: rest
      | [] => [p])
    []

/-- The package a listing describes. -/
def Listing.toPackage (listing : Listing) (importPath : String) : Except LoadFault PackageFiles :=
  match listing.error with
  | some report => .error (.toolReport (Text.strip report))
  | none =>
    let dir : Path := ⟨listing.dir⟩
    let files := Path.sortDistinct ((listing.goFiles ++ listing.cgoFiles).map fun f => dir / f)
    if files.isEmpty then .error .noSources
    else .ok {
      importPath := if listing.importPath = "" then importPath else listing.importPath
      name := if listing.name = "" then none else some listing.name
      dir := dir
      moduleDir := listing.moduleDir.map Path.mk
      files := files }

/-- Where packages come from: directories given by import path, with another source for all others,
or the Go tool, run in a directory. -/
inductive Loader
  | directories (packages : Dict Path) (fallback : Option Loader)
  | tool (command : String) (dir : Option Path)

namespace Loader

/-- How a source of packages is called. -/
def name : Loader → String
  | .directories _ _ => "directory"
  | .tool _ _ => "go-list"

/-- Whether a source is left out of every build by a line before its package clause. -/
def isLeftOut (source : String) : Bool :=
  ((Text.lines source.toList).takeWhile
      fun line => !Text.startsWith "package ".toList (Text.trimStart line)).any
    fun line =>
      let line := String.ofList (Text.trim line)
      line == "//go:build ignore" || line == "// +build ignore"

/-- Whether a file belongs to the package of its directory. -/
def isSource (files : FileTree) (path : Path) : Bool :=
  files.isFile path && path.extension? == some "go" &&
    !(path.fileName?.any fun name => Text.endsWith "_test.go".toList name.toList) &&
    !((files.readText path).toOption.any isLeftOut)

/-- The nearest directory upwards that holds a `go.mod`. -/
def moduleDir? (files : FileTree) (dir : Path) : Option Path :=
  dir.ancestors.find? fun d => files.isFile (d / "go.mod")

def loadDirectory (files : FileTree) (importPath : String) (dir : Path) :
    Except LoadFault PackageFiles :=
  match files.list dir with
  | .error fault => .error (.unreadableDirectory dir fault)
  | .ok names =>
    let sources := ((names.map fun n => dir / n).filter (isSource files)).mergeSort Path.le
    if sources.isEmpty then .error (.noSourcesIn dir)
    else .ok ⟨importPath, none, dir, moduleDir? files dir, sources⟩

/-- Asks the Go tool. A failure that still printed a listing counts as that listing. -/
def loadListing (w : World) (command : String) (dir : Option Path) (importPath : String) :
    Except LoadFault PackageFiles :=
  match w.start ⟨command, ["list", "-e", "-json", importPath], "", dir⟩ with
  | .error fault => .error (.toolNotRun command fault)
  | .ok result =>
    if result.status ≠ 0 && result.output.isEmpty then
      .error (.toolReport (Text.strip (Text.decodeLossy result.errors)))
    else
      match (Json.read? result.output).bind Listing.ofJson? with
      | none => .error (.unreadableListing "not a package listing")
      | some listing => listing.toPackage importPath

def find (w : World) (importPath : String) : Loader → Except LoadFault PackageFiles
  | .tool command dir => loadListing w command dir importPath
  | .directories packages fallback =>
    match packages.get? importPath with
    | some dir => loadDirectory w.files importPath dir
    | none =>
      match fallback with
      | some loader => find w importPath loader
      | none => .error .unmapped

/-- Finds a package. -/
def load (w : World) (loader : Loader) (importPath : String) : Except StubFault PackageFiles :=
  match loader.find w importPath with
  | .error fault => .error (.load importPath fault)
  | .ok package => .ok package

/-- Finds a package and indexes it. -/
def index (w : World) (loader : Loader) (importPath : String) : Except StubFault PackageScope := do
  PackageScope.ofFiles w.files (← loader.load w importPath)

/-- The source of packages for a run: the Go tool, with one package possibly taken from a directory.
-/
def forRun (command : String) (workDir : Path) (source : Option (String × Path)) : Loader :=
  let tool := .tool command (some workDir)
  match source with
  | some (package, dir) => .directories (.ofList [(package, dir)]) (some tool)
  | none => tool

end Loader

end GoStub
