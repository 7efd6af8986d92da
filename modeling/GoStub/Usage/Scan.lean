import GoStub.Ignore.Rules
import GoStub.Package.Loader
import GoStub.Syntax.Readings
import GoStub.Usage.Table

/-! Scanning a source tree for the packages it uses. -/

namespace GoStub

structure ScanSettings where
  includeTests : Bool
  excludeDirs : List String

/-- Why a tree cannot be scanned. -/
inductive ScanError
  | notDirectory (root : Path)
  | unreadable (file : Path) (fault : FileFault)
  deriving DecidableEq

def ScanError.message : ScanError → String
  | .notDirectory ⟨root⟩ => s!"{root} is not a directory"
  | .unreadable ⟨file⟩ fault => s!"Failed to read {file}: " ++ fault.message

/-- A dot import of an external package. -/
structure DotImport where
  file : Path
  line : Nat
  package : String
  deriving DecidableEq

def DotImport.message (d : DotImport) : String :=
  " WARN dot import cannot be attributed file=" ++ d.file.text ++ " line=" ++ toString d.line ++
    " package=" ++ d.package

structure ScanReport where
  index : UsageTable
  ambiguous : List Ambiguous
  files : Nat
  module : Option String

/-- The module path after `module` at the start of a text. -/
def moduleHere? (cs : List Char) : Option (List Char) :=
  match Text.dropPrefix? "module".toList (Text.trimStart cs) with
  | none => none
  | some rest =>
    match rest with
    | c :: _ =>
      if Text.isBlank c then
        let rest := Text.trimStart rest
        let rest := (Text.dropPrefix? ['"'] rest).getD rest
        let path := rest.takeWhile fun c => !Text.isBlank c && c ≠ '"'
        if path.isEmpty then none else some path
      else none
    | [] => none

/-- The texts that start at the beginning of a line. -/
def lineStarts (cs : List Char) : List (List Char) :=
  cs :: go cs
where
  go : List Char → List (List Char)
    | [] => []
    | c :: rest => if c = '\n' then rest :: go rest else go rest

/-- The module path a `go.mod` declares. -/
def declaredModule? (content : String) : Option String :=
  ((lineStarts content.toList).findSome? moduleHere?).map String.ofList

/-- Whether a package is outside both the standard library and the module. -/
def isThirdParty (path : String) (module : Option String) : Bool :=
  !Name.isStandard path &&
    match module with
    | some module => !(path == module || Text.startsWith (module ++ "/").toList path.toList)
    | none => true

/-- A line that marks a source as generated. -/
def isGeneratedMark (line : List Char) : Bool :=
  match Text.dropPrefix? "// Code generated ".toList (Text.trimEnd line) with
  | some rest => Text.endsWith " DO NOT EDIT.".toList rest
  | none => false

/-- Whether such a line stands before the package clause. -/
def isMarkedGenerated (source : String) : Bool :=
  ((Text.lines source.toList).takeWhile
    fun line => !Text.startsWith "package ".toList line).any isGeneratedMark

/-- Whether a directory below the root is looked into. -/
def ScanSettings.entersDirectory (o : ScanSettings) (name : String) : Bool :=
  !(name == "vendor" || name == "testdata" || Text.startsWith ['_'] name.toList ||
    Text.startsWith ['.'] name.toList || o.excludeDirs.contains name)

/-- Whether an entry below the root is visited. -/
def ScanSettings.visits (o : ScanSettings) (tree : FileTree) (w : Ignore.Walk) (l : Location)
    (isDir : Bool) : Bool :=
  !Ignore.isIgnored tree w l isDir && (!isDir || l.getLast?.all o.entersDirectory)

/-- Whether a file below the root is reached: all directories on the way and the file are visited.
-/
def ScanSettings.reaches (o : ScanSettings) (tree : FileTree) (w : Ignore.Walk) (l : Location) :
    Bool :=
  ((List.range (l.length - w.base.length)).all fun n =>
    n = 0 || o.visits tree w (l.take (w.base.length + n)) true) && o.visits tree w l false

/-- Whether a file is a source to scan. -/
def ScanSettings.wants (o : ScanSettings) (path : Path) : Bool :=
  path.extension? == some "go" &&
    (o.includeTests ||
      !(path.fileName?.any fun name => Text.endsWith "_test.go".toList name.toList))

/-- The sources below a directory, in order. -/
def scannedFiles (o : ScanSettings) (tree : FileTree) (root : Path) : List Path :=
  match tree.locate root with
  | .error _ => []
  | .ok base =>
    let found := tree.entries.filterMap fun (l, node) =>
      match node with
      | .directory => none
      | .file _ =>
        let walk : Ignore.Walk := ⟨root, base⟩
        let path := walk.pathTo l
        if base.isPrefixOf l && o.wants path && o.reaches tree walk l then some path else none
    found.mergeSort Path.le

/-- What a scan has found so far, and the warnings it gave. -/
structure ScanState where
  packages : Dict UsedNames
  ambiguous : List Ambiguous
  files : Nat
  warnings : List DotImport

namespace ScanState

def empty : ScanState :=
  ⟨.empty, [], 0, []⟩

def addReference (dir : Path) (packages : Dict UsedNames) (r : Reference) : Dict UsedNames :=
  packages.insert r.package (((packages.get? r.package).getD .empty).add dir r)

/-- Adds the references of a source to external packages. -/
def note (s : ScanState) (module : Option String) (path : Path) (file : Syntax.SourceFile) :
    ScanState :=
  let external := file.imports.filter fun spec => isThirdParty spec.path module
  let dots := (external.filter fun spec => spec.name = .dot).map fun spec =>
    DotImport.mk path spec.line spec.path
  let imports := Dict.ofList
    (external.filterMap fun spec => spec.localName?.map fun name => (name, spec.path))
  let s := { s with files := s.files + 1, warnings := s.warnings ++ dots }
  if imports.size = 0 then s
  else
    let found := referencesIn imports path file
    let dir := path.parent?.getD .empty
    { s with
      packages := found.references.foldl (addReference dir) s.packages
      ambiguous := s.ambiguous ++ found.ambiguous }

/-- Reads sources one after the other; generated ones are passed over. -/
def noteAll (tree : FileTree) (module : Option String) :
    ScanState → List Path → ScanState × Option ScanError
  | s, [] => (s, none)
  | s, path :: rest =>
    match tree.readText path with
    | .error fault => (s, some (.unreadable path fault))
    | .ok text =>
      if isMarkedGenerated text then noteAll tree module s rest
      else noteAll tree module (s.note module path (Syntax.SourceFile.read text)) rest

end ScanState

/-- The module a directory belongs to. -/
def scannedModule (tree : FileTree) (root : Path) : Except ScanError (Option String) :=
  match Loader.moduleDir? tree root with
  | none => .ok none
  | some dir =>
    match tree.readText (dir / "go.mod") with
    | .error fault => .error (.unreadable (dir / "go.mod") fault)
    | .ok text => .ok (declaredModule? text)

/-- Scans the sources below a directory. The warnings given are those up to the end or the failure.
-/
def scan (o : ScanSettings) (tree : FileTree) (root : Path) :
    List DotImport × Except ScanError ScanReport :=
  if !tree.isDirectory root then ([], .error (.notDirectory root))
  else
    match scannedModule tree root with
    | .error e => ([], .error e)
    | .ok module =>
      let (s, failure) := ScanState.empty.noteAll tree module (scannedFiles o tree root)
      match failure with
      | some e => (s.warnings, .error e)
      | none => (s.warnings, .ok ⟨.ofPackages s.packages, s.ambiguous, s.files, module⟩)

end GoStub
