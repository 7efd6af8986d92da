import GoStub.Package.Qualifiers
import GoStub.StubFault
import GoStub.Syntax.Readings

/-! The index of a package: the declarations of all its files. -/

namespace GoStub

/-- A package that was found: where it is and which files it has. -/
structure PackageFiles where
  importPath : String
  name : Option String
  dir : Path
  moduleDir : Option Path
  files : List Path

namespace PackageScope

def ofPackage (p : PackageFiles) : PackageScope where
  importPath := p.importPath
  name := p.name.getD ""
  dir := p.dir
  moduleDir := p.moduleDir
  types := .empty
  funcs := .empty
  values := .empty
  methods := .empty
  importNames := .empty

/-- Adds the declarations of a file, and the names it has for packages that have none yet. -/
def declareFile (p : PackageScope) (file : Syntax.SourceFile) : PackageScope :=
  let scope := FileScope.ofImports p.importPath file.imports
  let p := (file.items.flatMap (readTopLevel scope)).foldl declare p
  let names := scope.importNames (file.items.flatMap topLevelQualifiers)
  { p with
    importNames := names.entries.foldl (fun d e => d.insertNew e.1 e.2) p.importNames }

/-- Adds the files at these paths. The first package clause names the package, unless it has a name;
files of other packages are passed over. -/
def declareFiles (files : FileTree) (p : PackageScope) : List Path → Except LoadFault PackageScope
  | [] => .ok p
  | path :: rest =>
    match files.readText path with
    | .error fault => .error (.unreadableFile path fault)
    | .ok text =>
      let file := Syntax.SourceFile.read text
      match file.packageName? with
      | none => .error (.noPackageClause path)
      | some name =>
        let p := if p.name = "" then { p with name := name } else p
        if name = p.name then declareFiles files (p.declareFile file) rest
        else declareFiles files p rest

/-- Indexes a package. -/
def ofFiles (files : FileTree) (package : PackageFiles) : Except StubFault PackageScope :=
  match declareFiles files (ofPackage package) package.files with
  | .error fault => .error (.load package.importPath fault)
  | .ok p => if p.name = "" then .error (.load package.importPath .noSources) else .ok p

/-- The exported methods of a type in the order of their names. -/
def exportedMethods (p : PackageScope) (type : String) : List MethodDecl :=
  ((p.methodsOf type).filter (fun m => Name.isExported m.name)).mergeSort
    (fun a b => decide (a.name ≤ b.name))

end PackageScope

end GoStub
