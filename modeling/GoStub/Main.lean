import GoStub.Arguments

/-! Running a command on the files of the current directory. No other program is started: without
the Go tool only packages given by `--src` are found, and without the formatter stubs stay as they
are. -/

namespace GoStub.Main

def pathOf (l : Location) : String :=
  "/" ++ Text.joinWith "/" l

def locationOf (path : String) : Location :=
  (Path.mk path).steps

def addDirectory (t : FileTree) (l : Location) : FileTree :=
  match t.get? l with
  | some _ => t
  | none => t.set l .directory

/-- Reads the files right in a directory that have a wanted name. -/
def readFiles (t : FileTree) (l : Location) (wanted : String → Bool) : IO FileTree := do
  let dir := (← IO.currentDir) / pathOf l
  unless ← dir.isDir do return t
  let mut t := addDirectory t l
  for entry in ← dir.readDir do
    let kind := (← entry.path.metadata).type
    if kind == .file && wanted entry.fileName then
      t := t.set (l ++ [entry.fileName]) (.file (← IO.FS.readBinFile entry.path))
  return t

/-- Files that count for everything below their directory. -/
def countsBelow (name : String) : Bool :=
  name == "go.mod" || name == ".ignore" || name == ".gitignore" || isLicenseName name

/-- Reads such files of a directory, and the ignore rules of a repository there. -/
def readSurrounding (t : FileTree) (l : Location) : IO FileTree := do
  let t ← readFiles t l countsBelow
  let t ← readFiles t (l ++ [".git"]) (fun _ => false)
  readFiles t (l ++ [".git", "info"]) (· == "exclude")

/-- Reads all that counts for a directory from the directories around it. -/
def readAncestors (t : FileTree) (l : Location) : IO FileTree := do
  let mut t := t
  for n in List.range (l.length + 1) do
    t ← readSurrounding t (l.take n)
  return t

/-- Reads a directory with all below it; links are not followed. -/
partial def readBelow (t : FileTree) (l : Location) : IO FileTree := do
  let mut t ← readFiles t l (fun _ => true)
  for entry in ← ((← IO.currentDir) / pathOf l).readDir do
    let kind := (← entry.path.symlinkMetadata).type
    if kind == .dir && entry.fileName != ".git" then
      t ← readBelow (addDirectory t (l ++ [entry.fileName])) (l ++ [entry.fileName])
  return t

/-- Reads a file given on the command line. -/
def readGiven (t : FileTree) (file : String) : IO FileTree := do
  let l := locationOf file
  let t ← readAncestors t l.dropLast
  readFiles t l.dropLast (some · == l.getLast?)

/-- Reads what a run may look at. -/
def readTree (current : String) (a : Arguments) : IO FileTree := do
  let l := locationOf current
  let mut t ← readBelow (← readAncestors { FileTree.empty with current := l } l) l
  for file in a.configFile.toList ++ a.output.copyrightFile.toList do
    t ← readGiven t ((Path.mk current) / file).text
  for dir in a.output.source.toList do
    let l := locationOf ((Path.mk current) / dir).text
    t ← readFiles (← readAncestors t l) l (fun _ => true)
  return t

/-- Whether there is nothing to do to have a node in its place. -/
def isThere : Option Node → Node → Bool
  | some .directory, .directory => true
  | some (.file old), .file new => old.toList == new.toList
  | _, _ => false

/-- Makes the files what they are after a run: first removals, then new directories and files. -/
def writeTree (before after : FileTree) : IO Unit := do
  let byDepth := after.entries.mergeSort (fun a b => a.1.length ≤ b.1.length)
  for (l, node) in before.entries.mergeSort (fun a b => b.1.length ≤ a.1.length) do
    if (after.get? l).isNone then
      match node with
      | .file _ => IO.FS.removeFile (pathOf l)
      | .directory => IO.FS.removeDir (pathOf l)
  for (l, node) in byDepth do
    unless isThere (before.get? l) node do
      match node with
      | .directory => IO.FS.createDirAll (pathOf l)
      | .file content => IO.FS.writeBinFile (pathOf l) content

def fail (message : String) : IO UInt32 := do
  IO.eprintln ("Error: " ++ message)
  return 1

def runJob (a : Arguments) (job : Job) : IO UInt32 := do
  let current := (← IO.currentDir).toString
  let before ← readTree current a
  match Config.load before (a.configFile.map Path.mk) ⟨current⟩ with
  | .error e => fail e.message
  | .ok config =>
    let (result, console) :=
      (job.run a.output config ⟨current⟩).run (.start (.ofFiles before))
    writeTree before console.files
    IO.print (Text.concat console.output)
    IO.eprint (Text.concat console.errors)
    match result with
    | .ok () => return 0
    | .error e => fail e.message

end GoStub.Main

def main (args : List String) : IO UInt32 :=
  match GoStub.Arguments.none.read? args with
  | none => GoStub.Main.fail GoStub.Arguments.usage
  | some a =>
    match a.job? with
    | none => GoStub.Main.fail GoStub.Arguments.usage
    | some job => GoStub.Main.runJob a job
