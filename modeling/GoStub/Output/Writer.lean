import GoStub.Output.Console
import GoStub.Output.Destination
import GoStub.Output.Format
import GoStub.Output.Header
import GoStub.Output.License
import GoStub.Output.Vendor
import GoStub.Stub.Make

/-! Writing generated stubs to their destination. -/

namespace GoStub

/-- A file operation that fails while stubs are written, or a question about a file. -/
inductive WriteFault
  | removeRoot (root : Path) (fault : FileFault)
  | createRoot (root : Path) (fault : FileFault)
  | writeModules (file : Path) (fault : FileFault)
  | ask (file : Path) (error : String)
  | createParent (dir : Path) (fault : FileFault)
  | putStub (file : Path) (fault : FileFault)
  | copyLicense (file : Path) (fault : FileFault)
  deriving DecidableEq

def WriteFault.message : WriteFault → String
  | .removeRoot root fault => "Failed to remove " ++ root.text ++ ": " ++ fault.message
  | .createRoot root fault => "Failed to create " ++ root.text ++ ": " ++ fault.message
  | .writeModules file fault => "Failed to write " ++ file.text ++ ": " ++ fault.message
  | .ask _ error => error
  | .createParent dir fault => "Unable to create directory " ++ dir.text ++ ": " ++ fault.message
  | .putStub file fault => "Failed writing to destination " ++ file.text ++ ": " ++ fault.message
  | .copyLicense file fault => "Failed to copy " ++ file.text ++ ": " ++ fault.message

/-- Why stubs are not written out. All but the last come up before anything is written. -/
inductive OutputError
  | copyright (file : Path) (fault : FileFault)
  | format (package : String) (error : FormatError)
  | severalPackages (count : Nat)
  | write (fault : WriteFault)
  deriving DecidableEq

def OutputError.message : OutputError → String
  | .copyright file fault => "Failed reading copyright file " ++ file.text ++ ": " ++ fault.message
  | .format package error => "Failed to format the stub of " ++ package ++ ": " ++ error.message
  | .severalPackages count =>
    "--destination holds a single package but " ++ toString count ++ " were generated; use --vendor"
  | .write fault => fault.message

/-- How stubs are written. If the writer is interactive, it asks before it overwrites a file. -/
structure StubWriter where
  destination : Destination
  copyright : Option String
  force : Bool
  interactive : Bool
  format : Bool

namespace StubWriter

/-- The writer for some options; the copyright notice is read at once. -/
def ofOptions (w : World) (o : OutputOptions) (config : Config) (workDir : Path) :
    Except OutputError StubWriter :=
  let destination := o.target w.files config workDir
  match o.copyrightFile with
  | none => .ok ⟨destination, none, o.force, w.terminal.isInput, true⟩
  | some file =>
    match w.files.readText (workDir / file) with
    | .ok notice => .ok ⟨destination, some notice, o.force, w.terminal.isInput, true⟩
    | .error fault => .error (.copyright (workDir / file) fault)

/-- The whole text of a stub file. -/
def fileText (e : StubWriter) (w : World) (s : SourcedStub) : Except OutputError String :=
  let top := header s.stub.package s.request e.copyright
  if e.format then
    match formatted w s.stub.text with
    | .ok body => .ok (top ++ body)
    | .error error => .error (.format s.stub.package error)
  else .ok (top ++ s.stub.text)

def fileTexts (e : StubWriter) (w : World) :
    List SourcedStub → Except OutputError (List (SourcedStub × String))
  | [] => .ok []
  | s :: rest => do
    let text ← e.fileText w s
    return (s, text) :: (← e.fileTexts w rest)

end StubWriter

/-- Writes one stub file, with the directories it lies in. -/
def putStub (file : Path) (text : String) : Action WriteFault Unit := do
  match file.parent? with
  | some dir => Action.change (.createParent dir) fun t => t.createDirectories dir
  | none => pure ()
  Action.change (.putStub file) fun t => t.write file text.toUTF8
  Action.tell ("✓ " ++ file.text)

/-- Copies licence files into a directory under their own names. -/
def copyLicenses (dir : Path) : List Path → Action WriteFault Unit
  | [] => pure ()
  | license :: rest => do
    match license.fileName? with
    | some name => Action.change (.copyLicense license) fun t => t.copy license (dir / name)
    | none => pure ()
    copyLicenses dir rest

/-- Lists the packages with a stub below the root in the list of modules, and counts them. -/
def writeModules (root : Path) : Action WriteFault Nat := do
  let packages := packagesBelow (← Action.console).files root
  Action.change (.createRoot root) fun t => t.createDirectories root
  let file := root / modulesFileName
  Action.change (.writeModules file) fun t => t.write file (modulesText packages).toUTF8
  return packages.length

/-- Removes the vendor tree, if there is one. -/
def removeRoot (root : Path) : Action WriteFault Unit := do
  if (← Action.console).files.exists? root then
    Action.tell ("Removing " ++ root.text)
    ExceptT.mk fun c =>
      match c.files.removeDirectory root with
      | (.ok (), files) => (.ok (), c.setFiles files)
      | (.error fault, files) => (.error (.removeRoot root fault), c.setFiles files)

namespace StubWriter

/-- Whether a file is to be written. One that is there is, unless somebody is asked and declines. -/
def mayWrite (e : StubWriter) (file : Path) : Action WriteFault Bool := do
  if (← Action.console).files.exists? file && !e.force && e.interactive then
    let overwrite ← Action.ask (.ask file) file
    if !overwrite then Action.tell ("Skipping " ++ file.text)
    return overwrite
  else return true

/-- Writes one stub file, if it is to be written, and says whether it was. -/
def writeStub (e : StubWriter) (file : Path) (text : String) : Action WriteFault Bool := do
  let isWritten ← e.mayWrite file
  if isWritten then putStub file text
  return isWritten

/-- Copies the licences of a stub to its place in the vendor tree. -/
def vendorLicenses (e : StubWriter) (root : Path) (s : SourcedStub) : Action WriteFault Unit := do
  let licenses := licensesOf (← Action.console).files s.packageDir s.moduleDir
  if licenses.isEmpty && e.copyright.isNone then
    Action.tell ("No license file found for " ++ s.stub.package)
  copyLicenses (root / s.stub.package) licenses

/-- Writes a stub to its place in the vendor tree, and its licences beside it. -/
def vendorStub (e : StubWriter) (root : Path) (s : SourcedStub) (text : String) :
    Action WriteFault Unit := do
  if ← e.writeStub (root / s.stub.package / stubFileName) text then
    e.vendorLicenses root s

def vendorStubs (e : StubWriter) (root : Path) :
    List (SourcedStub × String) → Action WriteFault Unit
  | [] => pure ()
  | (s, text) :: rest => do
    e.vendorStub root s text
    e.vendorStubs root rest

/-- Fills the vendor tree; with force it is made anew. -/
def vendorAll (e : StubWriter) (root : Path) (texts : List (SourcedStub × String)) :
    Action WriteFault Unit := do
  if e.force then removeRoot root
  e.vendorStubs root texts
  let _ ← writeModules root

/-- Writes texts to the destination. -/
def deliver (e : StubWriter) (texts : List (SourcedStub × String)) : Action OutputError Unit :=
  match e.destination with
  | .standardOutput => Action.print (Text.concat (texts.map (·.2)))
  | .file path =>
    match texts with
    | [] => pure ()
    | [(_, text)] => do
      let _ ← (e.writeStub path text).adapt .write
    | _ => Action.fail (.severalPackages texts.length)
  | .vendor root => (e.vendorAll root texts).adapt .write

/-- Writes stubs. Nothing is written unless the texts of all of them can be made. -/
def writeAll (e : StubWriter) (stubs : List SourcedStub) : Action OutputError Unit := do
  let texts ← Action.ofExcept id (e.fileTexts (← Action.console).world stubs)
  e.deliver texts

end StubWriter

end GoStub
