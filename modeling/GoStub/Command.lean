import GoStub.Output.Writer
import GoStub.Usage.Scan

/-! The commands. -/

namespace GoStub

/-- Why a command fails. -/
inductive CommandError
  | sourceGiven
  | scan (workDir : Path) (error : ScanError)
  | stub (package : String) (error : StubFault)
  | stubs (error : StubFault)
  | output (error : OutputError)

def CommandError.message : CommandError → String
  | .sourceGiven => "--src can only be used with gen"
  | .scan workDir error =>
    "Error while auto-detecting imported objects in " ++ workDir.text ++ ": " ++ error.message
  | .stub package error => "Failed generating stub for " ++ package ++ ": " ++ error.message
  | .stubs error => "Failed generating stubs: " ++ error.message
  | .output error => error.message

abbrev Command (α : Type) := Action CommandError α

namespace Command

/-- Writes stubs as the options say. -/
def writeStubs (o : OutputOptions) (config : Config) (workDir : Path) (stubs : List SourcedStub) :
    Command Unit := do
  let writer ← Action.ofExcept .output
    (StubWriter.ofOptions (← Action.console).world o config workDir)
  (writer.writeAll stubs).adapt .output

/-- Stubs the named symbols of one package. -/
def gen (package types values : String) (o : OutputOptions) (config : Config) (workDir : Path) :
    Command Unit := do
  let request := Request.ofLists package types values
  if request.isEmpty then
    Action.tell ("No symbols requested; the stub for " ++ package ++ " will be empty")
  let source := o.source.map fun dir => (package, workDir / dir)
  let loader := Loader.forRun config.goCommand workDir source
  let stub ← Action.ofExcept (.stub package)
    (makeStub (loader.index (← Action.console).world) request)
  writeStubs o config workDir [stub]

def tellAll : List String → Command Unit
  | [] => pure ()
  | line :: rest => do
    Action.tell line
    tellAll rest

/-- Scans the working directory and reports what is left out. -/
def scanUsage (config : Config) (workDir : Path) : Command ScanReport := do
  let options : ScanSettings := ⟨config.includeTests, config.excludeDirs⟩
  let (warnings, result) := scan options (← Action.console).files workDir
  tellAll (warnings.map (·.message))
  let result ← Action.ofExcept (.scan workDir) result
  tellAll (result.ambiguous.map fun a => "⚠ " ++ a.message)
  return result

/-- Stubs everything the working directory uses. -/
def auto (o : OutputOptions) (config : Config) (workDir : Path) : Command Unit := do
  if o.source.isSome then Action.fail .sourceGiven
  Action.tell ("Scanning " ++ workDir.text)
  let result ← scanUsage config workDir
  if result.index.size = 0 then
    Action.tell
      ("No external packages referenced (" ++ toString result.files ++ " files scanned)")
  else
    let loader := Loader.forRun config.goCommand workDir none
    let stubs ← Action.ofExcept .stubs
      (makeStubs (loader.index (← Action.console).world) result.index.requests).2
    writeStubs o config workDir stubs
    Action.tell ("Stubbed " ++ toString stubs.length ++ " package(s)")

/-- Prints what the working directory uses: as JSON, or as one directive for each package. -/
def print (config : Config) (workDir : Path) (json : Bool) : Command Unit := do
  let result ← scanUsage config workDir
  let lines := if json then [result.index.jsonText] else result.index.directives
  Action.print (Text.concat (lines.map (· ++ "\n")))

/-- Lists the packages in the vendor tree. -/
def listModules (config : Config) (workDir : Path) : Command Unit := do
  let root := vendorDirectory (← Action.console).files config workDir
  let count ← (writeModules root).adapt (.output ∘ .write)
  Action.tell
    ("Wrote " ++ (root / modulesFileName).text ++ " (" ++ toString count ++ " package(s))")

/-- What is logged, by how often the user asks for more. -/
def logFilter : Nat → Option String
  | 0 => none
  | 1 => some "depstub=info"
  | _ => some "depstub=debug"

end Command

end GoStub
