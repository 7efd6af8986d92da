import GoStub.Files.Tree
import GoStub.Toml.Document

/-! The configuration of a project. -/

namespace GoStub

structure Config where
  goCommand : String
  includeTests : Bool
  excludeDirs : List String
  vendorDir : String
  deriving DecidableEq

/-- Why there is no configuration. -/
inductive ConfigError
  | unreadable (fault : FileFault)
  | malformed
  deriving DecidableEq

def ConfigError.message : ConfigError → String
  | .unreadable fault => fault.message
  | .malformed => "invalid configuration"

namespace Config

def default : Config where
  goCommand := "go"
  includeTests := false
  excludeDirs := []
  vendorDir := "vendor"

/-- The name of the configuration file in the working directory. -/
def fileName : String :=
  "depstub.toml"

/-- A setting; without an entry it keeps its default, and an entry of another type is no setting. -/
def setting {α : Type} (read? : Toml.Value → Option α) (key : String) (default : α)
    (entries : Toml.Entries) : Option α :=
  match entries.lookup key with
  | none => some default
  | some value => read? value

def text? : Toml.Value → Option String
  | .text content => some content
  | _ => none

def boolean? : Toml.Value → Option Bool
  | .boolean truth => some truth
  | _ => none

def texts? : Toml.Value → Option (List String)
  | .array items => items.mapM text?
  | _ => none

/-- The settings of a document; entries with other keys do not count. -/
def ofEntries? (entries : Toml.Entries) : Option Config := do
  let goCommand ← setting text? "go_command" default.goCommand entries
  let includeTests ← setting boolean? "include_tests" default.includeTests entries
  let excludeDirs ← setting texts? "exclude_dirs" default.excludeDirs entries
  let vendorDir ← setting text? "vendor_dir" default.vendorDir entries
  return ⟨goCommand, includeTests, excludeDirs, vendorDir⟩

def read (tree : FileTree) (file : Path) : Except ConfigError Config :=
  match tree.readText file with
  | .error fault => .error (.unreadable fault)
  | .ok content =>
    match (Toml.read? content).bind ofEntries? with
    | some config => .ok config
    | none => .error .malformed

/-- Reads the given file, or else the one in the working directory if it is there. -/
def load (tree : FileTree) (file : Option Path) (workDir : Path) : Except ConfigError Config :=
  match file with
  | some file => read tree file
  | none =>
    if tree.exists? (workDir / fileName) then read tree (workDir / fileName) else .ok default

end Config

end GoStub
