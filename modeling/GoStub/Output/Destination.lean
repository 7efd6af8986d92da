import GoStub.Config
import GoStub.Package.Loader

/-! Where stubs go. -/

namespace GoStub

/-- What the user says about the output. Paths are seen from the working directory. -/
structure OutputOptions where
  destination : Option String
  vendor : Bool
  copyrightFile : Option String
  force : Bool
  source : Option String

inductive Destination
  | standardOutput
  | file (path : Path)
  | vendor (root : Path)
  deriving DecidableEq

/-- The vendor directory of the module around the working directory. -/
def vendorDirectory (files : FileTree) (config : Config) (workDir : Path) : Path :=
  (Loader.moduleDir? files workDir).getD workDir / config.vendorDir

/-- A vendor tree goes before a file, and a file before standard output. -/
def OutputOptions.target (o : OutputOptions) (files : FileTree) (config : Config) (workDir : Path) :
    Destination :=
  if o.vendor then .vendor (vendorDirectory files config workDir)
  else
    match o.destination with
    | some path => .file (workDir / path)
    | none => .standardOutput

end GoStub
