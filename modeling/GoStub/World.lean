import GoStub.Files.Tree

/-! What a run can see and change: the files, the programs it may start, and the terminal. -/

namespace GoStub

/-- A program by the name it is started by, what it is given, and where it is started. -/
structure Invocation where
  program : String
  args : List String
  input : String
  dir : Option Path

/-- What a program leaves behind. -/
structure ProgramResult where
  status : Nat
  output : ByteArray
  errors : ByteArray

/-- Why a program leaves nothing behind: a file or directory stands against its start, it cannot be
started for another reason, its input cannot be handed over, or its end cannot be awaited. -/
inductive ProgramFault
  | files (fault : FileFault)
  | start (error : String)
  | feed (error : String)
  | wait (error : String)
  deriving DecidableEq

def ProgramFault.message : ProgramFault → String
  | .files fault => fault.message
  | .start error => error
  | .feed error => error
  | .wait error => error

/-- The terminal. `answer asked file` is what comes of the question whether to overwrite a file,
once the questions about the files in `asked` are settled: an answer, or an error. -/
structure Terminal where
  isInput : Bool
  answer : (asked : List Path) → (file : Path) → Except String Bool

structure World where
  files : FileTree
  programs : Invocation → Except ProgramFault ProgramResult
  terminal : Terminal

namespace World

/-- Nothing but files. -/
def ofFiles (files : FileTree) : World where
  files := files
  programs _ := .error (.files .notFound)
  terminal := ⟨false, fun _ _ => .error "IO error: not a terminal"⟩

/-- Whether a program can be started from this directory. -/
def entry (w : World) : Option Path → Except FileFault Unit
  | none => .ok ()
  | some dir =>
    match w.files.find dir with
    | .error fault => .error fault
    | .ok (_, .file _) => .error .notDirectory
    | .ok (_, .directory) => .ok ()

/-- Starts a program. Its name, its arguments and its directory can hold no NUL. -/
def start (w : World) (i : Invocation) : Except ProgramFault ProgramResult :=
  if (i.program :: i.args).any (·.toList.contains '\x00') || i.dir.any (·.hasNul) then
    .error (.start "nul byte found in provided data")
  else
    match w.entry i.dir with
    | .error fault => .error (.files fault)
    | .ok () => w.programs i

end World

end GoStub
