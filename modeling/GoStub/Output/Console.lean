import GoStub.Package.Loader

/-! What a command leaves behind: changed files, standard output and standard error. -/

namespace GoStub

/-- The world during a command, what it has written so far, and the files it has asked about. -/
structure Console where
  world : World
  output : List String
  errors : List String
  asked : List Path

namespace Console

def start (w : World) : Console :=
  ⟨w, [], [], []⟩

def files (c : Console) : FileTree :=
  c.world.files

def setFiles (c : Console) (files : FileTree) : Console :=
  { c with world := { c.world with files := files } }

/-- Writes to standard output. -/
def print (c : Console) (text : String) : Console :=
  { c with output := c.output ++ [text] }

/-- Writes a line to standard error. -/
def tell (c : Console) (line : String) : Console :=
  { c with errors := c.errors ++ [line ++ "\n"] }

/-- Notes a question about a file. -/
def ask (c : Console) (file : Path) : Console :=
  { c with asked := c.asked ++ [file] }

end Console

/-- A computation on the console that may fail; what it did before stays. -/
abbrev Action (ε α : Type) := ExceptT ε (StateM Console) α

namespace Action

variable {ε α : Type}

def console : Action ε Console :=
  ExceptT.mk fun c => (.ok c, c)

def fail (e : ε) : Action ε α :=
  ExceptT.mk fun c => (.error e, c)

def ofExcept {δ : Type} (wrap : δ → ε) : Except δ α → Action ε α
  | .ok a => pure a
  | .error e => fail (wrap e)

def print (text : String) : Action ε Unit :=
  ExceptT.mk fun c => (.ok (), c.print text)

def tell (line : String) : Action ε Unit :=
  ExceptT.mk fun c => (.ok (), c.tell line)

/-- Asks on the terminal whether to overwrite a file. -/
def ask (wrap : String → ε) (file : Path) : Action ε Bool :=
  ExceptT.mk fun c =>
    match c.world.terminal.answer c.asked file with
    | .ok overwrite => (.ok overwrite, c.ask file)
    | .error error => (.error (wrap error), c.ask file)

/-- Changes the files, if that is possible. -/
def change (wrap : FileFault → ε) (f : FileTree → Except FileFault FileTree) : Action ε Unit :=
  ExceptT.mk fun c =>
    match f c.files with
    | .ok files => (.ok (), c.setFiles files)
    | .error fault => (.error (wrap fault), c)

end Action

end GoStub
