import GoStub.Files.Path
import GoStub.Text.Utf8

/-! A tree of files and directories, and what reading and changing it does. There are no links in it
and nothing that is neither a file nor a directory, and whoever runs a program may read and change
everything. -/

namespace GoStub

/-- Why a file operation fails. -/
inductive FileFault
  | notFound
  | alreadyExists
  | notDirectory
  | isDirectory
  | invalidArgument
  | nulByte
  | notText
  deriving DecidableEq

def FileFault.message : FileFault → String
  | .notFound => "No such file or directory (os error 2)"
  | .alreadyExists => "File exists (os error 17)"
  | .notDirectory => "Not a directory (os error 20)"
  | .isDirectory => "Is a directory (os error 21)"
  | .invalidArgument => "Invalid argument (os error 22)"
  | .nulByte => "file name contained an unexpected NUL byte"
  | .notText => "stream did not contain valid UTF-8"

/-- A place in the tree: the names on the way from the root. -/
abbrev Location := List String

inductive Node
  | directory
  | file (content : ByteArray)

/-- The entries below the root, each with its location, and the current directory. -/
structure FileTree where
  entries : List (Location × Node)
  current : Location

namespace FileTree

def empty : FileTree :=
  ⟨[], []⟩

def get? (t : FileTree) (l : Location) : Option Node :=
  if l = [] then some .directory else t.entries.lookup l

def setEntry (l : Location) (n : Node) : List (Location × Node) → List (Location × Node)
  | [] => [(l, n)]
  | (k, m) :: rest => if k = l then (l, n) :: rest else (k, m) :: setEntry l n rest

def set (t : FileTree) (l : Location) (n : Node) : FileTree :=
  { t with entries := setEntry l n t.entries }

/-- Removes everything below a location. -/
def clear (t : FileTree) (l : Location) : FileTree :=
  { t with entries := t.entries.filter (fun e => !(l.isPrefixOf e.1 && e.1 != l)) }

/-- Removes a location and everything below it. -/
def remove (t : FileTree) (l : Location) : FileTree :=
  { t with entries := t.entries.filter (fun e => !l.isPrefixOf e.1) }

/-- The names of the entries of a directory. -/
def childNames (t : FileTree) (l : Location) : List String :=
  t.entries.filterMap fun e => if e.1.dropLast = l then e.1.getLast? else none

/-- Follows names from a directory; each but the last must lead to a directory. -/
def follow (t : FileTree) : Location → List String → Except FileFault Location
  | l, [] => .ok l
  | l, name :: rest =>
    match t.get? l with
    | some .directory => t.follow (if name = ".." then l.dropLast else l ++ [name]) rest
    | some (.file _) => .error .notDirectory
    | none => .error .notFound

/-- The location a path stands for, whether or not something is there. A dot at the end of a path
stands for a directory that exists. -/
def locate (t : FileTree) (p : Path) : Except FileFault Location :=
  if p.text = "" then .error .notFound
  else if p.hasNul then .error .nulByte
  else
    match t.follow (if p.isAbsolute then [] else t.current) p.steps with
    | .error fault => .error fault
    | .ok l =>
      match t.get? l, p.endsInDot with
      | some (.file _), true => .error .notDirectory
      | none, true => .error .notFound
      | _, _ => .ok l

def find (t : FileTree) (p : Path) : Except FileFault (Location × Node) :=
  match t.locate p with
  | .error fault => .error fault
  | .ok l =>
    match t.get? l with
    | none => .error .notFound
    | some .directory => .ok (l, .directory)
    | some (.file content) =>
      if p.namesDirectory then .error .notDirectory else .ok (l, .file content)

def exists? (t : FileTree) (p : Path) : Bool :=
  (t.find p).isOk

def isFile (t : FileTree) (p : Path) : Bool :=
  match t.find p with
  | .ok (_, .file _) => true
  | _ => false

def isDirectory (t : FileTree) (p : Path) : Bool :=
  match t.find p with
  | .ok (_, .directory) => true
  | _ => false

def readBytes (t : FileTree) (p : Path) : Except FileFault ByteArray :=
  match t.find p with
  | .error fault => .error fault
  | .ok (_, .directory) => .error .isDirectory
  | .ok (_, .file content) => .ok content

def readText (t : FileTree) (p : Path) : Except FileFault String :=
  match t.readBytes p with
  | .error fault => .error fault
  | .ok bytes =>
    match Text.decode bytes with
    | .ok text => .ok text
    | .error _ => .error .notText

/-- The names in a directory. -/
def list (t : FileTree) (p : Path) : Except FileFault (List String) :=
  match t.find p with
  | .error fault => .error fault
  | .ok (_, .file _) => .error .notDirectory
  | .ok (l, .directory) => .ok (t.childNames l)

def createDirectory (t : FileTree) (p : Path) : Except FileFault FileTree :=
  match t.locate p with
  | .error fault => .error fault
  | .ok l =>
    match t.get? l with
    | some _ => .error .alreadyExists
    | none => .ok (t.set l .directory)

/-- Creates the first path after those that follow it, where they are missing. -/
def createChain (t : FileTree) : List Path → Except FileFault FileTree
  | [] => .ok t
  | p :: outer =>
    if p.text = "" then .ok t
    else
      match t.createDirectory p with
      | .ok t' => .ok t'
      | .error .notFound =>
        match t.createChain outer with
        | .error fault => .error fault
        | .ok t' =>
          match t'.createDirectory p with
          | .ok t'' => .ok t''
          | .error fault => if t'.isDirectory p then .ok t' else .error fault
      | .error fault => if t.isDirectory p then .ok t else .error fault

/-- Creates a directory and the directories it lies in. -/
def createDirectories (t : FileTree) (p : Path) : Except FileFault FileTree :=
  t.createChain p.ancestors

/-- Writes a file. No file can be written at a path that ends in a slash. -/
def write (t : FileTree) (p : Path) (content : ByteArray) : Except FileFault FileTree :=
  match t.locate p with
  | .error fault => .error fault
  | .ok l =>
    match t.get? l with
    | some .directory => .error .isDirectory
    | _ => if p.namesDirectory then .error .isDirectory else .ok (t.set l (.file content))

/-- Copies a file. The target is emptied before the source is read, so that a file copied onto
itself ends up empty. -/
def copy (t : FileTree) (source target : Path) : Except FileFault FileTree :=
  match t.readBytes source with
  | .error fault => .error fault
  | .ok _ =>
    match t.write target .empty with
    | .error fault => .error fault
    | .ok emptied =>
      match emptied.readBytes source with
      | .error fault => .error fault
      | .ok content => emptied.write target content

/-- Removes a directory with all it holds. A directory given as a dot is emptied but cannot be
removed itself. -/
def removeDirectory (t : FileTree) (p : Path) : Except FileFault Unit × FileTree :=
  match t.find p with
  | .error fault => (.error fault, t)
  | .ok (_, .file _) => (.error .notDirectory, t)
  | .ok (l, .directory) =>
    if p.endsInDot then (.error .invalidArgument, t.clear l) else (.ok (), t.remove l)

end FileTree

end GoStub
