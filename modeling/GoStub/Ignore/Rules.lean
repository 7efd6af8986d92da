import GoStub.Files.Tree
import GoStub.Ignore.Glob
import GoStub.Text.Basic

/-! Ignore files: which entries of a tree their lines leave out. -/

namespace GoStub.Ignore

/-- A line of an ignore file. A negated rule keeps what it matches. -/
structure Rule where
  patterns : List (List Step)
  negated : Bool
  onlyDirs : Bool

/-- A line without blanks at its end, unless the last of them is escaped. -/
def trimLine (line : List Char) : List Char :=
  if Text.endsWith ['\\', ' '] line then line else Text.trimEnd line

/-- The text of a pattern that matches in any directory. -/
def anywhere (cs : List Char) : List Char :=
  if cs = ['*', '*'] || Text.startsWith ['*', '*', '/'] cs then cs else ['*', '*', '/'] ++ cs

/-- A pattern that ends in `/**` matches what is inside a directory but not the directory. -/
def insideOnly (cs : List Char) : List Char :=
  if Text.endsWith ['/', '*', '*'] cs then cs ++ ['/', '*'] else cs

/-- A pattern without the slash at its end, and whether it had one. -/
def dropEndSlash (cs : List Char) : List Char × Bool :=
  match Text.dropSuffix? ['/'] cs with
  | some cs => ((Text.dropSuffix? ['\\'] cs).getD cs, true)
  | none => (cs, false)

/-- A pattern after the mark of negation and a slash at its start. -/
structure Opening where
  negated : Bool
  anchored : Bool
  rest : List Char

def dropStartSlash (negated : Bool) : List Char → Opening
  | '/' :: rest => ⟨negated, true, rest⟩
  | rest => ⟨negated, false, rest⟩

def opening : List Char → Opening
  | '\\' :: '!' :: rest => ⟨false, false, '!' :: rest⟩
  | '\\' :: '#' :: rest => ⟨false, false, '#' :: rest⟩
  | '!' :: rest => dropStartSlash true rest
  | rest => dropStartSlash false rest

/-- The rule of a line. Comments, empty lines and malformed patterns give none. -/
def Rule.ofLine? (line : List Char) : Option Rule :=
  if Text.startsWith ['#'] line then none
  else
    let line := trimLine line
    if line.isEmpty then none
    else
      let start := opening line
      let (body, onlyDirs) := dropEndSlash start.rest
      let body := if start.anchored || body.contains '/' then body else anywhere body
      (readGlob (insideOnly body)).map fun patterns => ⟨patterns, start.negated, onlyDirs⟩

def Rule.applies (r : Rule) (path : List UInt8) (isDir : Bool) : Bool :=
  (!r.onlyDirs || isDir) && r.patterns.any (accepts · path)

/-- What some rules say of a path: the last that applies decides. -/
def verdict? (rules : List Rule) (path : List UInt8) (isDir : Bool) : Option Bool :=
  (rules.reverse.find? (·.applies path isDir)).map fun r => !r.negated

/-- The lines of a file. A line ends at a line feed, or at a carriage return with a line feed; the
last line needs no end and is left out when it is empty. -/
def splitLines : List UInt8 → List (List UInt8)
  | [] => []
  | b :: bytes =>
    if b == 10 then [] :: splitLines bytes
    else if b == 13 && bytes.head? == some 10 then splitLines bytes
    else
      match splitLines bytes with
      | line :: rest => (b :: line) :: rest
      | [] => [[b]]

def decodeLine (bytes : List UInt8) : Option (List Char) :=
  match Text.decode ⟨bytes.toArray⟩ with
  | .ok text => some text.toList
  | .error _ => none

/-- The lines of a file up to the first that is not valid text. -/
def validLines : List (List UInt8) → List (List Char)
  | [] => []
  | bytes :: rest =>
    match decodeLine bytes with
    | some line => line :: validLines rest
    | none => []

/-- The rules of a file; a byte order mark at its start is passed over. -/
def rulesOf (content : ByteArray) : List Rule :=
  let mark := Char.ofNat 0xFEFF
  let lines :=
    match validLines (splitLines content.toList) with
    | first :: rest => first.dropWhile (· == mark) :: rest
    | [] => []
  lines.filterMap Rule.ofLine?

def rulesAt (tree : FileTree) (l : Location) : List Rule :=
  match tree.get? l with
  | some (.file content) => rulesOf content
  | _ => []

/-- The first line of a file. -/
def firstLine? (tree : FileTree) (p : Path) : Option (List Char) :=
  match tree.readBytes p with
  | .ok content => (splitLines content.toList).head?.bind decodeLine
  | .error _ => none

/-- The directory that a repository with several working trees keeps in common, by the file that
stands for the repository in one of them: it names a directory with the path of the common one. -/
def commonDir? (tree : FileTree) (content : ByteArray) : Option Path := do
  let line ← (splitLines content.toList).head?.bind decodeLine
  let own ← Text.dropPrefix? "gitdir: ".toList line
  let own : Path := ⟨String.ofList own⟩
  let common ← firstLine? tree (own / "commondir")
  let path := String.ofList common
  return if Text.startsWith ['.'] common then own / path else ⟨path⟩

/-- The rules that a repository has for itself. -/
def repositoryRules (tree : FileTree) (dir : Location) : List Rule :=
  match tree.get? (dir ++ [".git"]) with
  | some (.file content) =>
    match (commonDir? tree content).map fun common => tree.locate (common / "info/exclude") with
    | some (.ok l) => rulesAt tree l
    | _ => []
  | _ => rulesAt tree (dir ++ [".git", "info", "exclude"])

/-- A walk through a tree: the path it starts from, and the location of that. -/
structure Walk where
  root : Path
  base : Location

/-- The path of a location below the start, as the walk writes it. -/
def Walk.pathTo (w : Walk) (l : Location) : Path :=
  if l.length ≤ w.base.length then w.root else w.root / Text.joinWith "/" (l.drop w.base.length)

/-- A text without a dot and a slash at its start. -/
def dropHere (cs : List Char) : List Char :=
  (Text.dropPrefix? ['.', '/'] cs).getD cs

/-- A text without another one at its start, and without a slash after that. -/
def dropDir (dir cs : List Char) : List Char :=
  match Text.dropPrefix? dir cs with
  | some rest => (Text.dropPrefix? ['/'] rest).getD rest
  | none => cs

/-- Whether a path is a dot, apart from what leads nowhere. -/
def isHere (p : Path) : Bool :=
  p.components = [.here]

/-- What the rules of a directory on the walk see of a path. Both are taken as they are written, so
that they only fit together if at most one dot is at the start of each. -/
def seenFrom (dir path : Path) : List Char :=
  let dir : Path := ⟨String.ofList (dropHere dir.text.toList)⟩
  let path := dropHere (dropHere path.text.toList)
  if isHere dir || !path.contains '/' then path else dropDir dir.text.toList path

/-- The path of a location as text, from the root of the tree. -/
def absolute (l : Location) : List Char :=
  l.flatMap fun name => '/' :: name.toList

/-- What the rules of a directory above the walk see of a path. -/
def seenFromAbove (w : Walk) (dir : Location) (path : Path) : List Char :=
  let path := dropHere path.text.toList
  let inner := if isHere w.root then path else dropDir (dropHere w.root.text.toList) path
  let whole := if Text.startsWith ['/'] inner then inner else absolute w.base ++ '/' :: inner
  dropDir (absolute dir) whole

/-- The rules a directory brings along, and what they see of the path in question. -/
structure Level where
  path : List UInt8
  ignore : List Rule
  git : List Rule
  exclude : List Rule
  hasRepository : Bool

def Level.ofDirectory (tree : FileTree) (w : Walk) (dir l : Location) : Level where
  path :=
    let seen :=
      if w.base.length ≤ dir.length then seenFrom (w.pathTo dir) (w.pathTo l)
      else seenFromAbove w dir (w.pathTo l)
    (String.ofList seen).toUTF8.toList
  ignore := rulesAt tree (dir ++ [".ignore"])
  git := rulesAt tree (dir ++ [".gitignore"])
  exclude := repositoryRules tree dir
  hasRepository := [".git", ".jj"].any fun name => (tree.get? (dir ++ [name])).isSome

/-- The directories around a location, innermost first. -/
def levels (tree : FileTree) (w : Walk) (l : Location) : List Level :=
  (List.range l.length).reverse.map fun n => Level.ofDirectory tree w (l.take n) l

/-- The levels up to the root of the repository; none outside of one. -/
def repositoryLevels : List Level → List Level
  | [] => []
  | level :: rest =>
    if level.hasRepository then [level]
    else
      match repositoryLevels rest with
      | [] => []
      | inner => level :: inner

/-- Whether an entry is left out of a walk: by an ignore file, else by the repository's own, else
because its name starts with a dot. -/
def isIgnored (tree : FileTree) (w : Walk) (l : Location) (isDir : Bool) : Bool :=
  let all := levels tree w l
  let repository := repositoryLevels all
  let ask (rules : Level → List Rule) (level : Level) := verdict? (rules level) level.path isDir
  let decided :=
    (all.findSome? (ask (·.ignore))).orElse fun _ =>
      (repository.findSome? (ask (·.git))).orElse fun _ =>
        repository.findSome? (ask (·.exclude))
  match decided with
  | some ignored => ignored
  | none => l.getLast?.any fun name => Text.startsWith ['.'] name.toList

end GoStub.Ignore
