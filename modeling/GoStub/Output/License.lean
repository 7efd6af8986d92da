import GoStub.Files.Tree

/-! Licence files of a package. -/

namespace GoStub

/-- How the name of a licence file begins, in capitals. -/
def licenseStarts : List String :=
  ["LICENSE", "LICENCE", "COPYING", "NOTICE"]

/-- The capital of a letter, as far as it is an ASCII letter: besides the ASCII letters only the
dotless i and the long s have one. -/
def capital (c : Char) : Char :=
  if c = 'ı' then 'I' else if c = 'ſ' then 'S' else c.toUpper

def isLicenseName (name : String) : Bool :=
  licenseStarts.any fun start => Text.startsWith start.toList (name.toList.map capital)

/-- The licence files right in a directory, in order. A file in place of the directory counts
itself. -/
def licensesIn (files : FileTree) (dir : Path) : List Path :=
  match files.find dir with
  | .error _ => []
  | .ok (_, .file _) => if isLicenseName (dir.fileName?.getD dir.text) then [dir] else []
  | .ok (l, .directory) =>
    let names := (files.childNames l).filter isLicenseName
    ((names.map fun name => dir / name).filter files.isFile).mergeSort Path.le

/-- The licences of a package lie in its directory, or else in that of its module. -/
def licensesOf (files : FileTree) (packageDir : Path) (moduleDir : Option Path) : List Path :=
  let own := licensesIn files packageDir
  if own.isEmpty then (moduleDir.map (licensesIn files)).getD [] else own

end GoStub
