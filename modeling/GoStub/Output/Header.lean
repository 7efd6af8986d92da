import GoStub.Request

/-! The comment at the top of a stub file. -/

namespace GoStub

def copyrightLine (line : String) : String :=
  if line = "" then "//\n" else "// " ++ line ++ "\n"

/-- A copyright notice as a comment, without the blanks at its end. -/
def copyrightComment (notice : String) : String :=
  Text.concat ((Text.lines (Text.trimEnd notice.toList)).map fun line =>
    copyrightLine (String.ofList line))

/-- Where to read about the licence: in the notice that follows, or in the file beside the stub. -/
def licenseComment : Option String → String
  | some notice =>
    "// See the license below for information about the licensing of the original library.\n\n" ++
      copyrightComment notice ++ "\n"
  | none =>
    "// See the LICENSE file for information about the licensing of the original library.\n"

/-- The header says what the stub is for, and ends with the request it answers. -/
def header (package : String) (request : Request) (copyright : Option String) : String :=
  "// Code generated by depstub. DO NOT EDIT.\n" ++
    "// This is a simple stub for " ++ package ++ ", strictly for use in testing.\n\n" ++
    licenseComment copyright ++
    "// Source: " ++ package ++ " (exports: " ++ request.typesText ++ "; functions: " ++
    request.valuesText ++ ")\n\n"

end GoStub
