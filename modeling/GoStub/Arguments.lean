import GoStub.Command

/-! The command line. -/

namespace GoStub

/-- What the user wants done. -/
inductive Job
  | gen (package types values : String)
  | auto
  | print (json : Bool)
  | listModules
  deriving DecidableEq

/-- The parts of a command line: options wherever they stand, and the words between them. -/
structure Arguments where
  output : OutputOptions
  configFile : Option String
  verbose : Nat
  json : Bool
  words : List String

namespace Arguments

def none : Arguments where
  output := ⟨.none, false, .none, false, .none⟩
  configFile := .none
  verbose := 0
  json := false
  words := []

def usage : String :=
  "Usage: depstub [OPTIONS] <gen PACKAGE [TYPES] [VALUES] | auto | print [--json] | module-txt>"

/-- Sets an option that takes a value. -/
def setValue? (a : Arguments) (option value : String) : Option Arguments :=
  match option with
  | "--destination" => some { a with output := { a.output with destination := some value } }
  | "--copyright-file" => some { a with output := { a.output with copyrightFile := some value } }
  | "--src" => some { a with output := { a.output with source := some value } }
  | "--config" => some { a with configFile := some value }
  | _ => .none

/-- Sets an option without a value. -/
def setFlag? (a : Arguments) (option : String) : Option Arguments :=
  match option with
  | "--vendor" => some { a with output := { a.output with vendor := true } }
  | "--force" => some { a with output := { a.output with force := true } }
  | "--json" => some { a with json := true }
  | "--verbose" => some { a with verbose := a.verbose + 1 }
  | "-v" => some { a with verbose := a.verbose + 1 }
  | "-vv" => some { a with verbose := a.verbose + 2 }
  | _ => .none

/-- An option with its value behind an equals sign. -/
def splitOption? (option : String) : Option (String × String) :=
  match Text.splitText '=' option with
  | name :: first :: rest => some (name, Text.joinWith "=" (first :: rest))
  | _ => .none

def isOption (word : String) : Bool :=
  Text.startsWith ['-'] word.toList && word ≠ "-"

def read? (a : Arguments) : List String → Option Arguments
  | [] => some a
  | word :: rest =>
    if !isOption word then read? { a with words := a.words ++ [word] } rest
    else
      match a.setFlag? word with
      | some a => read? a rest
      | .none =>
        match splitOption? word with
        | some (option, value) =>
          match a.setValue? option value with
          | some a => read? a rest
          | .none => .none
        | .none =>
          match rest with
          | [] => .none
          | value :: rest =>
            match a.setValue? word value with
            | some a => read? a rest
            | .none => .none

/-- The job the words stand for. -/
def job? (a : Arguments) : Option Job :=
  match a.words with
  | ["gen", package] => some (.gen package "" "")
  | ["gen", package, types] => some (.gen package types "")
  | ["gen", package, types, values] => some (.gen package types values)
  | ["auto"] => some .auto
  | ["print"] => some (.print a.json)
  | ["module-txt"] => some .listModules
  | _ => .none

end Arguments

namespace Job

def run (job : Job) (o : OutputOptions) (config : Config) (workDir : Path) : Command Unit :=
  match job with
  | .gen package types values => Command.gen package types values o config workDir
  | .auto => Command.auto o config workDir
  | .print json => Command.print config workDir json
  | .listModules => Command.listModules config workDir

end Job

end GoStub
