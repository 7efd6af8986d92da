import GoStub.Dict
import GoStub.Files.Path
import GoStub.Usage.Outline

/-! References of a source to the packages it imports. -/

namespace GoStub

/-- A mention of a package that is certain. -/
structure Reference where
  package : String
  name : String
  asType : Bool
  deriving DecidableEq

/-- Why a mention is not attributed to a package. -/
inductive Doubt
  | boundLocally
  | noImport
  deriving DecidableEq

structure Ambiguous where
  file : Path
  mention : Mention
  doubt : Doubt
  deriving DecidableEq

namespace Ambiguous

def reason (a : Ambiguous) : String :=
  match a.doubt with
  | .boundLocally => a.mention.qualifier ++ " is also bound locally"
  | .noImport => "no import matches qualifier " ++ a.mention.qualifier

def message (a : Ambiguous) : String :=
  "ambiguous reference " ++ a.mention.qualifier ++ "." ++ a.mention.name ++ " at " ++ a.file.text ++
    ":" ++ toString a.mention.line ++ ": " ++ a.reason

end Ambiguous

/-- The names some parts of a function bind, inner functions apart. -/
def boundNames : List Outline → List String
  | [] => []
  | .binder names :: rest => names ++ boundNames rest
  | .mention _ :: rest => boundNames rest
  | .function _ _ :: rest => boundNames rest

/-- A mention, and whether a function around it binds its qualifier. -/
structure Occurrence where
  mention : Mention
  bound : Bool
  deriving DecidableEq

mutual

/-- The mentions in an outline where the names `scope` are bound. -/
def Outline.occurrences (scope : List String) : Outline → List Occurrence
  | .mention m => [⟨m, scope.contains m.qualifier⟩]
  | .binder _ => []
  | .function params parts => occurrencesOf (scope ++ params ++ boundNames parts) parts

def occurrencesOf (scope : List String) : List Outline → List Occurrence
  | [] => []
  | part :: rest => part.occurrences scope ++ occurrencesOf scope rest

end

/-- What a source imports and declares: the imports to look for by local name, those of them without
an alias by local name and path, and every name that no package is looked for under. -/
structure ImportView where
  imports : Dict String
  defaults : List (String × String)
  known : List String

namespace ImportView

def ofFile (imports : Dict String) (file : Syntax.SourceFile) : ImportView where
  imports := imports
  defaults :=
    file.imports.filterMap fun spec =>
      match spec.name, spec.localName? with
      | .default, some qualifier =>
        if imports.get? qualifier = some spec.path then some (qualifier, spec.path) else none
      | _, _ => none
  known := file.imports.filterMap (·.localName?) ++ file.items.flatMap declaredNames

end ImportView

/-- What a source refers to. -/
structure References where
  references : List Reference
  ambiguous : List Ambiguous

namespace ImportView

def reference? (v : ImportView) (o : Occurrence) : Option Reference :=
  if o.bound then none
  else (v.imports.get? o.mention.qualifier).map fun path => ⟨path, o.mention.name, o.mention.asType⟩

def shadowed? (v : ImportView) (file : Path) (o : Occurrence) : Option Ambiguous :=
  if o.bound && v.imports.contains o.mention.qualifier then some ⟨file, o.mention, .boundLocally⟩
  else none

/-- A mention whose qualifier nothing in the source explains. -/
def isUnmatched (v : ImportView) (o : Occurrence) : Bool :=
  !o.bound && !v.imports.contains o.mention.qualifier && !v.known.contains o.mention.qualifier

/-- The imports without an alias that no mention uses by their local name. -/
def unusedDefaults (v : ImportView) (occurrences : List Occurrence) : List String :=
  let used := occurrences.map (·.mention.qualifier)
  (v.defaults.filter fun d => !used.contains d.1).map (·.2)

def guessed? (paths : List String) (m : Mention) : Option Reference :=
  (Name.matchingImport? m.qualifier paths).map fun path => ⟨path, m.name, m.asType⟩

def unguessed? (paths : List String) (file : Path) (m : Mention) : Option Ambiguous :=
  if (Name.matchingImport? m.qualifier paths).isNone then some ⟨file, m, .noImport⟩ else none

/-- Sorts the mentions of exported names: certain ones, and ones in doubt. An unmatched qualifier
may be the name of a package whose path does not spell it, as long as some import is not used
otherwise. -/
def sortMentions (v : ImportView) (file : Path) (outline : List Outline) : References :=
  let found := (occurrencesOf [] outline).filter fun o => Name.isExported o.mention.name
  let unused := v.unusedDefaults found
  let unmatched :=
    if unused.isEmpty then [] else (found.filter v.isUnmatched).map (·.mention)
  ⟨found.filterMap v.reference? ++ unmatched.filterMap (guessed? unused),
    found.filterMap (v.shadowed? file) ++ unmatched.filterMap (unguessed? unused file)⟩

end ImportView

/-- The references of a source to the given imports. -/
def referencesIn (imports : Dict String) (path : Path) (file : Syntax.SourceFile) :
    References :=
  (ImportView.ofFile imports file).sortMentions path (Outline.ofFile file)

end GoStub
