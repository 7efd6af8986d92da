import GoStub.World

/-! Why a stub cannot be made, and how that is reported. -/

namespace GoStub

/-- Why a package cannot be loaded. -/
inductive LoadFault
  | unreadableFile (file : Path) (fault : FileFault)
  | noPackageClause (file : Path)
  | noSources
  | noSourcesIn (dir : Path)
  | unreadableDirectory (dir : Path) (fault : FileFault)
  | unmapped
  | toolNotRun (command : String) (fault : ProgramFault)
  | toolReport (report : String)
  | unreadableListing (reason : String)
  | other (reason : String)
  deriving DecidableEq

def LoadFault.message : LoadFault → String
  | .unreadableFile ⟨file⟩ fault => s!"{file}: " ++ fault.message
  | .noPackageClause ⟨file⟩ => s!"{file} has no package clause"
  | .noSources => "no Go source files"
  | .noSourcesIn ⟨dir⟩ => s!"no Go source files in {dir}"
  | .unreadableDirectory ⟨dir⟩ fault => s!"cannot read {dir}: " ++ fault.message
  | .unmapped => "package is not mapped to a directory"
  | .toolNotRun command fault => s!"failed to run `{command} list`: " ++ fault.message
  | .toolReport report => report
  | .unreadableListing reason => s!"unreadable go list output: {reason}"
  | .other reason => reason

/-- Why a symbol has no stub. -/
inductive Obstacle
  | unsupported (reason : String)
  | deepEmbedding
  | deepAlias (name : String)
  | deepConstant
  | unknownConstant (name : String)
  | notConversion (name : String)
  | unclearConstant (name : String)
  | deepNamedType
  | notConstantType (name : String)
  | nonBasicConstant
  | deepVariable
  | uninferable (name source : String)
  | unknownInitializer (name : String)
  | genericInitializer (name function : String)
  | noSuchResult (function name : String)
  | unexportedType (package name : String)
  | unexportedLength (package name : String)
  | unsupportedLength (text : String)
  | lengthNotConstant (name : String)
  | lengthNotLiteral (name : String)
  | lengthNotResolved (name : String)
  | undeclared (name : String)
  | notImported (package : String)
  | constantWithoutKind
  | variableWithoutType
  deriving DecidableEq

def Obstacle.message : Obstacle → String
  | .unsupported reason => reason
  | .deepEmbedding => "interface embedding is too deep or cyclic"
  | .deepAlias name => s!"alias chain through {name} is too deep"
  | .deepConstant => "constant definition chain is too deep"
  | .unknownConstant name => s!"cannot resolve constant {name}"
  | .notConversion name => s!"constant {name} is not a conversion"
  | .unclearConstant name => s!"cannot determine the type of constant {name}"
  | .deepNamedType => "named type chain is too deep"
  | .notConstantType name => s!"{name} is not a constant type"
  | .nonBasicConstant => "constant has a non-basic type"
  | .deepVariable => "variable definition chain is too deep"
  | .uninferable name source => s!"cannot infer the type of {name} from `{source}`"
  | .unknownInitializer name => s!"cannot resolve the initializer of {name}"
  | .genericInitializer name function =>
    s!"cannot infer the type of {name} from generic function {function}"
  | .noSuchResult function name => s!"{function} does not return a value for {name}"
  | .unexportedType package name => s!"refers to unexported type {package}.{name}"
  | .unexportedLength package name =>
    s!"array length refers to unexported constant {package}.{name}"
  | .unsupportedLength text => s!"unsupported array length `{text}`"
  | .lengthNotConstant name => s!"array length {name} is not a constant"
  | .lengthNotLiteral name => s!"array length {name} is not an integer literal"
  | .lengthNotResolved name => s!"array length {name} was not resolved"
  | .undeclared name => s!"refers to {name} which the stub does not declare"
  | .notImported package => s!"no import for {package}"
  | .constantWithoutKind => "constant without a basic kind"
  | .variableWithoutType => "variable without a type"

inductive StubFault
  | load (package : String) (fault : LoadFault)
  | missing (package symbol : String)
  | render (package symbol : String) (obstacle : Obstacle)
  deriving DecidableEq

namespace StubFault

def message : StubFault → String
  | .load package fault => s!"cannot load package {package}: " ++ fault.message
  | .missing package symbol => s!"symbol {symbol} not found in package {package}"
  | .render package symbol obstacle =>
    s!"cannot render {package}.{symbol}: " ++ obstacle.message

/-- The package an error is about. -/
def package : StubFault → String
  | .load package _ => package
  | .missing package _ => package
  | .render package _ _ => package

/-- The symbol an error is about, if there is one. -/
def symbol? : StubFault → Option String
  | .load _ _ => none
  | .missing _ symbol => some symbol
  | .render _ symbol _ => some symbol

end StubFault

end GoStub
