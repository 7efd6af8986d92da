import GoStub.Text.Basic
import GoStub.World

/-! Formatting Go sources with `gofmt`. -/

namespace GoStub

/-- Why formatting fails. A formatter that is not there is no failure. -/
inductive FormatError
  | notRun (fault : ProgramFault)
  | rejected (errors : String)
  | notText (fault : Text.Utf8Fault)
  deriving DecidableEq

def FormatError.message : FormatError → String
  | .notRun (.feed error) => "Failed to write to gofmt: " ++ error
  | .notRun (.wait error) => "Failed to wait for gofmt: " ++ error
  | .notRun fault => "Failed to run gofmt: " ++ fault.message
  | .rejected errors => "gofmt rejected the stub: " ++ errors
  | .notText fault => "gofmt produced invalid UTF-8: " ++ fault.message

/-- The source as the formatter gives it back; without a formatter it stays as it is. -/
def formatted (w : World) (source : String) : Except FormatError String :=
  match w.start ⟨"gofmt", [], source, none⟩ with
  | .error (.files .notFound) => .ok source
  | .error fault => .error (.notRun fault)
  | .ok result =>
    if result.status ≠ 0 then
      .error (.rejected (Text.strip (Text.decodeLossy result.errors)))
    else
      match Text.decode result.output with
      | .ok text => .ok text
      | .error fault => .error (.notText fault)

end GoStub
