import ArithAsm.Cli.Goal
import ArithAsm.Cli.Help
import ArithAsm.Cli.ProgramName

/-!
The command line from its arguments to its exit status. An error in the expression is shown to
the person who wrote it, under the expression where it has a place there.
-/

namespace ArithAsm.Session

/-- Runs a body that has to end the session, and turns its errors into messages. Without
`friendly` an error goes on as it is, and so does anything else that is neither an error nor an
interruption. -/
def guarded (source : Text) (friendly : Bool) (body : Session Unit) : Session Unit := do
  tryCatch body fun
    | .failed (.error error) =>
      if !friendly then throw (.failed (.error error))
      else match error.diagnostic? with
        | none => abort error.report
        | some diagnostic => refuse diagnostic source
    | .interrupted => do
      note "\n"
      message infoLevel "Interrupted by user (Ctrl+C)!" true
      exit 0
    | ending => throw ending
  abort "Bug in a CLI: error handler must has no-return"

def arguments (program : Text) (texts : List Text) : Session Arguments :=
  match Arguments.read texts with
  | .ok arguments => return arguments
  | .error .help =>
    match Help.text program with
    | .ok text => do
      print text
      exit 0
    | .error fault => throw (.failed (.defect (.templateFaulty fault)))
  | .error (.ignoredText flag text) =>
    refuse ⟨.usage, program ++ ": " ++ Arguments.ignoredMessage flag text, none⟩ []

def run (program : Text) (host : Host) (clock : Clock) (texts : List Text) : Session Unit := do
  let request ← Request.ofArguments program (← arguments program texts)
  guarded request.expression (!request.switches.rawErrors) (perform host clock request)
  abort "Bug in an CLI: toolchain must perform at least one goal!"

end ArithAsm.Session
