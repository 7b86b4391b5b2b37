import ArithAsm.Cli.Run

/-!
The program: arguments in, results on standard output, all else on the error stream.
-/

namespace ArithAsm.Program

def name : Text := "exprc"

def host : Host := ⟨none, "unknown", "Lean", "4"⟩

def session (arguments : List String) (start stop : Nat) : Session Unit :=
  Session.run name host ⟨start, stop⟩ (arguments.map String.toList)

/-- What a session wrote and the status that it exits with. -/
def outcome (session : Session Unit) : Streams × UInt32 :=
  match session {} with
  | .ok _ streams => (streams, 0)
  | .error (.exit status) streams => (streams, status.toUInt32)
  | .error (.failed failure) streams =>
    ({ streams with err := streams.err ++ failure.report ++ "\n" }, 1)
  | .error .interrupted streams => (streams, 130)

end ArithAsm.Program

def main (arguments : List String) : IO UInt32 := do
  let start ← IO.monoNanosNow
  let session := ArithAsm.Program.session arguments start
  -- Standard output does not depend on the clock, which is read again when that is written.
  let (first, _) := ArithAsm.Program.outcome (session start)
  (← IO.getStdout).putStr (String.ofList first.out)
  let (last, status) := ArithAsm.Program.outcome (session (← IO.monoNanosNow))
  (← IO.getStderr).putStr (String.ofList last.err)
  return status
