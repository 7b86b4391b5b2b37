import ArithAsm.Error

/-!
Sessions: what a run of the command line writes to its two streams, and how it ends. Standard
output holds results only; all that is said about them goes to the error stream.
-/

namespace ArithAsm

structure Streams where
  out : Text := []
  err : Text := []
  deriving DecidableEq

inductive Ending where
  | exit (status : Nat)
  | failed (failure : Failure)
  | interrupted
  deriving DecidableEq

/-- A step that writes to the streams and may end the session. -/
abbrev Session := EStateM Ending Streams

namespace Session

def print (text : Text) : Session Unit :=
  modify fun streams => { streams with out := streams.out ++ text }

def note (text : Text) : Session Unit :=
  modify fun streams => { streams with err := streams.err ++ text }

def exit {α : Type} (status : Nat) : Session α := throw (.exit status)

def infoLevel : Text := "INFO"

def errorLevel : Text := "ERROR"

/-- A message of some level; one of the level `infoLevel` only if `verbose`. -/
def message (level text : Text) (verbose : Bool) : Session Unit :=
  if level = infoLevel && !verbose then return ()
  else note ("[" ++ level ++ "] " ++ text ++ "\n")

def abort {α : Type} (text : Text) : Session α := do
  message errorLevel text true
  exit 1

/-- Ends the session with a diagnostic. It stands at the margin, for its caret to point right. -/
def refuse {α : Type} (diagnostic : Diagnostic) (source : Text) : Session α := do
  match diagnostic.render source with
  | .ok text =>
    note text
    exit 1
  | .error defect => throw (.failed (.defect defect))

end Session

end ArithAsm
