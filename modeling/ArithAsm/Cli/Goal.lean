import ArithAsm.Cli.Elapsed
import ArithAsm.Cli.Request
import ArithAsm.Compile
import ArithAsm.Expr.Outline

/-!
Goals: the four things that a session can be about. Each writes its result and ends the
session; where an expression is wrong, standard output stays empty.
-/

namespace ArithAsm

structure Host where
  installed : Option Text
  platform : Text
  implementation : Text
  version : Text
  deriving DecidableEq

namespace Session

def fail {α : Type} (failure : Failure) : Session α := throw (.failed failure)

/-- The target of a request, of which the triplet is asked for first. -/
def target (request : Request) : Session Target :=
  match Target.required "triplet" request.target with
  | .ok target => return target
  | .error defect => fail (.defect defect)

def tokens (request : Request) : Session (List Token) :=
  match tokenizeTraced request.switches.traceTokens request.expression with
  | .ok (tokens, trace) => do
    note trace
    return tokens
  | .error error => fail (.error error)

def versionGoal (host : Host) (request : Request) : Session Unit := do
  print ("[exprc toolchain " ++ host.installed.getD "(not installed)" ++ "]\n")
  print "Toolchain target (may be unavailable on host machine):\n"
  let target ← target request
  print ("\tTriplet: " ++ target.triplet ++ "\n")
  print ("\tArchitecture: " ++ target.architecture ++ "\n")
  print ("\tOS: " ++ target.operatingSystem ++ "\n")
  print ("\tEntry point: " ++ request.layout.entryPoint ++ "\n")
  print "Host machine:\n"
  print ("\tPlatform: " ++ host.platform ++ "\n")
  print ("\tPython: " ++ host.implementation ++ " " ++ host.version ++ "\n")
  exit 0

def tokensGoal (request : Request) : Session Unit := do
  if !request.switches.tokens then fail (.defect .tokensNotChosen)
  print (Token.listing (← tokens request))
  exit 0

def treeGoal (request : Request) : Session Unit := do
  if !request.switches.tree then fail (.defect .treeNotChosen)
  match Expr.parse (← tokens request) with
  | .ok expr =>
    print (expr.outline ++ "\n")
    exit 0
  | .error failure => fail failure

/-- Writes the assembly of the expression, once all of it is known. -/
def compileGoal (request : Request) : Session Unit := do
  let target ← target request
  message infoLevel ("Compiling expression for target '" ++ target.triplet ++ "'...")
    request.switches.verbose
  let compilation :=
    compile target request.layout request.switches.traceTokens request.expression
  note compilation.trace
  match compilation.failure with
  | none =>
    print compilation.assembly
    exit 0
  | some failure => fail failure

def goal (host : Host) (request : Request) : Goal → Session Unit
  | .version => versionGoal host request
  | .tokens => tokensGoal request
  | .tree => treeGoal request
  | .compile => compileGoal request

/-- Performs the goal of a request, and says how long it took if it came to an end of its own. -/
def perform (host : Host) (clock : Clock) (request : Request) : Session Unit :=
  tryCatch (goal host request request.switches.goal) fun
    | .exit status => do
      message infoLevel ("Performing an goal took " ++ clock.seconds ++ " seconds!")
        request.switches.verbose
      exit status
    | ending => throw ending

end Session

end ArithAsm
