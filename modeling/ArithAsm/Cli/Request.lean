import ArithAsm.Assembly.Line
import ArithAsm.Cli.Arguments
import ArithAsm.Cli.Session
import ArithAsm.Target

/-!
Requests: what a command line asks for once its arguments are checked.
-/

namespace ArithAsm

structure Request where
  expression : Text
  switches : Switches
  target : Option Target
  layout : Layout
  deriving DecidableEq

inductive Goal where
  | version
  | tokens
  | tree
  | compile
  deriving DecidableEq

/-- The goal that the flags set, of several the first in this order; without any, to compile. -/
def Switches.goal (switches : Switches) : Goal :=
  if switches.version then .version
  else if switches.tokens then .tokens
  else if switches.tree then .tree
  else .compile

def Switches.goalCount (switches : Switches) : Nat :=
  switches.version.toNat + switches.tokens.toNat + switches.tree.toNat

namespace Request

/-- The request that arguments make. They set one goal at most, and they have one operand, which
only the version goal can do without. -/
def ofArguments (program : Text) (arguments : Arguments) : Session Request := do
  if 1 < arguments.switches.goalCount then
    Session.abort "Goal flags is mutually exclusive!"
  match arguments.operands with
  | [expression] => return request expression
  | operands =>
    if arguments.switches.version && operands.isEmpty then return request []
    else Session.refuse ⟨.usage, program ++ ": invalid number of arguments", none⟩ []
where
  request (expression : Text) : Request :=
    ⟨expression, arguments.switches, some .standard, {}⟩

end Request

end ArithAsm
