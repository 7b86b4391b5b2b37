import ArithAsm.Assembly.Line
import ArithAsm.Error
import ArithAsm.Expr

/-!
Writing assembly for a machine that computes on its stack. Operands are pushed, an operation pops
two and pushes its result. What was written before a failure stays written.
-/

namespace ArithAsm

/-- A step that writes lines behind those already written, or fails. -/
abbrev Emit := EStateM Failure (Array Line)

namespace Emit

def write (line : Line) : Emit Unit := modify (·.push line)

def writeCounting (layout : Layout) (line : Line) : Emit Nat := do
  write line
  return (line.text layout).length

def instructions (code : List Instruction) : Emit Unit :=
  modify (· ++ code.toArray.map .instruction)

def prologue (layout : Layout) : Emit Unit := do
  write (.directive ".intel_syntax noprefix")
  write (.directive (".global " ++ layout.entryPoint))
  write (.directive (layout.entryPoint ++ ":"))

def popInto (registers : List Register) : Emit Unit :=
  if registers.isEmpty then throw (.defect .registersMissing)
  else instructions (registers.map .pop)

def pushRegister (register : Register) : Emit Unit := instructions [.push register]

def epilogue : Emit Unit := do
  popInto [.primary]
  instructions [.ret]

/-- The numbers that an instruction can push by itself: those of 32 bits with a sign. -/
def fitsPush (n : Int) : Bool := -2147483648 ≤ n && n ≤ 2147483647

def pushCode (n : Int) : List Instruction :=
  if fitsPush n then [.pushNumber n] else [.move .primary n, .push .primary]

/-- The least magnitude that takes all 64 bits of a word: the 63rd power of two. -/
def wordMagnitude : Nat := 9223372036854775808

def pushNumber (n : Int) : Emit Unit :=
  if n.natAbs < wordMagnitude then instructions (pushCode n)
  else throw (.defect .literalTooWide)

def operationCode : Operation → List Instruction
  | .add => [.add .primary .secondary]
  | .subtract => [.subtract .primary .secondary]
  | .multiply => [.multiply .primary .secondary]
  | .divide => [.extendSign, .divide .secondary]

/-- Pops the right operand, then the left one, and pushes the result. A literal is refused when both
are popped. -/
def perform (kind : Expr.Kind) : Emit Unit := do
  popInto [.secondary, .primary]
  match kind with
  | .operation operation => instructions (operationCode operation)
  | .literal => throw (.defect .literalPerformed)
  pushRegister .primary

/-- Carries out a step on an empty program: the text written, and the failure if there was one. -/
def run (layout : Layout) (emit : Emit Unit) : Text × Option Failure :=
  match emit #[] with
  | .ok _ lines => (Line.program layout lines.toList, none)
  | .error failure lines => (Line.program layout lines.toList, some failure)

end Emit

end ArithAsm
