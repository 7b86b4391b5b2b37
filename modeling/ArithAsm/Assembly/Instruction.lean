import ArithAsm.Text.Decimal

/-!
The machine instructions that expressions are compiled to, and how they are written: destination
first, no mark on registers.
-/

namespace ArithAsm

/-- A register. The code uses three; any other is known by its name alone. -/
inductive Register where
  | rax
  | rdi
  | rdx
  | named (name : Text)
  deriving DecidableEq

namespace Register

/-- The register that a result is left in, and the left operand before it. -/
def primary : Register := .rax

def secondary : Register := .rdi

def text : Register → Text
  | .rax => "rax"
  | .rdi => "rdi"
  | .rdx => "rdx"
  | .named name => name

def ofText (text : Text) : Register :=
  if text = "rax" then .rax else if text = "rdi" then .rdi else if text = "rdx" then .rdx
  else .named text

end Register

inductive Instruction where
  | pushNumber (n : Int)
  | push (register : Register)
  | pop (register : Register)
  | move (register : Register) (n : Int)
  | add (register operand : Register)
  | subtract (register operand : Register)
  | multiply (register operand : Register)
  /-- Extends the sign of `rax` into `rdx`. -/
  | extendSign
  /-- Divides `rdx` and `rax`, taken together, by a register. -/
  | divide (register : Register)
  | ret
  deriving DecidableEq

def Instruction.text : Instruction → Text
  | .pushNumber n => "push " ++ Text.ofInt n
  | .push register => "push " ++ register.text
  | .pop register => "pop " ++ register.text
  | .move register n => "mov " ++ register.text ++ ", " ++ Text.ofInt n
  | .add register operand => "add " ++ register.text ++ ", " ++ operand.text
  | .subtract register operand => "sub " ++ register.text ++ ", " ++ operand.text
  | .multiply register operand => "imul " ++ register.text ++ ", " ++ operand.text
  | .extendSign => "cqo"
  | .divide register => "idiv " ++ register.text
  | .ret => "ret"

end ArithAsm
