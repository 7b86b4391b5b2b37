import ArithAsm.Assembly.Emit

/-!
The program of an expression. An expression is compiled in post-order, its left operand first, so
that its code leaves its value on top of the stack. What is left to do is kept in a list, so deep
trees need no deep recursion.
-/

namespace ArithAsm

/-- What is left to do: compile a tree, or perform an operation whose operands are compiled. -/
inductive Task where
  | compile (expr : Expr)
  | perform (operation : Operation)
  deriving DecidableEq

namespace Task

/-- A bound on the steps that a task takes. -/
def steps : Task → Nat
  | .compile expr => 2 * expr.size
  | .perform _ => 1

def totalSteps : List Task → Nat
  | [] => 0
  | task :: tasks => task.steps + totalSteps tasks

end Task

namespace Emit

def tasks : List Task → Emit Unit
  | [] => return ()
  | .compile (.literal value) :: rest => do
    pushNumber value
    tasks rest
  | .compile (.binary operation left right) :: rest =>
    tasks (.compile left :: .compile right :: .perform operation :: rest)
  | .compile (.foreign shown) :: _ => throw (.defect (.leafForeign shown))
  | .perform operation :: rest => do
    perform (.operation operation)
    tasks rest
termination_by rest => Task.totalSteps rest
decreasing_by
  · simp [Task.totalSteps, Task.steps, Expr.size]
  · simp [Task.totalSteps, Task.steps, Expr.size]; omega
  · simp [Task.totalSteps, Task.steps]

/-- Writes the code that leaves the value of an expression on top of the stack. -/
def expression (expr : Expr) : Emit Unit := tasks [.compile expr]

def program (layout : Layout) (expr : Expr) : Emit Unit := do
  prologue layout
  expression expr
  epilogue

end Emit

end ArithAsm
