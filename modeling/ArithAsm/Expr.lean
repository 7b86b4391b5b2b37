import ArithAsm.Defect

/-!
Arithmetic expressions as trees.
-/

namespace ArithAsm

inductive Operation where
  | add
  | subtract
  | multiply
  | divide
  deriving DecidableEq

namespace Operation

def symbol : Operation → Text
  | .add => "+"
  | .subtract => "-"
  | .multiply => "*"
  | .divide => "/"

def name : Operation → Text
  | .add => "ADD"
  | .subtract => "SUBTRACT"
  | .multiply => "MULTIPLY"
  | .divide => "DIVIDE"

end Operation

/-- An expression. A caller may also plant a leaf that is none, which the tree keeps as the text
that shows it. -/
inductive Expr where
  | literal (value : Int)
  | binary (operation : Operation) (left right : Expr)
  | foreign (shown : Text)
  deriving DecidableEq

inductive Expr.Kind where
  | operation (operation : Operation)
  | literal
  deriving DecidableEq

namespace Expr

def literalName : Text := "NUMBER_LITERAL"

/-- A tree with two operands, which a literal has not. -/
def node (kind : Kind) (left right : Expr) : Except Defect Expr :=
  match kind with
  | .operation operation => .ok (.binary operation left right)
  | .literal => .error .literalWithOperands

def size : Expr → Nat
  | .literal _ => 1
  | .binary _ left right => left.size + right.size + 1
  | .foreign _ => 1

end Expr

end ArithAsm
