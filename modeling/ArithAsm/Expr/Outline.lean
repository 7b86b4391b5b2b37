import ArithAsm.Expr
import ArithAsm.Text.Decimal

/-!
The outline of an expression: one line for each node, a node before its operands, and operands
two columns further right than their node.
-/

namespace ArithAsm.Expr

def outlineLine (depth : Nat) (label : Text) : Text := List.replicate (2 * depth) ' ' ++ label

def pendingSize : List (Nat × Expr) → Nat
  | [] => 0
  | (_, expr) :: pending => expr.size + pendingSize pending

/-- Adds the lines of the trees that are pending, each with its depth, to those written. A leaf
that is no expression has no line. -/
def outlineFrom (written : Array Text) : List (Nat × Expr) → Array Text
  | [] => written
  | (depth, .literal value) :: pending =>
    outlineFrom (written.push (outlineLine depth (literalName ++ " " ++ Text.ofInt value))) pending
  | (depth, .binary operation left right) :: pending =>
    let label := operation.name ++ " (" ++ operation.symbol ++ ")"
    outlineFrom (written.push (outlineLine depth label))
      ((depth + 1, left) :: (depth + 1, right) :: pending)
  | (_, .foreign _) :: pending => outlineFrom written pending
termination_by pending => pendingSize pending
decreasing_by
  · simp [pendingSize, size]
  · simp [pendingSize, size]; omega
  · simp [pendingSize, size]

def outlineLines (expr : Expr) : List Text := (outlineFrom #[] [(0, expr)]).toList

/-- The outline as a text that does not end its last line. -/
def outline (expr : Expr) : Text := List.intercalate ("\n" : Text) expr.outlineLines

end ArithAsm.Expr
