import ArithAsm.Expr.Reader

/-!
Parsing by recursive descent. An expression is a chain of products joined by `+` and `-`, a
product a chain of primaries joined by `*` and `/`, and a primary a literal or an expression in
parentheses. Chains grow to the left. The parser is granted a number of nested calls; five for
each level of parentheses are enough for every token list.
-/

namespace ArithAsm

inductive Level where
  | sum
  | product
  deriving DecidableEq

inductive Rule where
  | expression
  | product
  | chain (level : Level)
  | primary
  deriving DecidableEq

namespace Level

def operations : Level → List Operation
  | .sum => [.add, .subtract]
  | .product => [.multiply, .divide]

def operand : Level → Rule
  | .sum => .product
  | .product => .primary

end Level

namespace Read

def consumeOperation : List Operation → Read (Option Operation)
  | [] => return none
  | operation :: operations => do
    if ← consume operation.symbol then return some operation
    else consumeOperation operations

/-- Joins further operands to the `left` one. Each round takes a token, so there are no more rounds
than tokens ahead. -/
def joinOperands (level : Level) (operand : Read Expr) : Nat → Expr → Read Expr
  | 0, left => return left
  | rounds + 1, left => do
    match ← consumeOperation level.operations with
    | none => return left
    | some operation =>
      let right ← operand
      joinOperands level operand rounds (.binary operation left right)

/-- Reads what a rule describes, with at most `calls` calls nested in one another. -/
def rule : Nat → Rule → Read Expr
  | 0, _ => throw (.defect .callsExhausted)
  | calls + 1, .expression => rule calls (.chain .sum)
  | calls + 1, .product => rule calls (.chain .product)
  | calls + 1, .chain level => do
    let first ← rule calls level.operand
    joinOperands level (rule calls level.operand) (← get).remaining first
  | calls + 1, .primary => do
    let opened ← peek
    if ← consume "(" then
      enter opened
      let inner ← rule calls .expression
      expect ")"
      leave
      return inner
    else return .literal (← expectNumber)

def whole (calls : Nat) : Read Expr := do
  let expr ← rule calls .expression
  if ← atEnd then return expr
  else throw (.error (.unexpectedTrailingToken (← peek)))

end Read

namespace Expr

/-- The calls that suffice: five for each level of parentheses and for the level outside them. -/
def callsGranted : Nat := 5 * (Reader.greatestDepth + 1)

def parse (tokens : List Token) : Except Failure Expr :=
  match Reader.ofTokens tokens with
  | .error defect => .error (.defect defect)
  | .ok reader =>
    match Read.whole callsGranted reader with
    | .ok expr _ => .ok expr
    | .error failure _ => .error failure

end Expr

end ArithAsm
