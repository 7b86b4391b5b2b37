import ArithAsm.Error
import ArithAsm.Expr

/-!
Reading tokens one by one. A reader shows the token at its cursor and moves over it, never past
the end token, and it counts the parentheses that are open.
-/

namespace ArithAsm

/-- Tokens with a cursor: those ahead of it, none of which is an end, and the end that follows
them. What stands behind the first end token is never read, so a reader does not hold it.
`count` is the number of tokens before the end, and `depth` that of open parentheses. -/
structure Reader where
  ahead : List Token
  last : Token
  cursor : Nat
  count : Nat
  depth : Nat
  ahead_not_isEnd : ∀ token ∈ ahead, token.isEnd = false
  last_isEnd : last.isEnd = true
  cursor_add_length : cursor + ahead.length = count

abbrev Read := EStateM Failure Reader

namespace Reader

/-- As many parentheses as may be open at once. -/
def greatestDepth : Nat := 100

/-- A reader at the first token. The token list has to end with an end token. -/
def ofTokens (tokens : List Token) : Except Defect Reader :=
  match h : tokens.find? Token.isEnd with
  | none => .error .tokensUnterminated
  | some last =>
    if tokens.getLast?.any Token.isEnd then
      let ahead := tokens.takeWhile fun token => !token.isEnd
      .ok {
        ahead
        last
        cursor := 0
        count := ahead.length
        depth := 0
        ahead_not_isEnd := fun token ht => by
          simpa using List.all_eq_true.1 List.all_takeWhile token ht
        last_isEnd := List.find?_some h
        cursor_add_length := Nat.zero_add _ }
    else .error .tokensUnterminated

def current (reader : Reader) : Token := reader.ahead.head?.getD reader.last

def remaining (reader : Reader) : Nat := reader.count - reader.cursor

theorem remaining_eq_length (reader : Reader) : reader.remaining = reader.ahead.length := by
  have h := reader.cursor_add_length
  unfold remaining
  omega

/-- The reader behind its current token; at the end it stays where it is. -/
def advanced (reader : Reader) : Reader :=
  match h : reader.ahead with
  | [] => reader
  | _ :: ahead =>
    { reader with
      ahead
      cursor := reader.cursor + 1
      ahead_not_isEnd := fun token ht => reader.ahead_not_isEnd token (by simp [h, ht])
      cursor_add_length := by
        have hl := reader.cursor_add_length
        simp only [h, List.length_cons] at hl
        omega }

end Reader

namespace Read

def peek : Read Token := return (← get).current

def next : Read Token := do
  let token ← peek
  modify Reader.advanced
  return token

def consume (symbol : Text) : Read Bool := do
  if (← peek).isOperator symbol then
    let _ ← next
    return true
  else return false

def expect (symbol : Text) : Read Unit := do
  let token ← peek
  if token.isOperator symbol then
    let _ ← next
  else throw (.error (.expectedSymbol symbol token))

def expectNumber : Read Int := do
  let token ← peek
  if token.kind = .integer then
    match token.value with
    | .number n =>
      let _ ← next
      return n
    | .symbol _ => throw (.defect .integerUnvalued)
  else throw (.error (.expectedNumber token))

def atEnd : Read Bool := return (← peek).isEnd

/-- Counts a parenthesis as open, unless that is one too many. -/
def enter (opened : Token) : Read Unit := do
  let reader ← get
  if Reader.greatestDepth ≤ reader.depth then
    throw (.error (.expressionNestedTooDeeply opened Reader.greatestDepth))
  else set { reader with depth := reader.depth + 1 }

def leave : Read Unit := do
  let reader ← get
  if reader.depth = 0 then throw (.defect .parenthesesUnbalanced)
  else set { reader with depth := reader.depth - 1 }

end Read

end ArithAsm
