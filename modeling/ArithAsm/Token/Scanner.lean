import ArithAsm.Token.Tokenize

/-!
Reading one token at a time, from wherever the cursor stands. The cursor may be put anywhere,
also left of the start, where it counts back from the end of the text.
-/

namespace ArithAsm.Token

structure Scanner where
  source : Text
  column : Int := 0

abbrev Scan := EStateM Failure Scanner

/-- The column where a cursor stops that walks from `column` as long as `passes` holds. A cursor
at or behind the end does not walk. -/
def walk (passes : Char → Bool) (text : Text) (column : Int) : Except Defect Int :=
  if text.length ≤ column then .ok column
  else match Text.onward? text column with
    | none => .error .cursorOutside
    | some ahead => .ok (column + (ahead.takeWhile passes).length)

def wordStart (text : Text) (column : Int) : Except Defect Int := walk Text.isBlank text column

def digitsEnd (text : Text) (column : Int) : Except Defect Int := walk Text.isDigit text column

namespace Scanner

def isExhausted (scanner : Scanner) : Bool := scanner.source.length ≤ scanner.column

end Scanner

namespace Scan

def ofDefect {α : Type} : Except Defect α → Scan α
  | .ok a => pure a
  | .error defect => throw (.defect defect)

def seek (column : Int) : Scan Unit := modify fun scanner => { scanner with column }

def symbol : Scan Char := do
  let scanner ← get
  match Text.at? scanner.source scanner.column with
  | some c => pure c
  | none => throw (.defect .cursorOutside)

def skipBlanks : Scan Unit := do
  let scanner ← get
  seek (← ofDefect (wordStart scanner.source scanner.column))

/-- Reads the run of digits at the cursor as a literal, also an empty run. -/
def integerBy (convert : Text → Scan Nat) : Scan Token := do
  let scanner ← get
  let stop ← ofDefect (digitsEnd scanner.source scanner.column)
  let digits := Text.slice scanner.source scanner.column stop
  let token ← literalBy (fun error => throw (.error error)) convert scanner.column digits
  seek stop
  return token

def integer : Scan Token := integerBy fun word => return Text.value word

/-- Reads the token at the cursor, which no blank may precede. -/
def next : Scan Token := do
  let scanner ← get
  let c ← symbol
  if operatorSymbols.contains c then
    seek (scanner.column + 1)
    pure (operator scanner.column c)
  else if Text.isDigit c then integer
  else throw (.error (.unrecognizedCharacter scanner.column [c]))

end Scan

end ArithAsm.Token
