import ArithAsm.Error
import ArithAsm.Text.Blank

/-!
Reading a text as tokens. Blanks separate tokens, an operator is one character, and a literal is
a maximal run of digits whose value fits a signed machine word. The leftmost fault stops the
reading.
-/

namespace ArithAsm.Token

def operatorSymbols : Text := "+-*/()"

/-- The greatest literal: the greatest signed machine word, one less than the 63rd power of two. -/
def greatestLiteral : Int := 9223372036854775807

/-- The digits that decide the value. Zeros in front are dropped, one zero stays. -/
def significant (digits : Text) : Text :=
  match digits.dropWhile (· = '0') with
  | [] => ['0']
  | word => word

/-- Makes a literal of a run of digits, which may be empty; `convert` tells the value of a word. The
length is looked at first, so `convert` is never asked about a word longer than the greatest
literal. -/
def literalBy {m : Type → Type} [Monad m] (refuse : Error → m Token) (convert : Text → m Nat)
    (column : Int) (digits : Text) : m Token := do
  let word := significant digits
  if (Text.ofInt greatestLiteral).length < word.length then
    refuse (.integerLiteralOverflow column digits greatestLiteral)
  else if greatestLiteral < (← convert word) then
    refuse (.integerLiteralOverflow column digits greatestLiteral)
  else return ⟨.integer, digits, .number (← convert word), column⟩

def literal (column : Int) (digits : Text) : Except Error Token :=
  literalBy .error (fun word => .ok (Text.value word)) column digits

def operator (column : Int) (symbol : Char) : Token :=
  ⟨.operator, [symbol], .symbol [symbol], column⟩

def endAt (column : Int) : Token := ⟨.endOfInput, [], .number 0, column⟩

/-- The tokens of the text from `column` on, behind those already `found`. -/
def tokenizeFrom (found : Array Token) (column : Nat) (text : Text) :
    Except Error (List Token) :=
  match text with
  | [] => .ok (found.push (endAt column)).toList
  | c :: rest =>
    if Text.isBlank c then tokenizeFrom found (column + 1) rest
    else if operatorSymbols.contains c then
      tokenizeFrom (found.push (operator column c)) (column + 1) rest
    else if Text.isDigit c then
      let digits := c :: rest.takeWhile Text.isDigit
      match literal column digits with
      | .error error => .error error
      | .ok token =>
        tokenizeFrom (found.push token) (column + digits.length) (rest.dropWhile Text.isDigit)
    else .error (.unrecognizedCharacter column [c])
termination_by text.length
decreasing_by
  · simp
  · simp
  · exact Nat.lt_succ_of_le (List.dropWhile_suffix _).length_le

def tokenize (source : Text) : Except Error (List Token) := tokenizeFrom #[] 0 source

end ArithAsm.Token
