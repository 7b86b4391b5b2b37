import ArithAsm.Text.Decimal
import ArithAsm.Text.Quoted

/-!
Tokens: what an expression is made of, each with the column it starts at.
-/

namespace ArithAsm

/-- An operator is one of `+ - * /` or a parenthesis; every expression ends with an end token. -/
inductive Token.Kind where
  | operator
  | integer
  | endOfInput
  deriving DecidableEq

inductive Token.Value where
  | number (n : Int)
  | symbol (text : Text)
  deriving DecidableEq

/-- A token. `text` is how it is written and `column` where; a token that a scan made has the
value of its text, one that a caller made need not. -/
structure Token where
  kind : Token.Kind
  text : Text
  value : Token.Value
  column : Int
  deriving DecidableEq

namespace Token

def Kind.name : Kind → Text
  | .operator => "OPERATOR"
  | .integer => "INTEGER"
  | .endOfInput => "EOF"

def Value.shown : Value → Text
  | .number n => Text.ofInt n
  | .symbol text => Text.quoted text

/-- A token is the operator `symbol` by its value, however it is written. -/
def isOperator (token : Token) (symbol : Text) : Bool :=
  token.kind = .operator && token.value = .symbol symbol

def isEnd (token : Token) : Bool := token.kind = .endOfInput

/-- A place in the source, counted from one. -/
def location (column : Int) : Text :=
  "'(command-line-interface):" ++ Text.ofInt (column + 1) ++ "'"

def traceLine (token : Token) : Text :=
  token.kind.name ++ " " ++ token.value.shown ++ " " ++ location token.column ++ "\n"

def listLine (token : Token) : Text :=
  Text.ofInt token.column ++ "\t" ++ token.kind.name ++ "\t" ++ token.value.shown ++ "\n"

def trace (tokens : List Token) : Text := tokens.flatMap traceLine

def listing (tokens : List Token) : Text := tokens.flatMap listLine

end Token

end ArithAsm
