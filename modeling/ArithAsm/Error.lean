import ArithAsm.Diagnostic
import ArithAsm.Target
import ArithAsm.Token
import ArithAsm.Text.Kebab

/-!
Errors: what can be wrong with an expression, or with the target it is compiled for. Each has a
name in camel case, a label that is the name in kebab case, and a report for those who maintain
the program. Errors of the expression also have a diagnostic for the one who wrote it.
-/

namespace ArithAsm

inductive Error where
  | unrecognizedCharacter (column : Int) (character : Text)
  /-- The literal `digits` is greater than `greatest`. -/
  | integerLiteralOverflow (column : Int) (digits : Text) (greatest : Int)
  | expectedNumber (got : Token)
  /-- The operator `symbol` was to stand here. -/
  | expectedSymbol (symbol : Text) (got : Token)
  | unexpectedTrailingToken (got : Token)
  | expressionNestedTooDeeply (opened : Token) (greatest : Int)
  | unsupportedTarget (target : Target)
  | undocumented (details : List Text)
  deriving DecidableEq

namespace Error

def name : Error → Text
  | .unrecognizedCharacter .. => "UnrecognizedCharacterError"
  | .integerLiteralOverflow .. => "IntegerLiteralOverflowError"
  | .expectedNumber .. => "ExpectedNumberError"
  | .expectedSymbol .. => "ExpectedSymbolError"
  | .unexpectedTrailingToken .. => "UnexpectedTrailingTokenError"
  | .expressionNestedTooDeeply .. => "ExpressionNestedTooDeeplyError"
  | .unsupportedTarget .. => "UnsupportedTargetError"
  | .undocumented .. => "ExprcError"

def label (error : Error) : Text := "[" ++ Text.kebab error.name ++ "]"

/-- How a token is written; the end of input is not written at all. -/
def writtenOrEnd (token : Token) : Text :=
  if token.text = [] then "end of input" else token.text

def account : Error → Text
  | .unrecognizedCharacter column character =>
    "Unrecognized character " ++ Text.quoted character ++ " at " ++ Token.location column
      ++ "!\n\nExpected an integer, operator (`+`, `-`, `*`, `/`) or parenthesis."
  | .integerLiteralOverflow column digits greatest =>
    "Integer literal overflow at " ++ Token.location column ++ "!\n\nLiteral '" ++ digits
      ++ "' does not fit into signed 64 bit machine word (max " ++ Text.ofInt greatest ++ ")."
  | .expectedNumber got =>
    "Expected an integer but got " ++ got.kind.name ++ " (" ++ writtenOrEnd got ++ ") at "
      ++ Token.location got.column
      ++ "!\n\nDid you forgot an operand or typed two operators in a row?"
  | .expectedSymbol symbol got =>
    "Expected '" ++ symbol ++ "' but got " ++ got.kind.name ++ " (" ++ writtenOrEnd got ++ ") at "
      ++ Token.location got.column ++ "!"
  | .unexpectedTrailingToken got =>
    "Unexpected '" ++ got.text ++ "' after end of an expression at " ++ Token.location got.column
      ++ "!\n\nDid you forgot an operator between operands or have unbalanced parentheses?"
  | .expressionNestedTooDeeply opened greatest =>
    "Expression is nested too deeply at " ++ Token.location opened.column ++ "!\n\nAt most "
      ++ Text.ofInt greatest ++ " levels of parentheses are allowed."
  | .unsupportedTarget target =>
    "No code generator backend for target '" ++ target.triplet ++ "' (" ++ target.architecture
      ++ ")!\n\nOnly AMD64 targets are supported."
  | .undocumented details =>
    "Some internal error occurred (ExprcError("
      ++ List.intercalate (", " : Text) (details.map Text.quoted)
      ++ ")), that is currently not documented"

def report (error : Error) : Text :=
  match error with
  | .undocumented _ => error.account
  | _ => error.account ++ "\n\n" ++ error.label

/-- The diagnostic for the writer of the expression; an error of anything else has none. -/
def diagnostic? : Error → Option Diagnostic
  | .unrecognizedCharacter column _ => some ⟨.lex, "cannot tokenize", some column⟩
  | .integerLiteralOverflow column _ _ => some ⟨.lex, "integer literal is too large", some column⟩
  | .expectedNumber got => some ⟨.syntactic, "not a digit", some got.column⟩
  | .expectedSymbol symbol got =>
    some ⟨.syntactic, "not the expected symbol '" ++ symbol ++ "'", some got.column⟩
  | .unexpectedTrailingToken got =>
    some ⟨.syntactic, "unexpected token after expression", some got.column⟩
  | .expressionNestedTooDeeply opened _ =>
    some ⟨.syntactic, "expression is nested too deeply", some opened.column⟩
  | .unsupportedTarget _ => none
  | .undocumented _ => none

end Error

/-- Why a step did not succeed: the expression has an error, or the caller a defect. -/
inductive Failure where
  | error (cause : Error)
  | defect (cause : Defect)
  deriving DecidableEq

def Failure.report : Failure → Text
  | .error cause => cause.report
  | .defect cause => cause.message

end ArithAsm
