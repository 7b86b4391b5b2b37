import ArithAsm.Text.Template

/-!
Defects: broken preconditions. No input text leads to one; a caller does that hands over what
it should not, such as tokens without an end, a tree with a leaf that is no literal, or a program
name that the help cannot take for a template.
-/

namespace ArithAsm

inductive Defect where
  | tokensUnterminated
  | integerUnvalued
  | parenthesesUnbalanced
  /-- The calls granted to the parser are used up. -/
  | callsExhausted
  | literalWithOperands
  | literalPerformed
  | literalTooWide
  | registersMissing
  /-- A leaf of the tree, shown as `shown`, is no expression. -/
  | leafForeign (shown : Text)
  | architectureForeign
  | targetMissing (field : Text)
  | cursorOutside
  | offsetNegative
  | tokensNotChosen
  | treeNotChosen
  | templateFaulty (fault : Template.Fault)
  /-- A failure of other code, with the message it brings. -/
  | outside (message : Text)
  deriving DecidableEq

def Defect.greatestShown : Nat := 100

/-- The text that reports a defect; two of them are reported without a word. -/
def Defect.message : Defect → Text
  | .tokensUnterminated => "Parser expects token sequence terminated with EOF token"
  | .integerUnvalued => ""
  | .parenthesesUnbalanced => "Unbalanced parentheses nesting"
  | .callsExhausted => "Parser ran out of calls"
  | .literalWithOperands => "Binary node cannot be of number literal kind"
  | .literalPerformed =>
    "NodeKind.NUMBER_LITERAL cannot be performed by codegen `perform_operation_onto_stack`"
  | .literalTooWide => "Can push only integers within signed 64 bits range (8 bytes, x64)"
  | .registersMissing => "Expected registers to store popped result into!"
  | .leafForeign shown =>
    "Expected code to be unreachable, but got: " ++ Text.abridged greatestShown shown
  | .architectureForeign => ""
  | .targetMissing field => "No target to take the " ++ field ++ " from"
  | .cursorOutside => "string index out of range"
  | .offsetNegative => "Diagnostic offset must be non-negative"
  | .tokensNotChosen => "Cannot perform tokens goal with no tokens flag set!"
  | .treeNotChosen => "Cannot perform AST goal with no AST flag set!"
  | .templateFaulty fault => fault.message
  | .outside message => message

end ArithAsm
