import ArithAsm.Assembly.Instruction

/-!
Assembly as lines of text. Directives and labels stand at the margin, instructions are indented.
-/

namespace ArithAsm

/-- The choices that a program text leaves open. -/
structure Layout where
  entryPoint : Text := "main"
  indentation : Text := "  "
  deriving DecidableEq

inductive Line where
  | directive (text : Text)
  | instruction (code : Instruction)
  /-- Texts indented like instructions, whatever they say; without any, one line of indentation. -/
  | block (texts : List Text)
  deriving DecidableEq

namespace Line

def text (layout : Layout) : Line → Text
  | .directive text => text ++ "\n"
  | .instruction code => layout.indentation ++ code.text ++ "\n"
  | .block texts =>
    layout.indentation ++ List.intercalate ("\n" ++ layout.indentation : Text) texts ++ "\n"

def program (layout : Layout) (lines : List Line) : Text := lines.flatMap (text layout)

end Line

end ArithAsm
