import ArithAsm.Text.LowerCase

/-!
Names in kebab case: `CamelCase` becomes `camel-case`.
-/

namespace ArithAsm.Text

def hyphenated (text : Text) : Text :=
  text.flatMap fun c => if c.isUpper then ['-', c] else [c]

/-- The name in kebab case: no hyphen in front of the first character, and all in lower case. -/
def kebab : Text → Text
  | [] => []
  | c :: text => lower (c :: hyphenated text)

end ArithAsm.Text
