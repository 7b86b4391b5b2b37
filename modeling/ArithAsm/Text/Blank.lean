import ArithAsm.Text.Basic

/-!
Blank characters: the separators of Unicode that count as white space, together with the control
characters that move the carriage or separate records.
-/

namespace ArithAsm.Text

/-- The ranges of the blank characters, 29 characters in all. -/
def blankRanges : List (Nat × Nat) :=
  [(0x9, 0xd), (0x1c, 0x20), (0x85, 0x85), (0xa0, 0xa0), (0x1680, 0x1680), (0x2000, 0x200a),
    (0x2028, 0x2029), (0x202f, 0x202f), (0x205f, 0x205f), (0x3000, 0x3000)]

def isBlank (c : Char) : Bool := inRanges blankRanges c

end ArithAsm.Text
