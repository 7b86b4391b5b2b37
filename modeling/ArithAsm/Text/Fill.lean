import ArithAsm.Text.Basic

/-!
Filling lines with words: as many words on a line as its width takes, one space between words.
-/

namespace ArithAsm.Text

/-- Puts the words behind those on the line that has begun, on further lines where it is full. A
word longer than the width has a line of its own. -/
def fillFrom (width : Nat) (line : Text) : List Text → List Text
  | [] => [line]
  | word :: words =>
    if line.length + 1 + word.length ≤ width then fillFrom width (line ++ ' ' :: word) words
    else line :: fillFrom width word words

def fill (width : Nat) (text : Text) : List Text :=
  match (splitOn ' ' text).filter (· ≠ []) with
  | [] => []
  | word :: words => fillFrom width word words

/-- Line breaks at the front of a text beyond the second one dropped, and so on from there. -/
def squeezeBreaksFrom (breaks : Nat) : Text → Text
  | [] => []
  | c :: text =>
    if c = '\n' then
      if breaks < 2 then c :: squeezeBreaksFrom (breaks + 1) text
      else squeezeBreaksFrom breaks text
    else c :: squeezeBreaksFrom 0 text

def squeezeBreaks (text : Text) : Text := squeezeBreaksFrom 0 text

end ArithAsm.Text
