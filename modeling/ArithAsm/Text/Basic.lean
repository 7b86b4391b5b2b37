/-!
Text as a list of characters, and the positions in it. A position counts characters from the
start; a negative one counts back from the end, so that `-1` is the last character.
-/

namespace ArithAsm

/-- A text is the list of its characters, so lengths and positions count characters. -/
abbrev Text := List Char

instance : Coe String Text := ⟨String.toList⟩

namespace Text

def offset (text : Text) (position : Int) : Int :=
  if position < 0 then text.length + position else position

def at? (text : Text) (position : Int) : Option Char :=
  let offset := Text.offset text position
  if offset < 0 then none else text[offset.toNat]?

/-- What a cursor meets that starts at a position and moves right one character at a time. A
negative position lies within the last characters; from there the cursor comes to the start,
so it meets the whole text once more. -/
def onward? (text : Text) (position : Int) : Option Text :=
  let offset := Text.offset text position
  if 0 ≤ position then some (text.drop position.toNat)
  else if offset < 0 then none
  else some (text.drop offset.toNat ++ text)

/-- The characters from position `first` up to, not including, position `last`; positions outside
the text stand for its nearer end. -/
def slice (text : Text) (first last : Int) : Text :=
  let start := (Text.offset text first).toNat
  (text.drop start).take ((Text.offset text last).toNat - start)

def abridged (length : Nat) (text : Text) : Text :=
  if text.length ≤ length then text else text.take length ++ "..."

/-- The parts of a text between the characters `c`, one part more than there are of these. -/
def splitOn (c : Char) : Text → List Text
  | [] => [[]]
  | d :: text =>
    if d = c then [] :: splitOn c text
    else match splitOn c text with
      | [] => [[d]]
      | part :: parts => (d :: part) :: parts

def isPartOf (part : Text) : Text → Bool
  | [] => part.isEmpty
  | c :: text => part.isPrefixOf (c :: text) || isPartOf part text

def inRanges (ranges : List (Nat × Nat)) (c : Char) : Bool :=
  ranges.any fun (first, last) => first ≤ c.toNat && c.toNat ≤ last

end Text

end ArithAsm
