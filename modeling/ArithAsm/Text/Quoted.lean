import ArithAsm.Text.Printable

/-!
Quoted texts. A text is shown between apostrophes, or between double quotes if it holds an
apostrophe and no double quote. The backslash and the quote in use are escaped, and so is what
is not printable, by the shortest of three hexadecimal forms.
-/

namespace ArithAsm.Text

def quoteFor (text : Text) : Char :=
  if text.contains '\'' && !text.contains '"' then '"' else '\''

def hexadecimal (width n : Nat) : Text :=
  let digits := Nat.toDigits 16 n
  List.replicate (width - digits.length) '0' ++ digits

/-- A character by its number, in the shortest of the three forms. -/
def escapedByNumber (c : Char) : Text :=
  if c.toNat < 0x100 then "\\x" ++ hexadecimal 2 c.toNat
  else if c.toNat < 0x10000 then "\\u" ++ hexadecimal 4 c.toNat
  else "\\U" ++ hexadecimal 8 c.toNat

def escaped (quote c : Char) : Text :=
  if c = quote || c = '\\' then ['\\', c]
  else if c = '\t' then "\\t"
  else if c = '\n' then "\\n"
  else if c = '\r' then "\\r"
  else if isPrintable c then [c]
  else escapedByNumber c

def quoted (text : Text) : Text :=
  let quote := quoteFor text
  quote :: text.flatMap (escaped quote) ++ [quote]

/-- The text with escapes in place of all that is not ASCII. -/
def asciiOnly (text : Text) : Text :=
  text.flatMap fun c => if c.toNat < 0x80 then [c] else escapedByNumber c

end ArithAsm.Text
