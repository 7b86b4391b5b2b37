import ArithAsm.Text.Decimal
import ArithAsm.Text.Quoted

/-!
Templates: texts with fields that values are filled into. A field begins with a percent sign, and
two of these stand for one that begins no field. A field may name a value in parentheses; without a
name it shows the whole record of values, which no more than one field can do, and none behind a
field with a name. Flags, a least width and a greatest length may follow. A letter ends the field
and says in what form the value is shown.
-/

namespace ArithAsm.Template

abbrev Record := List (Text × Text)

inductive Subject where
  | value (text : Text)
  | record (values : Record)

inductive Fault where
  | nameUnclosed
  | nameUnknown (name : Text)
  | fieldUnfinished
  | widthTooGreat
  | lengthTooGreat
  /-- A star stands for a number that is to be found among the values, which are all texts. -/
  | numberNotGiven
  /-- No value is named, and the record cannot be shown any more. -/
  | valuesUsedUp
  | formUnknown (letter : Char) (position : Nat)
  | formUnsuited (letter : Char) (kind : Text)
  deriving DecidableEq

namespace Subject

def recordText (values : Record) : Text :=
  let entries := values.map fun (name, text) => Text.quoted name ++ ": " ++ Text.quoted text
  "\x7b" ++ List.intercalate (", " : Text) entries ++ "\x7d"

def plain : Subject → Text
  | .value text => text
  | .record values => recordText values

def quoted : Subject → Text
  | .value text => Text.quoted text
  | .record values => recordText values

def kind : Subject → Text
  | .value _ => "str"
  | .record _ => "dict"

end Subject

structure Field where
  subject : Option Subject
  alignsLeft : Bool
  width : Nat
  greatestLength : Option Nat
  letter : Char
  rest : Text

namespace Field

/-- The flags; of these, only the one for alignment matters to a text. -/
def flags : Text := "-+ #0"

/-- The letters that may stand in front of the last one, and mean nothing. -/
def idleLetters : Text := "hlL"

def numericLetters : Text := "diuoxXeEfFgGc"

/-- The greatest width: one less than the 63rd power of two. -/
def greatestWidth : Nat := 9223372036854775807

def greatestCut : Nat := 2147483647

/-- The text up to the parenthesis that closes the one in front of it, and what follows; `depth`
parentheses that were opened further on are still open. -/
def name? (depth : Nat) : Text → Option (Text × Text)
  | [] => none
  | c :: text =>
    if c = ')' && depth = 0 then some ([], text)
    else
      let depth := if c = '(' then depth + 1 else if c = ')' then depth - 1 else depth
      (name? depth text).map fun (name, rest) => (c :: name, rest)

/-- The subject of a field, and what follows its name. Without a name that is the record, if
`fresh`. -/
def readSubject (values : Record) (fresh : Bool) (text : Text) :
    Except Fault (Option Subject × Text) :=
  match text with
  | '(' :: text =>
    match name? 0 text with
    | none => .error .nameUnclosed
    | some (name, rest) =>
      match values.lookup name with
      | none => .error (.nameUnknown name)
      | some value => .ok (some (.value value), rest)
  | text => .ok (if fresh then some (.record values) else none, text)

/-- The number in digits at the start of a text, zero if there is none, and what follows. One
greater than `greatest` is a fault. -/
def readNumber (subject : Option Subject) (greatest : Nat) (fault : Fault) (text : Text) :
    Except Fault (Nat × Text) :=
  let number := Text.value (text.takeWhile Text.isDigit)
  if text.head? = some '*' then
    .error (if subject.isSome then .numberNotGiven else .valuesUsedUp)
  else if greatest < number then .error fault
  else .ok (number, text.dropWhile Text.isDigit)

def readLength (subject : Option Subject) (text : Text) : Except Fault (Option Nat × Text) :=
  match text with
  | '.' :: text =>
    (readNumber subject greatestCut .lengthTooGreat text).map fun (n, rest) => (some n, rest)
  | text => .ok (none, text)

def dropIdle : Text → Text
  | [] => []
  | c :: text => if idleLetters.contains c then text else c :: text

def read (values : Record) (fresh : Bool) (text : Text) : Except Fault Field := do
  let (subject, text) ← readSubject values fresh text
  let alignsLeft := (text.takeWhile flags.contains).contains '-'
  let text := text.dropWhile flags.contains
  let (width, text) ← readNumber subject greatestWidth .widthTooGreat text
  let (greatestLength, text) ← readLength subject text
  match dropIdle text with
  | [] => throw .fieldUnfinished
  | letter :: rest => return { subject, alignsLeft, width, greatestLength, letter, rest }

def laid (field : Field) (text : Text) : Text :=
  let text := match field.greatestLength with
    | none => text
    | some n => text.take n
  let padding := List.replicate (field.width - text.length) ' '
  if field.alignsLeft then text ++ padding else padding ++ text

def filled (field : Field) (position : Nat) : Except Fault Text :=
  match field.subject with
  | none => .error .valuesUsedUp
  | some subject =>
    if field.letter = 's' then .ok (field.laid subject.plain)
    else if field.letter = 'r' then .ok (field.laid subject.quoted)
    else if field.letter = 'a' then .ok (field.laid (Text.asciiOnly subject.quoted))
    else if numericLetters.contains field.letter then
      .error (.formUnsuited field.letter subject.kind)
    else .error (.formUnknown field.letter position)

end Field

/-- Fills in the end of a template of `size` characters. The first `passed` characters of this end
belong to a field that is filled in already. The record can still be shown if `fresh`. -/
def fillFrom (values : Record) (size : Nat) (fresh : Bool) (passed : Nat) :
    Text → Except Fault Text
  | [] => .ok []
  | c :: text =>
    if passed ≠ 0 then fillFrom values size fresh (passed - 1) text
    else if c ≠ '%' then (fillFrom values size fresh 0 text).map (c :: ·)
    else if text.head? = some '%' then (fillFrom values size fresh 1 text).map ('%' :: ·)
    else do
      let field ← Field.read values fresh text
      let filled ← field.filled (size - field.rest.length - 1)
      let rest ← fillFrom values size false (text.length - field.rest.length) text
      return filled ++ rest

def fill (values : Record) (template : Text) : Except Fault Text :=
  fillFrom values template.length true 0 template

namespace Fault

def sign (c : Char) : Char := if 31 ≤ c.toNat && c.toNat < 127 then c else '?'

def unsuitedMessage (letter : Char) (kind : Text) : Text :=
  if letter = 'c' then "%c requires int or char"
  else if ("diu" : Text).contains letter then
    "%" ++ [letter] ++ " format: a real number is required, not " ++ kind
  else if ("oxX" : Text).contains letter then
    "%" ++ [letter] ++ " format: an integer is required, not " ++ kind
  else "must be real number, not " ++ kind

def message : Fault → Text
  | .nameUnclosed => "incomplete format key"
  | .nameUnknown name => Text.quoted name
  | .fieldUnfinished => "incomplete format"
  | .widthTooGreat => "width too big"
  | .lengthTooGreat => "precision too big"
  | .numberNotGiven => "* wants int"
  | .valuesUsedUp => "not enough arguments for format string"
  | .formUnknown letter position =>
    "unsupported format character '" ++ [sign letter] ++ "' (0x"
      ++ Text.hexadecimal 1 letter.toNat ++ ") at index " ++ Text.ofNat position
  | .formUnsuited letter kind => unsuitedMessage letter kind

end Fault

end ArithAsm.Template
