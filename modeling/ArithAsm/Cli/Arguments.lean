import ArithAsm.Cli.Flag
import ArithAsm.Text.Decimal
import ArithAsm.Text.Quoted

/-!
Reading the command line. Each argument up to the separator `--` is an operand, a flag, or else
unknown; behind the separator all are operands. The first run of operands is taken as a whole,
the separator in it dropped; operands that come later, and unknown arguments, are taken behind it
as they are.
-/

namespace ArithAsm

inductive Argument where
  | operand (text : Text)
  | bare (flag : Flag)
  /-- A flag with a text attached, directly or behind an equals sign. Only if the flag is spelled
  with a single `letter` can the text be further flags. -/
  | attached (flag : Flag) (letter : Bool) (text : Text)
  | unknown (text : Text)
  deriving DecidableEq

structure Arguments where
  operands : List Text
  switches : Switches
  deriving DecidableEq

inductive Arguments.Stop where
  | help
  | ignoredText (flag : Flag) (text : Text)
  deriving DecidableEq

namespace Argument

def isDigits (text : Text) : Bool := text ≠ [] && text.all Text.isScriptDigit

/-- A number without its sign: digits, or a point with digits behind it and perhaps in front. -/
def isUnsigned (text : Text) : Bool :=
  isDigits text ||
    match text.dropWhile Text.isScriptDigit with
    | '.' :: places => isDigits places
    | _ => false

/-- A line break at the end does not keep a text from being a negative number. -/
def isNegativeNumber : Text → Bool
  | '-' :: text =>
    isUnsigned text || (text.getLast? = some '\n' && isUnsigned text.dropLast)
  | _ => false

def joined? (text : Text) : Option Argument :=
  match text.dropWhile (· ≠ '=') with
  | [] => none
  | _ :: value =>
    let spelling := text.takeWhile (· ≠ '=')
    (Flag.ofSpelling? spelling).map fun flag => .attached flag (spelling.length = 2) value

def clustered? (text : Text) : Option Argument :=
  (Flag.ofSpelling? (text.take 2)).map fun flag => .attached flag true (text.drop 2)

/-- What an argument in front of the separator is. A text with a dash in front that is no flag may
still be an operand: the dash alone, a negative number, or a text with a space in it. -/
def ofText (text : Text) : Argument :=
  if text.head? ≠ some '-' then .operand text
  else match Flag.ofSpelling? text with
    | some flag => .bare flag
    | none =>
      if text.length = 1 then .operand text
      else match joined? text <|> clustered? text with
        | some argument => argument
        | none =>
          if isNegativeNumber text || text.contains ' ' then .operand text else .unknown text

/-- What the arguments of a command line are. The separator itself counts as an operand here. -/
def ofTexts : List Text → List Argument
  | [] => []
  | text :: texts =>
    if text = "--" then (text :: texts).map .operand
    else ofText text :: ofTexts texts

/-- The flags in a cluster that begins with `flag`, of one letter, and goes on with the text. Each
character of the text has to be the letter of a flag. -/
def cluster (flag : Flag) : Text → Except Arguments.Stop (List Flag)
  | [] => .error (.ignoredText flag [])
  | c :: text =>
    match Flag.ofSpelling? ['-', c] with
    | none => .error (.ignoredText flag (c :: text))
    | some next =>
      if text = [] then .ok [flag, next] else (cluster next text).map (flag :: ·)

end Argument

namespace Arguments

/-- What is read so far: the first run of operands, whether it has ended, what goes behind it, and
the flags. -/
structure Tally where
  run : List Text := []
  ended : Bool := false
  behind : List Text := []
  switches : Switches := {}

namespace Tally

def endRun (tally : Tally) : Tally := { tally with ended := tally.ended || tally.run ≠ [] }

def operand (tally : Tally) (text : Text) : Tally :=
  if tally.ended then { tally with behind := tally.behind ++ [text] }
  else { tally with run := tally.run ++ [text] }

def leftover (tally : Tally) (text : Text) : Tally :=
  { tally.endRun with behind := tally.behind ++ [text] }

def flags (tally : Tally) (flags : List Flag) : Except Stop Tally :=
  if flags.contains .help then .error .help
  else .ok { tally.endRun with switches := flags.foldl Switches.set tally.switches }

def take (tally : Tally) : Argument → Except Stop Tally
  | .operand text => .ok (tally.operand text)
  | .unknown text => .ok (tally.leftover text)
  | .bare flag => tally.flags [flag]
  | .attached flag letter text =>
    if !letter then .error (.ignoredText flag text)
    else
      match Argument.cluster flag text with
      | .error stop => .error stop
      | .ok flags => tally.flags flags

end Tally

def read (texts : List Text) : Except Stop Arguments :=
  match (Argument.ofTexts texts).foldlM Tally.take {} with
  | .error stop => .error stop
  | .ok tally => .ok ⟨tally.run.erase "--" ++ tally.behind, tally.switches⟩

def ignoredMessage (flag : Flag) (text : Text) : Text :=
  "argument " ++ List.intercalate ("/" : Text) flag.spellings
    ++ ": ignored explicit argument " ++ Text.quoted text

end Arguments

end ArithAsm
