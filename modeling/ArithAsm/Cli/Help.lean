import ArithAsm.Cli.Flag
import ArithAsm.Text.Fill
import ArithAsm.Text.Template

/-!
The help text: how to call the program, and a table of what it takes.
-/

namespace ArithAsm.Help

/-- The width of a line: that of a terminal less two columns. -/
def lineWidth : Nat := 78

structure Entry where
  term : Text
  meaning : Text

def expressionEntry : Entry :=
  ⟨"expression", "Arithmetic expression to compile, e.g '(2+3)*4' (quote it for shell)"⟩

/-- The rows for the flags among these that the help does not keep silent about. -/
def flagEntries (flags : List Flag) : List Entry :=
  flags.filterMap fun flag =>
    flag.summary?.map fun summary => ⟨List.intercalate (", " : Text) flag.spellings, summary⟩

def generalEntries : List Entry := flagEntries (Flag.all.filter (!·.isInspection))

def inspectionEntries : List Entry := flagEntries (Flag.all.filter (·.isInspection))

/-- The column where meanings start: terms stand two columns in, and the longest one is two
columns away from its meaning. -/
def meaningColumn : Nat :=
  let terms := (expressionEntry :: generalEntries ++ inspectionEntries).map (·.term.length)
  terms.foldl max 0 + 4

def Entry.lines (entry : Entry) : List Text :=
  let margin := List.replicate meaningColumn ' '
  match Text.fill (lineWidth - meaningColumn) entry.meaning with
  | [] => ["  " ++ entry.term]
  | first :: rest =>
    let gap := List.replicate (meaningColumn - 2 - entry.term.length) ' '
    ("  " ++ entry.term ++ gap ++ first) :: rest.map (margin ++ ·)

def table (entries : List Entry) : Text :=
  List.intercalate ("\n" : Text) (entries.flatMap Entry.lines)

/-- How to call the program. The name of the program stands here as part of a template, into which
the name is filled once more where it asks for that. -/
def usage (program : Text) : Except Template.Fault Text :=
  Template.fill [("prog", program)] (program ++ " expression [options] [-h]")

def paragraphs (usage : Text) : List Text :=
  ["usage: " ++ usage,
    "exprc - compile single arithmetic expression into x86-64 assembly",
    "positional arguments:\n" ++ table [expressionEntry],
    "options:\n" ++ table generalEntries,
    "Debug:\n  Debugging and intermediate stages inspection",
    table inspectionEntries]

def text (program : Text) : Except Template.Fault Text :=
  (usage program).map fun usage =>
    Text.squeezeBreaks (List.intercalate ("\n\n" : Text) (paragraphs usage)) ++ "\n"

end ArithAsm.Help
