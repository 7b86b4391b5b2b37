import ArithAsm.Assembly.Line
import ArithAsm.Token
import Mathlib.Tactic.Common

/-!
What is written, told as lines. Tokens are traced and listed one to a line, and so are the
instructions of a program. Lines that hold no break are found again in the text that they make.
-/

namespace ArithAsm

namespace Text

/-- The lines one under the other, each with its line end. -/
def ofLines (lines : List Text) : Text := lines.flatMap (· ++ ['\n'])

lemma ofLines_append (lines others : List Text) :
    ofLines (lines ++ others) = ofLines lines ++ ofLines others := List.flatMap_append

lemma splitOn_eq_singleton {c : Char} {part : Text} (h : c ∉ part) : splitOn c part = [part] := by
  induction part with
  | nil => rfl
  | cons d part ih =>
    have hd : d ≠ c := fun hd => h (hd ▸ List.mem_cons_self)
    rw [splitOn, if_neg hd, ih fun hm => h (.tail _ hm)]

lemma splitOn_append {c : Char} {part : Text} (h : c ∉ part) (rest : Text) :
    splitOn c (part ++ c :: rest) = part :: splitOn c rest := by
  induction part with
  | nil => rw [List.nil_append, splitOn, if_pos rfl]
  | cons d part ih =>
    have hd : d ≠ c := fun hd => h (hd ▸ List.mem_cons_self)
    rw [List.cons_append, splitOn, if_neg hd, ih fun hm => h (.tail _ hm)]

lemma splitOn_ofLines {lines : List Text} (h : ∀ line ∈ lines, '\n' ∉ line) :
    splitOn '\n' (ofLines lines) = lines ++ [[]] := by
  induction lines with
  | nil => rfl
  | cons line lines ih =>
    obtain ⟨hline, hlines⟩ := List.forall_mem_cons.mp h
    rw [ofLines, List.flatMap_cons, List.append_assoc, List.singleton_append,
      splitOn_append hline, ← ofLines, ih hlines, List.cons_append]

end Text

/-! ### Tokens and instructions as lines -/

namespace Token

def traced (token : Token) : Text :=
  token.kind.name ++ " " ++ token.value.shown ++ " " ++ location token.column

/-- What the listing tells of a token: its column, its kind and its value, with tabs between. -/
def listed (token : Token) : Text :=
  Text.ofInt token.column ++ "\t" ++ token.kind.name ++ "\t" ++ token.value.shown

lemma trace_eq_ofLines (tokens : List Token) :
    trace tokens = Text.ofLines (tokens.map traced) := by
  rw [Text.ofLines, List.flatMap_map]
  rfl

lemma listing_eq_ofLines (tokens : List Token) :
    listing tokens = Text.ofLines (tokens.map listed) := by
  rw [Text.ofLines, List.flatMap_map]
  rfl

end Token

def Instruction.line (layout : Layout) (instruction : Instruction) : Text :=
  layout.indentation ++ instruction.text

lemma Line.program_eq_ofLines (layout : Layout) (directives : List Text)
    (code : List Instruction) :
    Line.program layout (directives.map Line.directive ++ code.map Line.instruction) =
      Text.ofLines (directives ++ code.map (Instruction.line layout)) := by
  simp only [program, Text.ofLines, List.flatMap_append, List.flatMap_map]
  rfl

end ArithAsm
