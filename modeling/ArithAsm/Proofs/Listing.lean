import ArithAsm.Proofs.Lines
import ArithAsm.Proofs.Scanning

/-!
Reading assembly. A line at the margin is a directive or a label, an indented one is an
instruction: a mnemonic and its operands, which commas separate. What is read is what was written,
provided that the machine has the registers it names.
-/

namespace ArithAsm

namespace Text

/-- The number that a numeral stands for, which may be negative. -/
def readInt? (text : Text) : Option Int :=
  match text with
  | '-' :: digits =>
    if digits ≠ [] ∧ digits.all isDigit then some (-(value digits : Int)) else none
  | digits => if digits ≠ [] ∧ digits.all isDigit then some (value digits) else none

def unindented (text : Text) : Text := text.dropWhile (· = ' ')

/-- What commas separate, each without the spaces in front; there may be nothing. -/
def operands (text : Text) : List Text :=
  if unindented text = [] then [] else (splitOn ',' text).map unindented

def mnemonic (line : Text) : Text := (unindented line).takeWhile (· ≠ ' ')

def behindMnemonic (line : Text) : Text := (unindented line).dropWhile (· ≠ ' ')

end Text

def Register.read? (text : Text) : Option Register :=
  [.rax, .rdi, .rdx].find? fun register => register.text = text

namespace Instruction

def ofWords? (mnemonic : Text) : List Text → Option Instruction
  | [] =>
    if mnemonic = "cqo" then some .extendSign else if mnemonic = "ret" then some .ret else none
  | [operand] =>
    if mnemonic = "push" then
      (Text.readInt? operand).map .pushNumber <|> (Register.read? operand).map .push
    else if mnemonic = "pop" then (Register.read? operand).map .pop
    else if mnemonic = "idiv" then (Register.read? operand).map .divide
    else none
  | [destination, operand] => do
    let register ← Register.read? destination
    if mnemonic = "mov" then return .move register (← Text.readInt? operand)
    else if mnemonic = "add" then return .add register (← Register.read? operand)
    else if mnemonic = "sub" then return .subtract register (← Register.read? operand)
    else if mnemonic = "imul" then return .multiply register (← Register.read? operand)
    else none
  | _ => none

def read? (line : Text) : Option Instruction :=
  ofWords? (Text.mnemonic line) (Text.operands (Text.behindMnemonic line))

def registers : Instruction → List Register
  | .push register | .pop register | .move register _ | .divide register => [register]
  | .add register operand | .subtract register operand | .multiply register operand =>
    [register, operand]
  | .pushNumber _ | .extendSign | .ret => []

/-- The machine has the registers that the instruction names. -/
def Known (instruction : Instruction) : Prop :=
  ∀ register ∈ instruction.registers, Register.read? register.text = some register

instance : DecidablePred Known := fun instruction =>
  inferInstanceAs (Decidable (∀ register ∈ instruction.registers, _))

end Instruction

namespace Text

def isIndented (line : Text) : Bool := line.head? = some ' '

/-- The instructions of an assembly text, if each of them is one. -/
def readCode? (assembly : Text) : Option (List Instruction) :=
  ((splitOn '\n' assembly).filter isIndented).mapM Instruction.read?

/-- The lines at the margin that say something. -/
def margin (assembly : Text) : List Text :=
  (splitOn '\n' assembly).filter fun line => line ≠ [] ∧ ¬ isIndented line

/-! ### Parts of a text -/

/-- A word of a line: it is not empty and holds nothing that separates words or lines. -/
def IsWord (text : Text) : Prop := text ≠ [] ∧ ∀ c ∈ text, c ≠ ' ' ∧ c ≠ ',' ∧ c ≠ '\n'

instance : DecidablePred IsWord := fun text =>
  @instDecidableAnd _ _ inferInstance (List.decidableBAll _ text)

lemma isWord_ofInt (n : Int) : IsWord (ofInt n) := by
  have hdigit {c : Char} {n : Nat} (h : c ∈ ofNat n) : c ≠ ' ' ∧ c ≠ ',' ∧ c ≠ '\n' := by
    have := isDigit_of_mem_ofNat h
    refine ⟨?_, ?_, ?_⟩ <;> rintro rfl <;> cases this
  cases n with
  | ofNat n => exact ⟨Nat.toDigits_ne_nil, fun c => hdigit⟩
  | negSucc n =>
    refine ⟨List.cons_ne_nil _ _, fun c hc => ?_⟩
    rcases List.mem_cons.mp hc with rfl | hc
    · decide
    · exact hdigit hc

lemma readInt?_ofInt (n : Int) : readInt? (ofInt n) = some n := by
  have hdigits (n : Nat) : ofNat n ≠ [] ∧ (ofNat n).all isDigit :=
    ⟨Nat.toDigits_ne_nil, List.all_eq_true.mpr fun c => isDigit_of_mem_ofNat⟩
  cases n with
  | ofNat n =>
    rw [ofInt, readInt?, if_pos (hdigits n), value_ofNat]
    · rfl
    · intro digits h
      cases isDigit_of_mem_ofNat (h ▸ List.mem_cons_self : '-' ∈ ofNat n)
  | negSucc n =>
    rw [ofInt, readInt?]
    simp only [if_pos (hdigits _), value_ofNat]
    rfl

/-! ### Words of a line -/

variable {word operand : Text}

lemma unindented_cons (line : Text) : unindented (' ' :: line) = unindented line := rfl

lemma unindented_word (h : IsWord word) (rest : Text) :
    unindented (word ++ rest) = word ++ rest := by
  obtain ⟨c, word, rfl⟩ := List.exists_cons_of_ne_nil h.1
  refine dropWhile_eq_self fun d hd => ?_
  obtain rfl : c = d := by simpa using hd
  exact decide_eq_false (h.2 c List.mem_cons_self).1

lemma IsWord.forall_ne_space (h : IsWord word) : ∀ c ∈ word, decide (c ≠ ' ') = true :=
  fun c hc => decide_eq_true (h.2 c hc).1

lemma mnemonic_word (h : IsWord word) (rest : Text) :
    mnemonic (' ' :: ' ' :: (word ++ ' ' :: rest)) = word := by
  rw [mnemonic, unindented_cons, unindented_cons, unindented_word h,
    List.takeWhile_append_of_pos h.forall_ne_space, List.takeWhile_cons_of_neg (by decide),
    List.append_nil]

lemma behindMnemonic_word (h : IsWord word) (rest : Text) :
    behindMnemonic (' ' :: ' ' :: (word ++ ' ' :: rest)) = ' ' :: rest := by
  rw [behindMnemonic, unindented_cons, unindented_cons, unindented_word h,
    List.dropWhile_append_of_pos h.forall_ne_space, List.dropWhile_cons_of_neg (by decide)]

lemma IsWord.comma_not_mem (h : IsWord word) : ',' ∉ ' ' :: word := by
  intro hm
  rcases List.mem_cons.mp hm with hm | hm
  · cases hm
  · exact (h.2 ',' hm).2.1 rfl

lemma IsWord.newline_not_mem (h : IsWord word) : '\n' ∉ word := fun hm => (h.2 _ hm).2.2 rfl

lemma IsWord.unindented_eq (h : IsWord word) : unindented (' ' :: word) = word := by
  have := unindented_word h []
  rwa [List.append_nil] at this

lemma operands_singleton (h : IsWord operand) : operands (' ' :: operand) = [operand] := by
  rw [operands, h.unindented_eq, if_neg h.1, splitOn_eq_singleton h.comma_not_mem,
    List.map_singleton, h.unindented_eq]

lemma operands_pair (hw : IsWord word) (ho : IsWord operand) :
    operands (' ' :: (word ++ ',' :: ' ' :: operand)) = [word, operand] := by
  have hne : unindented (' ' :: (word ++ ',' :: ' ' :: operand)) ≠ [] := by
    rw [unindented_cons, unindented_word hw]
    exact List.append_ne_nil_of_left_ne_nil hw.1 _
  rw [operands, if_neg hne, ← List.cons_append, splitOn_append hw.comma_not_mem,
    splitOn_eq_singleton ho.comma_not_mem, List.map_cons, List.map_singleton, hw.unindented_eq,
    ho.unindented_eq]

end Text

/-! ### Instructions -/

namespace Instruction

variable {mnemonic word operand : Text}

lemma read?_one (hm : Text.IsWord mnemonic) (ho : Text.IsWord operand) :
    read? (' ' :: ' ' :: (mnemonic ++ ' ' :: operand)) = ofWords? mnemonic [operand] := by
  rw [read?, Text.mnemonic_word hm, Text.behindMnemonic_word hm, Text.operands_singleton ho]

lemma read?_two (hm : Text.IsWord mnemonic) (hw : Text.IsWord word) (ho : Text.IsWord operand) :
    read? (' ' :: ' ' :: (mnemonic ++ [' '] ++ word ++ [',', ' '] ++ operand)) =
      ofWords? mnemonic [word, operand] := by
  have hline : mnemonic ++ [' '] ++ word ++ [',', ' '] ++ operand =
      mnemonic ++ ' ' :: (word ++ ',' :: ' ' :: operand) := by simp
  rw [hline, read?, Text.mnemonic_word hm, Text.behindMnemonic_word hm, Text.operands_pair hw ho]

lemma read?_text_register {register : Register}
    (h : Register.read? register.text = some register) :
    Text.IsWord register.text ∧ Text.readInt? register.text = none := by
  have hmem := List.mem_of_find?_eq_some h
  simp only [List.mem_cons, List.not_mem_nil, or_false] at hmem
  rcases hmem with rfl | rfl | rfl <;> decide

/-- **An instruction is read back** from a line that it was written on. -/
theorem read?_text {instruction : Instruction} (h : instruction.Known) :
    read? ("  " ++ instruction.text) = some instruction := by
  have hword {register : Register} (h : Register.read? register.text = some register) :=
    (read?_text_register h).1
  cases instruction with
  | pushNumber n =>
    refine (@read?_one "push" _ (by decide) (Text.isWord_ofInt n)).trans ?_
    simp [ofWords?, Text.readInt?_ofInt]
  | push register =>
    have hr := h register (by simp [registers])
    refine (@read?_one "push" _ (by decide) (hword hr)).trans ?_
    simp [ofWords?, hr, (read?_text_register hr).2]
  | pop register =>
    have hr := h register (by simp [registers])
    refine (@read?_one "pop" _ (by decide) (hword hr)).trans ?_
    simp [ofWords?, hr]
  | move register n =>
    have hr := h register (by simp [registers])
    refine (@read?_two "mov" _ _ (by decide) (hword hr) (Text.isWord_ofInt n)).trans ?_
    simp [ofWords?, hr, Text.readInt?_ofInt]
  | add register operand =>
    have hr := h register (by simp [registers])
    have ho := h operand (by simp [registers])
    refine (@read?_two "add" _ _ (by decide) (hword hr) (hword ho)).trans ?_
    simp [ofWords?, hr, ho]
  | subtract register operand =>
    have hr := h register (by simp [registers])
    have ho := h operand (by simp [registers])
    refine (@read?_two "sub" _ _ (by decide) (hword hr) (hword ho)).trans ?_
    simp [ofWords?, hr, ho]
  | multiply register operand =>
    have hr := h register (by simp [registers])
    have ho := h operand (by simp [registers])
    refine (@read?_two "imul" _ _ (by decide) (hword hr) (hword ho)).trans ?_
    simp [ofWords?, hr, ho]
  | extendSign => decide
  | divide register =>
    have hr := h register (by simp [registers])
    refine (@read?_one "idiv" _ (by decide) (hword hr)).trans ?_
    simp [ofWords?, hr]
  | ret => decide

lemma newline_not_mem_text {instruction : Instruction} (h : instruction.Known) :
    '\n' ∉ instruction.text := by
  have hnumber (n : Int) := (Text.isWord_ofInt n).newline_not_mem
  have hregister : ∀ register ∈ instruction.registers, '\n' ∉ register.text :=
    fun register hm => (read?_text_register (h register hm)).1.newline_not_mem
  -- the equations of `text` would spell out every mnemonic
  delta text
  cases instruction <;>
    simp only [registers, List.forall_mem_cons, List.not_mem_nil] at hregister <;>
    simp [hnumber, hregister]

end Instruction

/-! ### Programs -/

namespace Text

variable {directives : List Text} {code : List Instruction}

lemma splitOn_program (hd : ∀ line ∈ directives, '\n' ∉ line)
    (hc : ∀ instruction ∈ code, instruction.Known) :
    splitOn '\n' (Line.program {} (directives.map Line.directive ++ code.map Line.instruction)) =
      directives ++ code.map (Instruction.line {}) ++ [[]] := by
  rw [Line.program_eq_ofLines, Text.splitOn_ofLines]
  intro line hm
  rcases List.mem_append.mp hm with hm | hm
  · exact hd line hm
  · obtain ⟨instruction, hi, rfl⟩ := List.mem_map.mp hm
    have := Instruction.newline_not_mem_text (hc instruction hi)
    simpa [Instruction.line] using this

lemma mapM_read?_line (hc : ∀ instruction ∈ code, instruction.Known) :
    (code.map (Instruction.line {})).mapM Instruction.read? = some code := by
  induction code with
  | nil => rfl
  | cons instruction code ih =>
    have hread : Instruction.read? (instruction.line {}) = some instruction :=
      Instruction.read?_text (hc instruction List.mem_cons_self)
    rw [List.map_cons, List.mapM_cons, hread, ih fun other hm => hc other (.tail _ hm)]
    rfl

/-- **A program is read back**: its instructions, and what stands at the margin. -/
theorem readCode?_program
    (hd : ∀ line ∈ directives, '\n' ∉ line ∧ line ≠ [] ∧ isIndented line = false)
    (hc : ∀ instruction ∈ code, instruction.Known) :
    readCode? (Line.program {} (directives.map Line.directive ++ code.map Line.instruction)) =
        some code ∧
      margin (Line.program {} (directives.map Line.directive ++ code.map Line.instruction)) =
        directives := by
  have hsplit := splitOn_program (fun line hm => (hd line hm).1) hc
  have hcode : ∀ line ∈ code.map (Instruction.line {}), isIndented line = true := by
    intro line hm
    obtain ⟨instruction, -, rfl⟩ := List.mem_map.mp hm
    rfl
  constructor
  · have hnone : directives.filter isIndented = [] :=
      List.filter_eq_nil_iff.mpr fun line hm => by simp [(hd line hm).2.2]
    rw [readCode?, hsplit, List.filter_append, List.filter_append, hnone,
      List.filter_eq_self.mpr hcode]
    simpa [isIndented] using mapM_read?_line hc
  · have hall : directives.filter (fun line => line ≠ [] ∧ ¬ isIndented line) = directives :=
      List.filter_eq_self.mpr fun line hm => by simp [(hd line hm).2]
    have hnone : (code.map (Instruction.line {})).filter
        (fun line => line ≠ [] ∧ ¬ isIndented line) = [] :=
      List.filter_eq_nil_iff.mpr fun line hm => by simp [hcode line hm]
    rw [margin, hsplit, List.filter_append, List.filter_append, hall, hnone]
    simp

end Text

end ArithAsm
