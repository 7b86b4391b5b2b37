import ArithAsm.Assembly.Instruction
import Mathlib.Tactic.Common

/-!
The machine that the code is written for: registers of 64 bits, a stack of such words, and the
instructions as the manual of the processor tells them. A division by zero faults, and so does one
whose quotient is no signed word.
-/

namespace ArithAsm

abbrev Word := BitVec 64

namespace Word

/-- The least signed word, minus the 63rd power of two. -/
def least : Word := BitVec.intMin 64

/-- The integers that are signed words. -/
def Holds (n : Int) : Prop := -9223372036854775808 ≤ n ∧ n ≤ 9223372036854775807

instance (n : Int) : Decidable (Holds n) := inferInstanceAs (Decidable (_ ∧ _))

end Word

/-- Registers and stack, the top of the stack first. -/
@[ext] structure Machine where
  registers : Register → Word
  stack : List Word

inductive Machine.Status where
  | running (machine : Machine)
  | returned (machine : Machine)
  | faulted
  /-- There is no such instruction, or no cell to pop. -/
  | stuck

/-- What an instruction demands of a number that is written into it. -/
def Instruction.Legal : Instruction → Prop
  | .pushNumber n => -2147483648 ≤ n ∧ n ≤ 2147483647
  | .move _ n => Word.Holds n
  | _ => True

instance : DecidablePred Instruction.Legal
  | .pushNumber _ => inferInstanceAs (Decidable (_ ∧ _))
  | .move _ n => inferInstanceAs (Decidable (Word.Holds n))
  | .push _ | .pop _ | .add .. | .subtract .. | .multiply .. | .extendSign | .divide _ | .ret =>
    .isTrue trivial

namespace Machine

def put (machine : Machine) (register : Register) (word : Word) : Machine :=
  { machine with registers := Function.update machine.registers register word }

def push (machine : Machine) (word : Word) : Machine :=
  { machine with stack := word :: machine.stack }

/-- Divides the signed number of 128 bits in `rdx` and `rax`, toward zero. -/
def divide (machine : Machine) (divisor : Word) : Status :=
  let dividend := (machine.registers .rdx ++ machine.registers .rax : BitVec 128).toInt
  let quotient := dividend.tdiv divisor.toInt
  if divisor = 0 ∨ ¬ Word.Holds quotient then .faulted
  else .running ((machine.put .rax (BitVec.ofInt 64 quotient)).put .rdx
    (BitVec.ofInt 64 (dividend.tmod divisor.toInt)))

def step (instruction : Instruction) (machine : Machine) : Status :=
  if ¬ instruction.Legal then .stuck
  else match instruction with
    | .pushNumber n => .running (machine.push ((BitVec.ofInt 32 n).signExtend 64))
    | .push register => .running (machine.push (machine.registers register))
    | .pop register =>
      match machine.stack with
      | [] => .stuck
      | word :: stack => .running ({ machine with stack }.put register word)
    | .move register n => .running (machine.put register (BitVec.ofInt 64 n))
    | .add register operand =>
      .running (machine.put register (machine.registers register + machine.registers operand))
    | .subtract register operand =>
      .running (machine.put register (machine.registers register - machine.registers operand))
    | .multiply register operand =>
      .running (machine.put register (machine.registers register * machine.registers operand))
    | .extendSign =>
      .running (machine.put .rdx (if (machine.registers .rax).msb then -1 else 0))
    | .divide register => machine.divide (machine.registers register)
    | .ret => .returned machine

def run : List Instruction → Machine → Status
  | [], machine => .running machine
  | instruction :: code, machine =>
    match step instruction machine with
    | .running next => run code next
    | status => status

/-- The run pops no cell of `floor`: whenever a cell is popped, one more lies on top of these. -/
def Spares (floor : List Word) : List Instruction → Machine → Prop
  | [], _ => True
  | instruction :: code, machine =>
    (∀ register, instruction = .pop register →
      ∃ top cells, machine.stack = top :: (cells ++ floor)) ∧
    ∀ next, step instruction machine = .running next → Spares floor code next

/-! ### Single steps -/

variable {machine next : Machine} {code : List Instruction}

lemma run_cons_of_step {instruction : Instruction} (h : step instruction machine = .running next) :
    run (instruction :: code) machine = run code next := by
  rw [run, h]

lemma step_of_legal_move {register : Register} {n : Int} (h : Word.Holds n) :
    step (.move register n) machine = .running (machine.put register (BitVec.ofInt 64 n)) :=
  if_neg (not_not_intro h)

lemma step_of_legal_pushNumber {n : Int} (h : -2147483648 ≤ n ∧ n ≤ 2147483647) :
    step (.pushNumber n) machine = .running (machine.push (BitVec.ofInt 64 n)) := by
  have hword : (BitVec.ofInt 32 n).signExtend 64 = BitVec.ofInt 64 n := by
    refine BitVec.eq_of_toInt_eq ?_
    rw [BitVec.toInt_signExtend_of_le (by decide),
      BitVec.toInt_ofInt_eq_self (by decide) h.1 (Int.lt_add_one_of_le h.2),
      BitVec.toInt_ofInt_eq_self (by decide) (by omega) (by omega)]
  simp only [step, if_neg (not_not_intro (show (Instruction.pushNumber n).Legal from h)), hword]

lemma step_pop {register : Register} {word : Word} {stack : List Word}
    (h : machine.stack = word :: stack) :
    step (.pop register) machine = .running ({ machine with stack }.put register word) := by
  simp only [step, if_neg (not_not_intro (show (Instruction.pop register).Legal from trivial)), h]

/-- The sign of a word in front of it makes a number of 128 bits that is the same. -/
lemma toInt_extended (word : Word) :
    ((if word.msb then -1 else 0 : Word) ++ word : BitVec 128).toInt = word.toInt := by
  rw [BitVec.toInt_append, if_neg (by decide), BitVec.toInt_eq_msb_cond word]
  cases word.msb
  · simp
  · have : (-1 : Word).toInt = -1 := by decide
    simp only [if_true, this]
    omega

lemma divide_extended {a : Word} (b : Word) (hrax : machine.registers .rax = a)
    (hrdx : machine.registers .rdx = if a.msb then -1 else 0) :
    machine.divide b =
      if b = 0 ∨ ¬ Word.Holds (a.toInt.tdiv b.toInt) then .faulted
      else .running ((machine.put .rax (BitVec.ofInt 64 (a.toInt.tdiv b.toInt))).put .rdx
        (BitVec.ofInt 64 (a.toInt.tmod b.toInt))) := by
  rw [divide, hrax, hrdx, toInt_extended]

/-! ### Code in parts -/

lemma run_append (code rest : List Instruction) (machine : Machine) :
    run (code ++ rest) machine =
      match run code machine with
      | .running next => run rest next
      | status => status := by
  induction code generalizing machine with
  | nil => rfl
  | cons instruction code ih =>
    simp only [List.cons_append, run]
    cases step instruction machine with
    | running next => exact ih next
    | returned _ | faulted | stuck => rfl

lemma spares_append {floor : List Word} {code rest : List Instruction} {machine : Machine} :
    Spares floor (code ++ rest) machine ↔
      Spares floor code machine ∧
        ∀ next, run code machine = .running next → Spares floor rest next := by
  induction code generalizing machine with
  | nil => simp [Spares, run]
  | cons instruction code ih =>
    simp only [List.cons_append, Spares, run, ih, and_assoc]
    refine and_congr_right fun _ => ?_
    cases step instruction machine with
    | running next => simp
    | returned _ | faulted | stuck => simp

/-- Whoever spares the cells and one more on top of them spares the cells. -/
lemma Spares.of_cons {top : Word} {floor : List Word} {code : List Instruction}
    {machine : Machine} (h : Spares (top :: floor) code machine) : Spares floor code machine := by
  induction code generalizing machine with
  | nil => trivial
  | cons instruction code ih =>
    refine ⟨fun register hr => ?_, fun next hn => ih (h.2 next hn)⟩
    obtain ⟨first, cells, hs⟩ := h.1 register hr
    exact ⟨first, cells ++ [top], by simp [hs]⟩

end Machine

end ArithAsm
