import ArithAsm.Proofs.Emission
import ArithAsm.Proofs.Machine

/-!
The value of an expression in words of 64 bits, and what its code does on the machine. The code of
an expression leaves the value on top of the stack it started with, and pops none of the cells
below; where there is no value it faults. A quotient has to be a word. Arithmetic that wraps here
too differs in one quotient only, that of the least word by minus one.
-/

namespace ArithAsm

namespace Operation

def exact : Operation → Int → Int → Int
  | .add, a, b => a + b
  | .subtract, a, b => a - b
  | .multiply, a, b => a * b
  | .divide, a, b => a.tdiv b

/-- The result wrapped to a word; a division by zero has none. -/
def wrapped? (operation : Operation) (a b : Word) : Option Word :=
  if operation = .divide ∧ b = 0 then none
  else some (BitVec.ofInt 64 (operation.exact a.toInt b.toInt))

/-- A division whose quotient is no word. -/
def Overflows (operation : Operation) (a b : Word) : Prop :=
  operation = .divide ∧ ¬ Word.Holds (operation.exact a.toInt b.toInt)

instance (operation : Operation) (a b : Word) : Decidable (operation.Overflows a b) :=
  inferInstanceAs (Decidable (_ ∧ _))

/-- The result wrapped to a word; a division by zero has none, nor has one that overflows. -/
def result? (operation : Operation) (a b : Word) : Option Word :=
  if operation.Overflows a b then none else operation.wrapped? a b

end Operation

namespace Expr

def evaluate (apply : Operation → Word → Word → Option Word) : Expr → Option Word
  | .literal value => some (BitVec.ofInt 64 value)
  | .binary operation left right =>
    (left.evaluate apply).bind fun a => (right.evaluate apply).bind (apply operation a)
  | .foreign _ => none

/-- The value, where every quotient has to be a word. -/
abbrev value? : Expr → Option Word := evaluate Operation.result?

/-- The value by arithmetic that wraps throughout. -/
abbrev wrapped? : Expr → Option Word := evaluate Operation.wrapped?

/-- Somewhere the least word is divided by minus one. -/
def QuotientOverflows : Expr → Prop
  | .binary operation left right =>
    left.QuotientOverflows ∨ right.QuotientOverflows ∨
      operation = .divide ∧ left.wrapped? = some Word.least ∧ right.wrapped? = some (-1)
  | _ => False

end Expr

/-! ### The quotient that is no word -/

namespace Word

lemma holds_toInt (word : Word) : Holds word.toInt :=
  ⟨BitVec.le_toInt word, BitVec.toInt_le⟩

lemma holds_of_natAbs_lt {n : Int} (h : n.natAbs < Emit.wordMagnitude) : Holds n := by
  unfold Emit.wordMagnitude at h
  exact ⟨by omega, by omega⟩

/-- The quotient of two words is a word, but for that of the least word by minus one. -/
lemma not_holds_tdiv_iff {a b : Word} :
    ¬ Holds (a.toInt.tdiv b.toInt) ↔ a = least ∧ b = -1 := by
  constructor
  · intro h
    obtain ⟨hlow, hhigh⟩ := holds_toInt a
    have habs : (a.toInt.tdiv b.toInt).natAbs = a.toInt.natAbs / b.toInt.natAbs :=
      Int.natAbs_tdiv _ _
    have hle : a.toInt.natAbs / b.toInt.natAbs ≤ a.toInt.natAbs := Nat.div_le_self _ _
    -- only a magnitude that no other word has is out of reach, and it takes the divisor one
    have hq : a.toInt.natAbs / b.toInt.natAbs = 9223372036854775808 := by
      unfold Holds at h
      omega
    have ha : a.toInt = least.toInt := by
      rw [show least.toInt = -9223372036854775808 by decide]
      omega
    have hb : b.toInt.natAbs = 1 := by
      rw [show a.toInt.natAbs = 9223372036854775808 by omega] at hq
      have hpos : b.toInt.natAbs ≠ 0 := fun h0 => by simp [h0] at hq
      by_contra hne
      have hhalf : 9223372036854775808 / b.toInt.natAbs ≤ 9223372036854775808 / 2 :=
        Nat.div_le_div_left (by omega) (by decide)
      omega
    refine ⟨BitVec.eq_of_toInt_eq ha, BitVec.eq_of_toInt_eq ?_⟩
    rcases Int.natAbs_eq_iff.mp hb with h1 | h1
    · rw [h1] at h
      exact absurd (by simpa using holds_toInt a) h
    · exact h1
  · rintro ⟨rfl, rfl⟩
    decide

end Word

namespace Operation

lemma overflows_iff {operation : Operation} {a b : Word} :
    operation.Overflows a b ↔ operation = .divide ∧ a = Word.least ∧ b = -1 := by
  refine and_congr_right fun h => ?_
  rw [h]
  exact Word.not_holds_tdiv_iff

lemma result?_divide (a b : Word) :
    result? .divide a b =
      if b = 0 ∨ ¬ Word.Holds (a.toInt.tdiv b.toInt) then none
      else some (BitVec.ofInt 64 (a.toInt.tdiv b.toInt)) := by
  by_cases hb : b = 0 <;> by_cases hq : Word.Holds (a.toInt.tdiv b.toInt) <;>
    simp [result?, Overflows, wrapped?, exact, hb, hq]

lemma result?_of_ne_divide {operation : Operation} (h : operation ≠ .divide) (a b : Word) :
    operation.result? a b = some (BitVec.ofInt 64 (operation.exact a.toInt b.toInt)) := by
  rw [result?, if_neg fun ho => h ho.1, wrapped?, if_neg fun ho => h ho.1]

lemma result?_add (a b : Word) : result? .add a b = some (a + b) := by
  rw [result?_of_ne_divide (by decide), exact, BitVec.ofInt_add, BitVec.ofInt_toInt,
    BitVec.ofInt_toInt]

lemma result?_subtract (a b : Word) : result? .subtract a b = some (a - b) := by
  rw [result?_of_ne_divide (by decide), exact]
  exact congrArg some (BitVec.eq_of_toInt_eq (by simp))

lemma result?_multiply (a b : Word) : result? .multiply a b = some (a * b) := by
  rw [result?_of_ne_divide (by decide), exact, BitVec.ofInt_mul, BitVec.ofInt_toInt,
    BitVec.ofInt_toInt]

end Operation

namespace Expr

/-- **Where the two values differ**: an expression has a value just if arithmetic that wraps gives
it that value and no quotient on the way overflows. -/
theorem value?_eq_some_iff {expr : Expr} {word : Word} :
    expr.value? = some word ↔ expr.wrapped? = some word ∧ ¬ expr.QuotientOverflows := by
  induction expr generalizing word with
  | literal value => simp [evaluate, QuotientOverflows]
  | foreign shown => simp [evaluate]
  | binary operation left right ihl ihr =>
    simp only [evaluate, Option.bind_eq_some_iff, QuotientOverflows, not_or, not_and]
    constructor
    · rintro ⟨a, hl, b, hr, h⟩
      obtain ⟨hl, hlo⟩ := ihl.mp hl
      obtain ⟨hr, hro⟩ := ihr.mp hr
      rw [Operation.result?] at h
      split at h
      next => cases h
      next hno =>
        refine ⟨⟨a, hl, b, hr, h⟩, hlo, hro, fun hop ha hb => hno ?_⟩
        obtain rfl := Option.some_inj.mp (hl.symm.trans ha)
        obtain rfl := Option.some_inj.mp (hr.symm.trans hb)
        exact Operation.overflows_iff.mpr ⟨hop, rfl, rfl⟩
    · rintro ⟨⟨a, hl, b, hr, h⟩, hlo, hro, hno⟩
      refine ⟨a, ihl.mpr ⟨hl, hlo⟩, b, ihr.mpr ⟨hr, hro⟩, ?_⟩
      rw [Operation.result?, if_neg, h]
      intro ho
      obtain ⟨hop, rfl, rfl⟩ := Operation.overflows_iff.mp ho
      exact hno hop hl hr

lemma value?_eq_none_iff {expr : Expr} :
    expr.value? = none ↔ ∀ word, expr.wrapped? = some word → expr.QuotientOverflows := by
  rw [Option.eq_none_iff_forall_ne_some]
  refine forall_congr' fun word => ?_
  rw [Ne, value?_eq_some_iff, not_and, not_not]

end Expr

/-! ### What the code does -/

namespace Machine

/-- The code leaves the word on top of `stack`; without a word it faults. -/
inductive Leaves (code : List Instruction) (machine : Machine) (stack : List Word) :
    Option Word → Prop where
  | value {registers : Register → Word} {word : Word}
      (h : run code machine = .running ⟨registers, word :: stack⟩) :
      Leaves code machine stack (some word)
  | fault (h : run code machine = .faulted) : Leaves code machine stack none

variable {machine next : Machine} {stack floor : List Word} {code rest : List Instruction}
  {result : Option Word}

lemma Leaves.of_run_eq (hrun : run code machine = run rest next)
    (h : Leaves rest next stack result) : Leaves code machine stack result := by
  cases h with
  | value h => exact .value (hrun.trans h)
  | fault h => exact .fault (hrun.trans h)

lemma Leaves.bind {apply : Word → Option Word} {after : List Word}
    (h : Leaves code machine stack result)
    (hrest : ∀ registers word, Leaves rest ⟨registers, word :: stack⟩ after (apply word)) :
    Leaves (code ++ rest) machine after (result.bind apply) := by
  cases h with
  | value h => exact (hrest _ _).of_run_eq (by rw [run_append, h])
  | fault h => exact .fault (by rw [run_append, h])

lemma leaves_pushCode {n : Int} (h : n.natAbs < Emit.wordMagnitude) :
    Leaves (Emit.pushCode n) machine machine.stack (some (BitVec.ofInt 64 n)) := by
  unfold Emit.pushCode
  split
  next hfits =>
    have hshort : -2147483648 ≤ n ∧ n ≤ 2147483647 := by simpa [Emit.fitsPush] using hfits
    exact .value (run_cons_of_step (step_of_legal_pushNumber hshort))
  next =>
    have hmove := @step_of_legal_move machine .primary n (Word.holds_of_natAbs_lt h)
    exact .value ((run_cons_of_step hmove).trans rfl)

lemma leaves_divideCode {a b : Word} (ha : machine.registers .rax = a)
    (hb : machine.registers .rdi = b) :
    Leaves [.extendSign, .divide .rdi, .push .rax] machine machine.stack
      (Operation.result? .divide a b) := by
  let extended := machine.put .rdx (if (machine.registers .rax).msb then -1 else 0)
  have hrun : run [.extendSign, .divide .rdi, .push .rax] machine =
      run [.divide .rdi, .push .rax] extended := rfl
  have hdivide : step (.divide .rdi) extended = extended.divide b := by
    rw [← hb]
    rfl
  rw [divide_extended b (show extended.registers .rax = a from ha)
    (congrArg (fun word => if BitVec.msb word then -1 else 0) ha)] at hdivide
  rw [Operation.result?_divide]
  split
  next h =>
    rw [if_pos h] at hdivide
    exact .fault (by rw [hrun, run, hdivide])
  next h =>
    rw [if_neg h] at hdivide
    exact .value (hrun.trans ((run_cons_of_step hdivide).trans rfl))

lemma leaves_operationCode (operation : Operation) {a b : Word}
    (ha : machine.registers .primary = a) (hb : machine.registers .secondary = b) :
    Leaves (Emit.operationCode operation ++ [.push .primary]) machine machine.stack
      (operation.result? a b) := by
  cases operation with
  | add =>
    rw [Operation.result?_add, ← ha, ← hb]
    exact .value rfl
  | subtract =>
    rw [Operation.result?_subtract, ← ha, ← hb]
    exact .value rfl
  | multiply =>
    rw [Operation.result?_multiply, ← ha, ← hb]
    exact .value rfl
  | divide => exact leaves_divideCode ha hb

lemma run_pops {a b : Word} (hs : machine.stack = b :: a :: stack) :
    ∃ popped : Machine, run [.pop .secondary, .pop .primary] machine = .running popped ∧
      popped.registers .primary = a ∧ popped.registers .secondary = b ∧ popped.stack = stack := by
  refine ⟨({ machine with stack }.put .secondary b).put .primary a, ?_, rfl, rfl, rfl⟩
  rw [run_cons_of_step (step_pop hs), run_cons_of_step (step_pop rfl)]
  rfl

lemma leaves_performCode (operation : Operation) {a b : Word}
    (hs : machine.stack = b :: a :: stack) :
    Leaves (Emit.performCode operation) machine stack (operation.result? a b) := by
  obtain ⟨popped, hpops, ha, hb, rfl⟩ := run_pops hs
  have hrun : run (Emit.performCode operation) machine =
      run (Emit.operationCode operation ++ [.push .primary]) popped := by
    rw [Emit.performCode, List.append_assoc, run_append, hpops]
  exact (leaves_operationCode operation ha hb).of_run_eq hrun

/-- **The code of an expression** leaves its value on the stack that it found. -/
theorem leaves_code {expr : Expr} (h : expr.Encodable) (machine : Machine) :
    Leaves expr.code machine machine.stack expr.value? := by
  induction expr generalizing machine with
  | literal value => exact leaves_pushCode h
  | foreign shown => exact h.elim
  | binary operation left right ihl ihr =>
    -- the left value lies below the code of the right operand, and both below the operation
    rw [Expr.code, List.append_assoc]
    exact (ihl h.1 machine).bind fun _ _ => (ihr h.2 _).bind fun _ _ =>
      leaves_performCode operation rfl

/-! ### Cells that are not touched -/

lemma Leaves.stack_of_running (h : Leaves code machine stack result)
    (hrun : run code machine = .running next) : ∃ word, next.stack = word :: stack := by
  cases h with
  | value h =>
    cases h.symm.trans hrun
    exact ⟨_, rfl⟩
  | fault h => cases h.symm.trans hrun

lemma spares_of_no_pop (h : ∀ register, Instruction.pop register ∉ code) :
    Spares floor code machine := by
  induction code generalizing machine with
  | nil => trivial
  | cons instruction code ih =>
    refine ⟨fun register hr => ?_, fun next _ => ih fun register hm => h register (.tail _ hm)⟩
    exact absurd (hr ▸ List.mem_cons_self) (h register)

lemma spares_performCode (operation : Operation) {a b : Word}
    (hs : machine.stack = b :: a :: stack) :
    Spares stack (Emit.performCode operation) machine := by
  obtain ⟨popped, hpops, -⟩ := run_pops hs
  rw [Emit.performCode, List.append_assoc, spares_append]
  constructor
  · refine ⟨fun _ _ => ⟨b, [a], hs⟩, fun next hn => ⟨fun _ _ => ⟨a, [], ?_⟩, fun _ _ => trivial⟩⟩
    cases (step_pop hs).symm.trans hn
    rfl
  · exact fun next _ => spares_of_no_pop (by cases operation <;> simp [Emit.operationCode])

/-- No cell is popped that was there before. -/
theorem spares_code {expr : Expr} (h : expr.Encodable) (machine : Machine) :
    Spares machine.stack expr.code machine := by
  induction expr generalizing machine with
  | literal value =>
    refine spares_of_no_pop fun register hm => ?_
    rw [Expr.code, Emit.pushCode] at hm
    split at hm <;> simp at hm
  | foreign shown => exact h.elim
  | binary operation left right ihl ihr =>
    rw [Expr.code, List.append_assoc]
    refine spares_append.mpr ⟨ihl h.1 machine, fun middle hl => ?_⟩
    obtain ⟨a, ha⟩ := (leaves_code h.1 machine).stack_of_running hl
    have hr := ihr h.2 middle
    -- the right operand spares the left value too
    rw [ha] at hr
    refine spares_append.mpr ⟨hr.of_cons, fun last hlast => ?_⟩
    obtain ⟨b, hb⟩ := (leaves_code h.2 middle).stack_of_running hlast
    exact spares_performCode operation (hb.trans (by rw [ha]))

/-! ### Programs -/

/-- **The program of an expression** returns the value in `rax`, with the stack as it was, and it
faults just if there is no value. -/
theorem run_programCode {expr : Expr} (h : expr.Encodable) (machine : Machine) :
    (∀ word, expr.value? = some word →
        ∃ final, run expr.programCode machine = .returned final ∧
          final.registers .rax = word ∧ final.stack = machine.stack) ∧
      (run expr.programCode machine = .faulted ↔ expr.value? = none) := by
  have hcode := leaves_code h machine
  have hrun := run_append expr.code [.pop .primary, .ret] machine
  generalize expr.value? = result at hcode ⊢
  cases hcode with
  | @value registers word h =>
    rw [h] at hrun
    have hreturned : run expr.programCode machine =
        .returned (put ⟨registers, machine.stack⟩ .primary word) := hrun
    refine ⟨fun other hw => ?_, fun hf => ?_, nofun⟩
    · cases hw
      exact ⟨_, hreturned, rfl, rfl⟩
    · cases hreturned.symm.trans hf
  | fault h =>
    rw [h] at hrun
    exact ⟨nofun, fun _ => rfl, fun _ => hrun⟩

lemma spares_programCode {expr : Expr} (h : expr.Encodable) (machine : Machine) :
    Spares machine.stack expr.programCode machine := by
  refine spares_append.mpr ⟨spares_code h machine, fun next hn => ?_⟩
  obtain ⟨word, hs⟩ := (leaves_code h machine).stack_of_running hn
  exact ⟨fun _ _ => ⟨word, [], hs⟩, fun _ _ => spares_of_no_pop (by simp)⟩

end Machine

/-! ### Each instruction -/

namespace Expr

/-- What holds of the instructions that push a literal and of those of the operations holds of all
the instructions of an expression. -/
lemma forall_mem_code {holds : Instruction → Prop}
    (hpush : ∀ n : Int, n.natAbs < Emit.wordMagnitude → ∀ instruction ∈ Emit.pushCode n,
      holds instruction)
    (hperform : ∀ operation, ∀ instruction ∈ Emit.performCode operation, holds instruction)
    {expr : Expr} (h : expr.Encodable) : ∀ instruction ∈ expr.code, holds instruction := by
  induction expr with
  | literal value => exact hpush value h
  | foreign shown => exact h.elim
  | binary operation left right ihl ihr =>
    intro instruction hm
    rcases List.mem_append.mp hm with hm | hm
    · rcases List.mem_append.mp hm with hm | hm
      · exact ihl h.1 instruction hm
      · exact ihr h.2 instruction hm
    · exact hperform operation instruction hm

lemma legal_pushCode {n : Int} (h : n.natAbs < Emit.wordMagnitude) :
    ∀ instruction ∈ Emit.pushCode n, instruction.Legal := by
  rw [Emit.pushCode]
  split
  next hfits =>
    have hlegal : (Instruction.pushNumber n).Legal := by
      simpa [Emit.fitsPush, Instruction.Legal] using hfits
    simpa using hlegal
  next =>
    have hlegal : (Instruction.move .primary n).Legal := Word.holds_of_natAbs_lt h
    exact List.forall_mem_cons.mpr ⟨hlegal, by decide⟩

lemma legal_programCode {expr : Expr} (h : expr.Encodable) :
    ∀ instruction ∈ expr.programCode, instruction.Legal := by
  rw [programCode, List.forall_mem_append]
  refine ⟨forall_mem_code (fun n => legal_pushCode) (fun operation => ?_) h, by decide⟩
  cases operation <;> decide

end Expr

end ArithAsm
