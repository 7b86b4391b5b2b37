import ArithAsm.Proofs.Compilation

/-!
Code of a part of an expression. An expression is evaluated by rules, its left operand first, and
there are rules as well for the ways that an evaluation meets a division that the machine cannot
carry out. The code of any tree does on any machine what the rules say, whatever stands on the
stack. A number by itself is pushed if it is a signed word other than the least one.
-/

namespace ArithAsm

namespace Operation

def apply : Operation → Word → Word → Word
  | .add, a, b => a + b
  | .subtract, a, b => a - b
  | .multiply, a, b => a * b
  | .divide, a, b => a.sdiv b

/-- A division that the machine cannot carry out. -/
def Traps (operation : Operation) (a b : Word) : Prop :=
  operation = .divide ∧ (b = 0 ∨ a = Word.least ∧ b = -1)

lemma traps_divide {a b : Word} :
    Traps .divide a b ↔ b = 0 ∨ ¬ Word.Holds (a.toInt.tdiv b.toInt) := by
  rw [Word.not_holds_tdiv_iff]
  exact and_iff_right rfl

lemma result?_eq_none_iff {operation : Operation} {a b : Word} :
    operation.result? a b = none ↔ operation.Traps a b := by
  cases operation with
  | divide =>
    rw [result?_divide, traps_divide, ite_eq_left_iff]
    exact ⟨fun h => by_contra fun hc => Option.some_ne_none _ (h hc), fun h hc => absurd h hc⟩
  | add | subtract | multiply => simp [result?_of_ne_divide, Traps]

/-- An operation that the machine can carry out has the result that it gives there. -/
lemma result?_of_not_traps {operation : Operation} {a b : Word} (h : ¬ operation.Traps a b) :
    operation.result? a b = some (operation.apply a b) := by
  cases operation with
  | add => exact result?_add a b
  | subtract => exact result?_subtract a b
  | multiply => exact result?_multiply a b
  | divide =>
    have hsdiv : BitVec.ofInt 64 (a.toInt.tdiv b.toInt) = a.sdiv b := by
      apply BitVec.eq_of_toInt_eq
      rw [BitVec.toInt_ofInt, BitVec.toInt_sdiv]
    rw [result?_divide, if_neg (mt traps_divide.mpr h), hsdiv, apply]

end Operation

namespace Expr

inductive Evaluates : Expr → Word → Prop where
  | literal (value : Int) : Evaluates (.literal value) (BitVec.ofInt 64 value)
  | binary {operation : Operation} {left right : Expr} {a b : Word} (hl : Evaluates left a)
      (hr : Evaluates right b) (h : ¬ operation.Traps a b) :
      Evaluates (.binary operation left right) (operation.apply a b)

/-- Evaluation, which goes from left to right, meets a division that cannot be carried out. -/
inductive Traps : Expr → Prop where
  | left {operation : Operation} {left right : Expr} (hl : Traps left) :
      Traps (.binary operation left right)
  | right {operation : Operation} {left right : Expr} {a : Word} (hl : Evaluates left a)
      (hr : Traps right) : Traps (.binary operation left right)
  | here {operation : Operation} {left right : Expr} {a b : Word} (hl : Evaluates left a)
      (hr : Evaluates right b) (h : operation.Traps a b) : Traps (.binary operation left right)

lemma value?_binary (operation : Operation) (left right : Expr) :
    (binary operation left right).value? =
      left.value?.bind fun a => right.value?.bind (operation.result? a) := rfl

/-- Once the left operand has a value, the right one is evaluated. -/
lemma value?_of_left {operation : Operation} {left right : Expr} {a : Word}
    (h : left.value? = some a) :
    (binary operation left right).value? = right.value?.bind (operation.result? a) := by
  rw [value?_binary, h, Option.bind_some]

/-- **The rules give the value**, and only it. -/
theorem evaluates_iff {expr : Expr} {word : Word} :
    expr.Evaluates word ↔ expr.value? = some word := by
  constructor
  · intro h
    induction h with
    | literal value => rfl
    | binary hl hr h ihl ihr =>
      rw [value?_of_left ihl, ihr]
      exact Operation.result?_of_not_traps h
  · intro h
    induction expr generalizing word with
    | literal value =>
      obtain rfl := Option.some_inj.mp h
      exact .literal value
    | foreign shown => cases h
    | binary operation left right ihl ihr =>
      obtain ⟨a, ha, h⟩ := Option.bind_eq_some_iff.mp h
      obtain ⟨b, hb, h⟩ := Option.bind_eq_some_iff.mp h
      have htraps : ¬ operation.Traps a b := fun ht => by
        rw [Operation.result?_eq_none_iff.mpr ht] at h
        cases h
      rw [Operation.result?_of_not_traps htraps, Option.some_inj] at h
      subst h
      exact .binary (ihl ha) (ihr hb) htraps

/-- **An evaluation that traps** is all that keeps a tree of literals from having a value. -/
theorem traps_iff {expr : Expr} (h : expr.Encodable) : expr.Traps ↔ expr.value? = none := by
  constructor
  · intro ht
    clear h
    induction ht with
    | left hl ihl => rw [value?_binary, ihl, Option.bind_none]
    | right hl hr ihr => rw [value?_of_left (evaluates_iff.mp hl), ihr, Option.bind_none]
    | here hl hr h =>
      rw [value?_of_left (evaluates_iff.mp hl), evaluates_iff.mp hr]
      exact Operation.result?_eq_none_iff.mpr h
  · intro hv
    induction expr with
    | literal value => cases hv
    | foreign shown => exact h.elim
    | binary operation left right ihl ihr =>
      cases ha : left.value? with
      | none => exact .left (ihl h.1 ha)
      | some a =>
        have hl := evaluates_iff.mpr ha
        cases hb : right.value? with
        | none => exact .right hl (ihr h.2 hb)
        | some b =>
          rw [value?_of_left ha, hb] at hv
          exact .here hl (evaluates_iff.mpr hb) (Operation.result?_eq_none_iff.mp hv)

end Expr

/-- **Code of any part.** What is written for a tree, behind whatever was written before, is legal
code. On any machine it pops no cell that it found, and it leaves the value on top of these or it
faults; it faults just if the evaluation traps. -/
theorem expression_leaves_value {expr : Expr} (h : expr.Encodable) :
    ∃ code : List Instruction,
      (∀ lines, EStateM.run (Emit.expression expr) lines =
        .ok () (lines ++ (code.map Line.instruction).toArray)) ∧
      Text.readCode? (Line.program {} (code.map Line.instruction)) = some code ∧
      (∀ instruction ∈ code, instruction.Legal) ∧
      ∀ machine : Machine, Machine.Spares machine.stack code machine ∧
        ((∃ word registers, expr.Evaluates word ∧
            Machine.run code machine = .running ⟨registers, word :: machine.stack⟩) ∨
          Machine.run code machine = .faulted) ∧
        (Machine.run code machine = .faulted ↔ expr.Traps) := by
  have hread : Text.readCode? (Line.program {} (expr.code.map Line.instruction)) =
      some expr.code :=
    (@Text.readCode?_program [] expr.code nofun fun instruction hm =>
      Expr.known_programCode h instruction (List.mem_append_left _ hm)).1
  refine ⟨expr.code, Emit.run_expression h, hread, fun instruction hm =>
    Expr.legal_programCode h instruction (List.mem_append_left _ hm), fun machine =>
      ⟨Machine.spares_code h machine, ?_⟩⟩
  have hleaves := Machine.leaves_code h machine
  rw [Expr.traps_iff h]
  cases hv : expr.value? with
  | some word =>
    rw [hv] at hleaves
    cases hleaves with
    | value hrun =>
      refine ⟨.inl ⟨word, _, Expr.evaluates_iff.mpr hv, hrun⟩, ?_⟩
      simp [hrun]
  | none =>
    rw [hv] at hleaves
    cases hleaves with
    | fault hrun => exact ⟨.inr hrun, iff_of_true hrun rfl⟩

/-- A quotient is taken toward zero; that of the least word by minus one faults. -/
theorem expression_leaves_value_negative :
    let quotient : Expr :=
      .binary .divide (.literal (-7)) (.binary .subtract (.literal 5) (.literal 3))
    let overflow : Expr :=
      .binary .divide (.binary .subtract (.literal (-9223372036854775807)) (.literal 1))
        (.literal (-1))
    (quotient.Encodable ∧ ∃ code : List Instruction,
      (∀ lines, EStateM.run (Emit.expression quotient) lines =
        .ok () (lines ++ (code.map Line.instruction).toArray)) ∧
      ∀ machine : Machine, ∃ registers,
        Machine.run code machine = .running ⟨registers, -3 :: machine.stack⟩) ∧
    overflow.Encodable ∧ ∃ code : List Instruction,
      (∀ lines, EStateM.run (Emit.expression overflow) lines =
        .ok () (lines ++ (code.map Line.instruction).toArray)) ∧
      ∀ machine : Machine, Machine.run code machine = .faulted := by
  intro quotient overflow
  have hquotient : quotient.Encodable := by simp [quotient, Expr.Encodable, Emit.wordMagnitude]
  have hoverflow : overflow.Encodable := by simp [overflow, Expr.Encodable, Emit.wordMagnitude]
  constructor
  · obtain ⟨code, hwritten, -, -, hrun⟩ := expression_leaves_value hquotient
    refine ⟨hquotient, code, hwritten, fun machine => ?_⟩
    obtain ⟨-, ⟨word, registers, hword, h⟩ | h, hfaults⟩ := hrun machine
    · obtain rfl : word = -3 :=
        Option.some_inj.mp ((Expr.evaluates_iff.mp hword).symm.trans (by decide))
      exact ⟨registers, h⟩
    · cases ((Expr.traps_iff hquotient).mp (hfaults.mp h)).symm.trans
        (show quotient.value? = some (-3) by decide)
  · obtain ⟨code, hwritten, -, -, hrun⟩ := expression_leaves_value hoverflow
    refine ⟨hoverflow, code, hwritten, fun machine => ?_⟩
    exact (hrun machine).2.2.mpr ((Expr.traps_iff hoverflow).mpr (by decide))

/-! ### Numbers by themselves -/

lemma Word.natAbs_lt_iff {n : Int} :
    n.natAbs < Emit.wordMagnitude ↔ Word.Holds n ∧ n ≠ -9223372036854775808 := by
  unfold Emit.wordMagnitude Word.Holds
  omega

lemma Machine.run_pushCode {n : Int} (h : n.natAbs < Emit.wordMagnitude) (machine : Machine) :
    ∃ registers word, word.toInt = n ∧
      run (Emit.pushCode n) machine = .running ⟨registers, word :: machine.stack⟩ := by
  obtain ⟨hlow, hhigh⟩ := Word.holds_of_natAbs_lt h
  have hword : (BitVec.ofInt 64 n).toInt = n :=
    BitVec.toInt_ofInt_eq_self (by decide) hlow (Int.lt_add_one_of_le hhigh)
  cases leaves_pushCode h with
  | value hrun => exact ⟨_, _, hword, hrun⟩

/-- **The numbers that are pushed** are the signed words but for the least one. The code of such a
number is legal and leaves it on top of a stack that is otherwise as it was. Any other number is
refused, and nothing is written. -/
theorem pushNumber_or_refuses (n : Int) :
    (Word.Holds n ∧ n ≠ -9223372036854775808 ∧ ∃ code : List Instruction,
        (∀ lines, EStateM.run (Emit.pushNumber n) lines =
          .ok () (lines ++ (code.map Line.instruction).toArray)) ∧
        (∀ layout, Emit.run layout (Emit.pushNumber n) =
          (Line.program layout (code.map .instruction), none)) ∧
        Text.readCode? (Line.program {} (code.map .instruction)) = some code ∧
        (∀ instruction ∈ code, instruction.Legal) ∧
        ∀ machine : Machine, ∃ registers word, word.toInt = n ∧
          Machine.run code machine = .running ⟨registers, word :: machine.stack⟩) ∨
      ¬ (Word.Holds n ∧ n ≠ -9223372036854775808) ∧
        (∀ lines, EStateM.run (Emit.pushNumber n) lines = .error (.defect .literalTooWide) lines) ∧
        ∀ layout, Emit.run layout (Emit.pushNumber n) =
          ([], some (.defect .literalTooWide)) := by
  by_cases h : n.natAbs < Emit.wordMagnitude
  · left
    obtain ⟨hholds, hne⟩ := Word.natAbs_lt_iff.mp h
    have hwritten (lines : Array Line) : EStateM.run (Emit.pushNumber n) lines =
        .ok () (lines ++ ((Emit.pushCode n).map Line.instruction).toArray) := by
      rw [Emit.pushNumber, if_pos h, Emit.run_instructions]
    have hknown : ∀ instruction ∈ Emit.pushCode n, instruction.Known := fun instruction hm =>
      @Expr.known_programCode (.literal n) h instruction (List.mem_append_left _ hm)
    refine ⟨hholds, hne, Emit.pushCode n, hwritten, fun layout => ?_,
      (@Text.readCode?_program [] _ (by simp) hknown).1, Expr.legal_pushCode h,
      Machine.run_pushCode h⟩
    rw [Emit.run_of_ok (hwritten #[])]
    simp
  · right
    have hrefused (lines : Array Line) :
        EStateM.run (Emit.pushNumber n) lines = .error (.defect .literalTooWide) lines := by
      rw [Emit.pushNumber, if_neg h]
      rfl
    exact ⟨mt Word.natAbs_lt_iff.mpr h, hrefused, Emit.run_of_error (hrefused #[])⟩

/-- The least signed word is refused, with a message that speaks of the range that it lies in. -/
theorem pushNumber_or_refuses_least :
    Word.Holds (-9223372036854775808) ∧
      Emit.run {} (Emit.pushNumber (-9223372036854775808)) =
        ([], some (.defect .literalTooWide)) ∧
      Defect.message .literalTooWide =
        ("Can push only integers within signed 64 bits range (8 bytes, x64)" : Text) := by
  refine ⟨by decide, ?_, rfl⟩
  rcases pushNumber_or_refuses (-9223372036854775808) with ⟨-, hne, -⟩ | ⟨-, -, hrefused⟩
  · exact absurd rfl hne
  · exact hrefused {}

end ArithAsm
