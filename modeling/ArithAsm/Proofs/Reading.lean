import ArithAsm.Expr.Parse
import Mathlib.Tactic.Common

/-!
What each step of a reader does. A step answers, fails or moves over the current token, and which
of these it does is read off the current token and the number of open parentheses alone.
-/

namespace ArithAsm

namespace Reader

/-- The tokens that a reader can still show, the end token last. -/
def tokens (reader : Reader) : List Token := reader.ahead ++ [reader.last]

/-- A reader and a later one that has moved over the tokens between them. The parentheses that
each holds open are not compared. -/
structure Passes (reader : Reader) (between : List Token) (later : Reader) : Prop where
  ahead : reader.ahead = between ++ later.ahead
  last : later.last = reader.last
  count : later.count = reader.count

lemma Passes.refl (reader : Reader) : reader.Passes [] reader := ⟨rfl, rfl, rfl⟩

lemma Passes.trans {first second third : Reader} {between behind : List Token}
    (h : first.Passes between second) (h' : second.Passes behind third) :
    first.Passes (between ++ behind) third where
  ahead := by rw [h.ahead, h'.ahead, List.append_assoc]
  last := h'.last.trans h.last
  count := h'.count.trans h.count

lemma Passes.mem_tokens {reader later : Reader} {between : List Token}
    (h : reader.Passes between later) {token : Token} (ht : token ∈ later.tokens) :
    token ∈ reader.tokens := by
  rw [tokens, h.last] at ht
  rw [tokens, h.ahead, List.append_assoc]
  exact List.mem_append_right _ ht

lemma Passes.of_depth (reader : Reader) (depth : Nat) :
    reader.Passes [] { reader with depth } := ⟨rfl, rfl, rfl⟩

lemma current_mem_tokens (reader : Reader) : reader.current ∈ reader.tokens := by
  unfold current tokens
  rcases reader.ahead with _ | ⟨token, ahead⟩ <;> simp

lemma current_of_ahead {reader : Reader} {token : Token} {ahead : List Token}
    (h : reader.ahead = token :: ahead) : reader.current = token := by
  simp [current, h]

lemma current_of_mem_head? {reader : Reader} {token : Token} (h : token ∈ reader.ahead.head?) :
    reader.current = token := by
  rw [Option.mem_def] at h
  simp [current, h]

lemma current_isEnd_iff {reader : Reader} :
    reader.current.isEnd = true ↔ reader.ahead = [] := by
  unfold current
  rcases h : reader.ahead with _ | ⟨token, ahead⟩
  · simp [reader.last_isEnd]
  · simp [reader.ahead_not_isEnd token (by simp [h])]

lemma passes_advanced {reader : Reader} (h : reader.current.isEnd = false) :
    reader.Passes [reader.current] reader.advanced := by
  rcases ha : reader.ahead with _ | ⟨token, ahead⟩
  · simp [current_isEnd_iff.mpr ha] at h
  · rw [current_of_ahead ha]
    unfold advanced
    split
    · simp_all
    · next hb =>
      obtain ⟨rfl, rfl⟩ := List.cons_eq_cons.mp (ha.symm.trans hb)
      exact ⟨ha, rfl, rfl⟩

@[simp] lemma advanced_depth (reader : Reader) : reader.advanced.depth = reader.depth := by
  unfold advanced
  split <;> rfl

end Reader

lemma Token.isEnd_eq_false_of_isOperator {token : Token} {symbol : Text}
    (h : token.isOperator symbol = true) : token.isEnd = false := by
  simp only [isOperator, Bool.and_eq_true, decide_eq_true_eq] at h
  simp [isEnd, h.1]

/-- An operator that comes next stands ahead, since it is no end. -/
lemma Reader.ahead_of_isOperator {reader : Reader} {symbol : Text}
    (h : reader.current.isOperator symbol = true) :
    reader.ahead = reader.current :: reader.advanced.ahead :=
  (passes_advanced (Token.isEnd_eq_false_of_isOperator h)).ahead

lemma Token.isEnd_eq_false_of_integer {token : Token} (h : token.kind = .integer) :
    token.isEnd = false := by
  simp [isEnd, h]

/-! ### The steps -/

namespace Read

section Bind

variable {α β : Type} {step : Read α} {next : α → Read β} {reader later : Reader}

lemma run_bind_eq_ok {b : β} :
    (step >>= next).run reader = .ok b later ↔
      ∃ a between, step.run reader = .ok a between ∧ (next a).run between = .ok b later := by
  rw [EStateM.run_bind]
  cases step.run reader <;> simp

lemma run_bind_eq_error {failure : Failure} :
    (step >>= next).run reader = .error failure later ↔
      step.run reader = .error failure later ∨
        ∃ a between, step.run reader = .ok a between ∧
          (next a).run between = .error failure later := by
  rw [EStateM.run_bind]
  cases step.run reader <;> simp

end Bind

variable (reader : Reader)

lemma run_peek : peek.run reader = .ok reader.current reader := rfl

lemma run_next : next.run reader = .ok reader.current reader.advanced := rfl

lemma run_atEnd : atEnd.run reader = .ok reader.current.isEnd reader := rfl

lemma run_consume (symbol : Text) :
    (consume symbol).run reader =
      if reader.current.isOperator symbol then .ok true reader.advanced
      else .ok false reader := by
  simp only [consume, EStateM.run_bind, run_peek]
  split <;> rfl

lemma run_expect (symbol : Text) :
    (expect symbol).run reader =
      if reader.current.isOperator symbol then .ok () reader.advanced
      else .error (.error (.expectedSymbol symbol reader.current)) reader := by
  simp only [expect, EStateM.run_bind, run_peek]
  split <;> rfl

lemma run_expectNumber :
    expectNumber.run reader =
      if reader.current.kind = .integer then
        match reader.current.value with
        | .number n => .ok n reader.advanced
        | .symbol _ => .error (.defect .integerUnvalued) reader
      else .error (.error (.expectedNumber reader.current)) reader := by
  simp only [expectNumber, EStateM.run_bind, run_peek]
  split
  · cases reader.current.value <;> rfl
  · rfl

lemma run_enter (opened : Token) :
    (enter opened).run reader =
      if Reader.greatestDepth ≤ reader.depth then
        .error (.error (.expressionNestedTooDeeply opened Reader.greatestDepth)) reader
      else .ok () { reader with depth := reader.depth + 1 } := by
  simp only [enter, EStateM.run_bind, EStateM.run_get]
  split <;> rfl

lemma run_leave :
    leave.run reader =
      if reader.depth = 0 then .error (.defect .parenthesesUnbalanced) reader
      else .ok () { reader with depth := reader.depth - 1 } := by
  simp only [leave, EStateM.run_bind, EStateM.run_get]
  split <;> rfl

lemma run_consumeOperation (operations : List Operation) :
    (consumeOperation operations).run reader =
      match operations.find? (fun operation => reader.current.isOperator operation.symbol) with
      | some operation => .ok (some operation) reader.advanced
      | none => .ok none reader := by
  induction operations with
  | nil => rfl
  | cons operation operations ih =>
    simp only [consumeOperation, EStateM.run_bind, run_consume, List.find?_cons]
    cases reader.current.isOperator operation.symbol
    · exact ih
    · rfl

end Read

end ArithAsm
