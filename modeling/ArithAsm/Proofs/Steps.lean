import ArithAsm.Proofs.Cursors

/-!
The steps of a reader in any order, further steps behind a failure included. Whatever is asked of a
reader, it stays at a token of the list that it was made of, at the first end at the latest, and
never has more parentheses open than may be; and a step that fails leaves the reader as it was.
-/

namespace ArithAsm

/-- What can be asked of a reader. -/
inductive Step where
  | peek
  | next
  | consume (symbol : Text)
  | expect (symbol : Text)
  | expectNumber
  | atEnd
  | enter (opened : Token)
  | leave
  deriving DecidableEq

namespace Step

abbrev Answer : Step → Type
  | peek | next => Token
  | consume _ | atEnd => Bool
  | expectNumber => Int
  | expect _ | enter _ | leave => Unit

def read : (step : Step) → Read step.Answer
  | peek => Read.peek
  | next => Read.next
  | consume symbol => Read.consume symbol
  | expect symbol => Read.expect symbol
  | expectNumber => Read.expectNumber
  | atEnd => Read.atEnd
  | enter opened => Read.enter opened
  | leave => Read.leave

def after (reader : Reader) (step : Step) : Reader :=
  match step.read.run reader with
  | .ok _ later | .error _ later => later

end Step

namespace Reader

/-- The reader behind several steps, each taken whatever became of those before it. -/
def afterAll (reader : Reader) (steps : List Step) : Reader := steps.foldl Step.after reader

/-- What a step that answers does to a reader. -/
inductive Moves (reader : Reader) : Reader → Prop where
  | stays : Moves reader reader
  | advances (h : reader.current.isEnd = false) : Moves reader reader.advanced
  | opens (h : reader.depth < greatestDepth) :
      Moves reader { reader with depth := reader.depth + 1 }
  | closes (h : reader.depth ≠ 0) : Moves reader { reader with depth := reader.depth - 1 }

/-- Which steps fail, and why. -/
inductive Refuses (reader : Reader) : Step → Failure → Prop where
  | symbol {symbol : Text} (h : reader.current.isOperator symbol = false) :
      Refuses reader (.expect symbol) (.error (.expectedSymbol symbol reader.current))
  | number (h : reader.current.kind ≠ .integer) :
      Refuses reader .expectNumber (.error (.expectedNumber reader.current))
  | unvalued {text : Text} (h : reader.current.kind = .integer)
      (hvalue : reader.current.value = .symbol text) :
      Refuses reader .expectNumber (.defect .integerUnvalued)
  | opening {opened : Token} (h : greatestDepth ≤ reader.depth) :
      Refuses reader (.enter opened)
        (.error (.expressionNestedTooDeeply opened greatestDepth))
  | closing (h : reader.depth = 0) : Refuses reader .leave (.defect .parenthesesUnbalanced)

/-- A reader that may come of these tokens. -/
structure Inside (tokens : List Token) (reader : Reader) : Prop where
  of : reader.Of tokens
  depth_le : reader.depth ≤ greatestDepth

variable {tokens : List Token} {reader later : Reader} {step : Step}

/-! ### One step -/

lemma moves_advanced (reader : Reader) : reader.Moves reader.advanced := by
  cases he : reader.current.isEnd with
  | true =>
    rw [advanced_of_isEnd he]
    exact .stays
  | false => exact .advances he

/-- **What a step does**: it answers and moves the reader on, or it leaves the reader as it is. -/
lemma moves_or_refuses (reader : Reader) (step : Step) :
    (∃ answer later, step.read.run reader = .ok answer later ∧ reader.Moves later) ∨
      ∃ failure, step.read.run reader = .error failure reader ∧ reader.Refuses step failure := by
  cases step with
  | peek => exact .inl ⟨_, _, rfl, .stays⟩
  | next => exact .inl ⟨_, _, rfl, reader.moves_advanced⟩
  | atEnd => exact .inl ⟨_, _, rfl, .stays⟩
  | consume symbol =>
    rw [Step.read, Read.run_consume]
    split
    · exact .inl ⟨_, _, rfl, reader.moves_advanced⟩
    · exact .inl ⟨_, _, rfl, .stays⟩
  | expect symbol =>
    rw [Step.read, Read.run_expect]
    split
    · exact .inl ⟨_, _, rfl, reader.moves_advanced⟩
    · next h => exact .inr ⟨_, rfl, .symbol (Bool.not_eq_true _ ▸ h)⟩
  | expectNumber =>
    rw [Step.read, Read.run_expectNumber]
    split
    · next h =>
      split
      · exact .inl ⟨_, _, rfl, reader.moves_advanced⟩
      · next hvalue => exact .inr ⟨_, rfl, .unvalued h hvalue⟩
    · next h => exact .inr ⟨_, rfl, .number h⟩
  | enter opened =>
    rw [Step.read, Read.run_enter]
    split
    · next h => exact .inr ⟨_, rfl, .opening h⟩
    · next h => exact .inl ⟨_, _, rfl, .opens (Nat.lt_of_not_le h)⟩
  | leave =>
    rw [Step.read, Read.run_leave]
    split
    · next h => exact .inr ⟨_, rfl, .closing h⟩
    · next h => exact .inl ⟨_, _, rfl, .closes h⟩

lemma moves_after (reader : Reader) (step : Step) : reader.Moves (step.after reader) := by
  unfold Step.after
  rcases reader.moves_or_refuses step with ⟨answer, later, hrun, hmoves⟩ | ⟨failure, hrun, -⟩
  · rw [hrun]
    exact hmoves
  · rw [hrun]
    exact .stays

lemma refuses_of_error {failure : Failure} (h : step.read.run reader = .error failure later) :
    later = reader ∧ reader.Refuses step failure := by
  rcases reader.moves_or_refuses step with ⟨answer, other, hrun, -⟩ | ⟨failure', hrun, hrefuses⟩
  · cases h.symm.trans hrun
  · cases h.symm.trans hrun
    exact ⟨rfl, hrefuses⟩

lemma Moves.cursor_le (h : reader.Moves later) :
    reader.cursor ≤ later.cursor ∧ later.cursor ≤ reader.cursor + 1 := by
  cases h with
  | stays | opens | closes => exact ⟨Nat.le_refl _, Nat.le_succ _⟩
  | advances he =>
    rw [advanced_cursor he]
    exact ⟨Nat.le_succ _, Nat.le_refl _⟩

lemma Inside.of_moves (hin : reader.Inside tokens) (h : reader.Moves later) :
    later.Inside tokens := by
  cases h with
  | stays => exact hin
  | advances he => exact ⟨hin.of.advanced, reader.advanced_depth ▸ hin.depth_le⟩
  | opens hd => exact ⟨hin.of.with_depth _, hd⟩
  | closes hd => exact ⟨hin.of.with_depth _, Nat.le_trans (Nat.sub_le _ _) hin.depth_le⟩

/-- `consume` moves over a symbol where `expect` does, and where it does not `expect` fails. -/
lemma consume_or_refuses (reader : Reader) (symbol : Text) :
    (∃ later, (Read.consume symbol).run reader = .ok true later ∧
        (Read.expect symbol).run reader = .ok () later) ∨
      ((Read.consume symbol).run reader = .ok false reader ∧
        ∃ failure, (Read.expect symbol).run reader = .error failure reader) := by
  rw [Read.run_consume, Read.run_expect]
  split
  · exact .inl ⟨_, rfl, rfl⟩
  · exact .inr ⟨rfl, _, rfl⟩

/-! ### Any steps -/

lemma Inside.afterAll (hin : reader.Inside tokens) (steps : List Step) :
    (reader.afterAll steps).Inside tokens := by
  induction steps generalizing reader with
  | nil => exact hin
  | cons step steps ih =>
    -- a step that failed has moved nothing, which is a move too
    exact ih (hin.of_moves (reader.moves_after step))

/-- **Any steps in any order** keep a reader inside the tokens that it was made of. However many
there were, and whichever of them failed, it shows the token at its cursor, which is no further than
the first end, and a hundred parentheses are open at most. The next step moves the cursor by one or
not at all, and changes nothing if it fails; and where `consume` finds its symbol, `expect` would
have come to the same reader, while where it does not, it changes nothing and `expect` would have
failed. -/
theorem steps_stay_inside (hend : ∃ last ∈ tokens.getLast?, last.isEnd = true) :
    ∃ fresh, ofTokens tokens = .ok fresh ∧ fresh.cursor = 0 ∧ fresh.depth = 0 ∧
      ∀ (steps : List Step) (reader : Reader), fresh.afterAll steps = reader →
        reader.cursor ≤ tokens.findIdx Token.isEnd ∧
        tokens[reader.cursor]? = some reader.current ∧
        reader.depth ≤ 100 ∧
        (∀ step : Step, reader.cursor ≤ (step.after reader).cursor ∧
          (step.after reader).cursor ≤ reader.cursor + 1) ∧
        (∀ (step : Step) failure later, step.read.run reader = .error failure later →
          later = reader ∧ reader.Refuses step failure) ∧
        ∀ symbol, (∃ later, (Read.consume symbol).run reader = .ok true later ∧
            (Read.expect symbol).run reader = .ok () later) ∨
          ((Read.consume symbol).run reader = .ok false reader ∧
            ∃ failure, (Read.expect symbol).run reader = .error failure reader) := by
  obtain ⟨fresh, hfresh, -⟩ := ofTokens_eq_ok hend
  obtain ⟨hof, hcursor, hdepth⟩ := of_ofTokens hfresh
  refine ⟨fresh, hfresh, hcursor, hdepth, fun steps reader hreader => ?_⟩
  have hstart : fresh.Inside tokens := ⟨hof, hdepth ▸ Nat.zero_le _⟩
  have hin : reader.Inside tokens := hreader ▸ hstart.afterAll steps
  exact ⟨hin.of.cursor_le, hin.of.getElem?_cursor, hin.depth_le,
    fun step => (reader.moves_after step).cursor_le, fun _ _ _ => refuses_of_error,
    reader.consume_or_refuses⟩

def mismatched : List Token :=
  [⟨.operator, "(", .symbol "(", 0⟩, ⟨.integer, "2", .symbol "2", 1⟩,
    ⟨.endOfInput, [], .symbol ")", 2⟩, ⟨.operator, ")", .symbol ")", 3⟩,
    ⟨.endOfInput, [], .number 0, 4⟩]

/-- Three of these steps fail, and the last one finds the end where the one before it did. -/
def stumbling : List Step :=
  [.leave, .consume "(", .enter ⟨.operator, "(", .symbol "(", 0⟩, .expectNumber, .expect ")", .next,
    .next, .consume ")"]

theorem steps_stay_inside_mismatched :
    ∃ fresh, ofTokens mismatched = .ok fresh ∧
      (fresh.afterAll stumbling).cursor = 2 ∧ (fresh.afterAll stumbling).depth = 1 ∧
      mismatched[2]? = some (fresh.afterAll stumbling).current ∧
      ∀ step : Step, (step.after (fresh.afterAll stumbling)).cursor ≤ 3 := by
  obtain ⟨fresh, hfresh, -, -, h⟩ := @steps_stay_inside mismatched ⟨_, rfl, rfl⟩
  obtain ⟨-, hcurrent, -, hmoves, -⟩ := h stumbling _ rfl
  have hcursor : (fresh.afterAll stumbling).cursor = 2 := by
    cases hfresh
    rfl
  have hdepth : (fresh.afterAll stumbling).depth = 1 := by
    cases hfresh
    rfl
  rw [hcursor] at hcurrent hmoves
  exact ⟨fresh, hfresh, hcursor, hdepth, hcurrent, fun step => (hmoves step).2⟩

end Reader

end ArithAsm
