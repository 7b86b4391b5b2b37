import ArithAsm.Proofs.Walks

/-!
How much the parser does. The tokens that a walk moves over pay for its calls and rounds: it has a
credit, to which each token adds more than the calls and rounds between two tokens take away. With
tokens worth seven calls, the work of a walk is bounded by the tokens; with calls that cost nothing,
the credit is the index, and a round that goes on moves it.
-/

namespace ArithAsm

/-! ### Credit -/

namespace Cursor

/-- What a cursor has to its credit if an index is worth `worth`, and a call or a round costs
`cost`. -/
def credit (worth cost : Int) (cursor : Cursor) : Int := worth * cursor.index - cost * cursor.work

variable {worth cost : Int} {cursor : Cursor}

lemma credit_advanced : cursor.advanced.credit worth cost = cursor.credit worth cost + worth := by
  have hindex : (cursor.advanced.index : Int) = cursor.index + 1 := rfl
  have hwork : cursor.advanced.work = cursor.work := rfl
  rw [credit, credit, hindex, hwork, Int.mul_add, Int.mul_one]
  omega

lemma credit_worked : cursor.worked.credit worth cost = cursor.credit worth cost - cost := by
  have hwork : (cursor.worked.work : Int) = cursor.work + 1 := rfl
  have hindex : cursor.worked.index = cursor.index := rfl
  rw [credit, credit, hindex, hwork, Int.mul_add, Int.mul_one]
  omega

end Cursor

namespace Walk

/-- From this cursor on, the walk adds `gain` or more to the credit if it answers, and takes `loss`
or less from it if it stops. -/
def Earns {α : Type} (worth cost : Int) (gain : α → Int) (loss : Int) (walk : Walk α)
    (cursor : Cursor) : Prop :=
  match walk.run cursor with
  | .ok a later => cursor.credit worth cost + gain a ≤ later.credit worth cost
  | .error _ later => cursor.credit worth cost - loss ≤ later.credit worth cost

section Earns

variable {α β : Type} {worth cost loss : Int} {gain : α → Int} {walk other : Walk α}
  {cursor : Cursor}

lemma earns_pure {a : α} (h : gain a ≤ 0) : Earns worth cost gain loss (pure a) cursor := by
  show cursor.credit worth cost + gain a ≤ cursor.credit worth cost
  omega

lemma earns_throw {stop : Cursor.Stop} (h : 0 ≤ loss) :
    Earns worth cost gain loss (throw stop) cursor := by
  show cursor.credit worth cost - loss ≤ cursor.credit worth cost
  omega

lemma Earns.mono {more : α → Int} {less : Int} (h : Earns worth cost more less walk cursor)
    (hgain : ∀ a, gain a ≤ more a) (hloss : less ≤ loss) :
    Earns worth cost gain loss walk cursor := by
  unfold Earns at h ⊢
  cases hrun : walk.run cursor with
  | ok a later =>
    have := hgain a
    simp only [hrun] at h ⊢
    omega
  | error stop later =>
    simp only [hrun] at h ⊢
    omega

/-- What comes next has to make good what the first part lacks. -/
lemma Earns.bind {next : α → Walk β} {total : β → Int} {less : Int}
    (h : Earns worth cost gain less walk cursor) (hloss : less ≤ loss)
    (hnext : ∀ a later, walk.run cursor = .ok a later →
      Earns worth cost (fun b => total b - gain a) (loss + gain a) (next a) later) :
    Earns worth cost total loss (walk >>= next) cursor := by
  unfold Earns at h ⊢
  rw [EStateM.run_bind]
  cases hrun : walk.run cursor with
  | ok a later =>
    have hrest := hnext a later hrun
    unfold Earns at hrest
    simp only [hrun] at h ⊢
    cases hlast : (next a).run later with
    | ok b last =>
      simp only [hlast] at hrest ⊢
      omega
    | error stop last =>
      simp only [hlast] at hrest ⊢
      omega
  | error stop later =>
    simp only [hrun] at h ⊢
    omega

lemma Earns.ite {p : Prop} [Decidable p] (hthen : p → Earns worth cost gain loss walk cursor)
    (helse : ¬p → Earns worth cost gain loss other cursor) :
    Earns worth cost gain loss (if p then walk else other) cursor := by
  split
  · next h => exact hthen h
  · next h => exact helse h

/-- A call or a round costs what it costs beside what is done in it. -/
lemma Earns.counted
    (h : Earns worth cost (fun a => gain a + cost) (loss - cost) walk cursor.worked) :
    Earns worth cost gain loss (counted walk) cursor := by
  have hworked := @Cursor.credit_worked worth cost cursor
  have hrun : (Walk.counted walk).run cursor = walk.run cursor.worked := rfl
  unfold Earns at h ⊢
  rw [hrun]
  cases hwalk : walk.run cursor.worked with
  | ok a later =>
    simp only [hwalk] at h ⊢
    omega
  | error stop later =>
    simp only [hwalk] at h ⊢
    omega

end Earns

/-! ### What the steps earn -/

section Steps

variable {worth cost : Int} {senses : List Sense} {cursor later : Cursor} {sense : Sense}

lemma getElem?_of_look (h : (look senses).run cursor = .ok sense later) :
    senses[later.index]? = some sense := by
  rw [run_look_eq] at h
  split at h
  · next hat =>
    cases h
    exact hat
  · cases h

lemma earns_look : Earns worth cost (fun _ => 0) 0 (look senses) cursor := by
  rw [Earns, run_look_eq]
  cases senses[cursor.index]? with
  | some sense => exact Int.le_of_eq (Int.add_zero _)
  | none => exact Int.le_of_eq (Int.sub_zero _)

lemma earns_place : Earns worth cost (fun _ => 0) 0 (place senses) cursor :=
  earns_look.bind (Int.le_refl _) fun _ _ _ => Int.le_of_eq (Int.add_zero _)

lemma earns_next (hat : senses[cursor.index]? = some sense) (he : sense.isEnd = false) :
    Earns worth cost (fun _ => worth) 0 (next senses) cursor := by
  have hlook : (look senses).run cursor = .ok sense cursor.looking := by rw [run_look_eq, hat]
  rw [Earns, next, EStateM.run_bind, hlook]
  simp only [he]
  exact Int.le_of_eq (@Cursor.credit_advanced worth cost cursor.looking).symm

lemma earns_answer {α : Type} {gain : α → Int} {loss : Int} {a : α}
    (hlook : (look senses).run cursor = .ok sense later) (he : sense.isEnd = false)
    (hgain : gain a ≤ worth) (hloss : 0 ≤ loss) :
    Earns worth cost gain loss (next senses >>= fun _ => pure a) later := by
  refine (earns_next (getElem?_of_look hlook) he).bind hloss fun _ last _ => earns_pure ?_
  omega

lemma earns_consume (symbol : Text) :
    Earns worth cost (fun found => if found = true then worth else 0) 0 (consume senses symbol)
      cursor := by
  refine earns_look.bind (Int.le_refl _) fun sense later hlook => .ite (fun ho => ?_) fun _ => ?_
  · have he := Sense.isEnd_eq_false_of_isOperator ho
    exact earns_answer hlook he (Int.le_of_eq (Int.sub_zero _)) (Int.le_refl _)
  · exact earns_pure (Int.le_refl _)

lemma earns_expect (symbol : Text) :
    Earns worth cost (fun _ => worth) 0 (expect senses symbol) cursor := by
  refine earns_look.bind (Int.le_refl _) fun sense later hlook => .ite (fun ho => ?_) fun _ => ?_
  · have he := Sense.isEnd_eq_false_of_isOperator ho
    exact earns_answer hlook he (Int.le_of_eq (Int.sub_zero _)) (Int.le_refl _)
  · exact Int.le_of_eq (Int.sub_zero _)

lemma earns_expectNumber :
    Earns worth cost (fun _ => worth) 0 (expectNumber senses) cursor := by
  refine earns_look.bind (Int.le_refl _) fun sense later hlook => .ite (fun hk => ?_) fun _ => ?_
  · have he : sense.isEnd = false := by simp [Sense.isEnd, hk]
    cases sense.2 with
    | number n => exact earns_answer hlook he (Int.le_of_eq (Int.sub_zero _)) (Int.le_refl _)
    | symbol text => exact earns_throw (Int.le_refl _)
  · exact Int.le_of_eq (Int.sub_zero _)

lemma earns_enter (index : Nat) : Earns worth cost (fun _ => 0) 0 (enter index) cursor := by
  simp only [Earns, enter, EStateM.run_bind, EStateM.run_get]
  by_cases hfull : Reader.greatestDepth ≤ cursor.depth
  · rw [if_pos hfull]
    exact Int.le_of_eq (Int.sub_zero _)
  · rw [if_neg hfull]
    exact Int.le_of_eq (Int.add_zero _)

lemma earns_leave : Earns worth cost (fun _ => 0) 0 leave cursor := by
  simp only [Earns, leave, EStateM.run_bind, EStateM.run_get]
  by_cases h0 : cursor.depth = 0
  · rw [if_pos h0]
    exact Int.le_of_eq (Int.sub_zero _)
  · rw [if_neg h0]
    exact Int.le_of_eq (Int.add_zero _)

lemma earns_consumeOperation (operations : List Operation) :
    Earns worth cost (fun found => if found.isSome = true then worth else 0) 0
      (consumeOperation senses operations) cursor := by
  induction operations generalizing cursor with
  | nil => exact earns_pure (Int.le_refl _)
  | cons operation operations ih =>
    refine (earns_consume operation.symbol).bind (Int.le_refl _) fun found later _ => ?_
    refine .ite (fun hfound => ?_) fun hfound => ?_
    · rw [if_pos hfound]
      exact earns_pure (Int.le_of_eq (Int.sub_self _))
    · rw [if_neg hfound]
      exact ih.mono (fun _ => Int.le_of_eq (Int.sub_zero _)) (Int.le_refl _)

end Steps

/-! ### What the rules earn -/

section Rules

variable {worth cost loss : Int} {senses : List Sense} {cursor : Cursor} {level : Level}
  {operand : Walk Expr}
  (hop : ∀ cursor : Cursor, Earns worth cost (fun _ => worth - loss) loss operand cursor)
  (hcost : 0 ≤ cost) (hworth : loss + cost ≤ worth)
include hop hcost hworth

lemma earns_round (left : Expr) :
    Earns worth cost (fun joined => if joined.isSome = true then worth else -cost) cost
      (round senses level operand left) cursor := by
  refine .counted ((earns_consumeOperation level.operations).bind (by omega)
    fun found later _ => ?_)
  cases found with
  | none =>
    refine earns_pure ?_
    simp only [Option.isSome_none, Bool.false_eq_true, if_false]
    omega
  | some operation =>
    simp only [Option.isSome_some, if_true]
    refine (hop later).bind (by omega) fun right last _ => earns_pure ?_
    simp only [Option.isSome_some, if_true]
    omega

lemma earns_joinOperands (hloss : 0 ≤ loss) (rounds : Nat) (left : Expr) :
    Earns worth cost (fun _ => -cost) cost (joinOperands senses level operand rounds left)
      cursor := by
  induction rounds generalizing left cursor with
  | zero => exact earns_throw hcost
  | succ rounds ih =>
    refine (earns_round hop hcost hworth left).bind (Int.le_refl _) fun joined later _ => ?_
    cases joined with
    | none =>
      simp only [Option.isSome_none, Bool.false_eq_true, if_false]
      exact earns_pure (by omega)
    | some expr =>
      simp only [Option.isSome_some, if_true]
      exact (ih expr).mono (fun _ => by omega) (by omega)

/-- A chain costs its own call and its last round beside what an operand costs. -/
lemma earns_chain (hloss : 0 ≤ loss) (rounds : Nat) :
    Earns worth cost (fun _ => worth - (loss + 2 * cost)) (loss + 2 * cost)
      (counted (operand >>= joinOperands senses level operand rounds)) cursor := by
  refine .counted ((hop _).bind (by omega) fun first later _ => ?_)
  exact (earns_joinOperands hop hcost hworth hloss rounds first).mono (fun _ => by omega) (by omega)

end Rules

end Walk

/-- What a rule costs beyond the tokens that it moves over: the calls before the first of these, and
the last round of each chain. -/
def Rule.overhead (cost : Int) : Rule → Int
  | .expression => 7 * cost
  | .chain .sum => 6 * cost
  | .product => 4 * cost
  | .chain .product => 3 * cost
  | .primary => cost

lemma Rule.overhead_nonneg {cost : Int} (hcost : 0 ≤ cost) (rule : Rule) :
    0 ≤ rule.overhead cost := by
  match rule with
  | .expression | .chain .sum | .product | .chain .product | .primary =>
    simp only [overhead]
    omega

namespace Walk

variable {worth cost : Int} {senses : List Sense} {cursor : Cursor} {rounds : Nat}

/-- **What a rule earns** is a token, less its overhead, if a token is worth seven calls. -/
theorem earns_rule (hcost : 0 ≤ cost) (hworth : 7 * cost ≤ worth) (calls : Nat) (rule : Rule) :
    Earns worth cost (fun _ => worth - rule.overhead cost) (rule.overhead cost)
      (Walk.rule senses rounds calls rule) cursor := by
  induction calls generalizing rule cursor with
  | zero => exact earns_throw (rule.overhead_nonneg hcost)
  | succ calls ih =>
    cases rule with
    | expression =>
      have hinner := @ih cursor.worked (.chain .sum)
      simp only [Rule.overhead] at hinner ⊢
      exact .counted (hinner.mono (fun _ => by omega) (by omega))
    | product =>
      have hinner := @ih cursor.worked (.chain .product)
      simp only [Rule.overhead] at hinner ⊢
      exact .counted (hinner.mono (fun _ => by omega) (by omega))
    | chain level =>
      have hoperand := level.operand.overhead_nonneg hcost
      have hfits : level.operand.overhead cost + cost ≤ worth := by
        cases level <;> simp only [Level.operand, Rule.overhead] <;> omega
      have hchain : level.operand.overhead cost + 2 * cost = (Rule.chain level).overhead cost := by
        cases level <;> simp only [Level.operand, Rule.overhead] <;> omega
      rw [← hchain]
      exact earns_chain (fun _ => ih level.operand) hcost hfits hoperand rounds
    | primary =>
      simp only [Rule.overhead]
      refine .counted (earns_place.bind (by omega) fun opened second _ => ?_)
      refine (earns_consume "(").bind (by omega) fun opens third _ => ?_
      refine .ite (fun hopens => ?_) fun hopens => ?_
      · -- the two parentheses pay for the expression between them
        simp only [hopens, if_true]
        refine (earns_enter opened).bind (by omega) fun _ fourth _ => ?_
        refine (ih .expression).bind ?_ fun inner fifth _ => ?_
        · simp only [Rule.overhead]
          omega
        simp only [Rule.overhead]
        refine (earns_expect ")").bind (by omega) fun _ sixth _ => ?_
        exact earns_leave.bind (by omega) fun _ last _ => earns_pure (by omega)
      · simp only [hopens, Bool.false_eq_true, if_false]
        exact earns_expectNumber.bind (by omega) fun value last _ => earns_pure (by omega)

lemma earns_whole (hcost : 0 ≤ cost) (hworth : 7 * cost ≤ worth) (calls : Nat) :
    Earns worth cost (fun _ => -(7 * cost)) (7 * cost) (whole senses rounds calls) cursor := by
  refine (earns_rule hcost hworth calls .expression).bind (Int.le_refl _) fun expr later _ => ?_
  simp only [Rule.overhead]
  have hends : Earns worth cost (fun _ => 0) 0 (atEnd senses) later :=
    earns_look.bind (Int.le_refl _) fun _ _ _ => earns_pure (Int.le_refl _)
  refine hends.bind (by omega) fun ends second _ => .ite (fun _ => ?_) fun _ => ?_
  · exact earns_pure (by omega)
  · exact earns_place.bind (by omega) fun index last _ => earns_throw (by omega)

/-- Seven calls and rounds at most for each token that a walk moves over, and for the one it stops
at. -/
theorem work_le (rounds calls : Nat) (senses : List Sense) :
    (parseWithin rounds calls senses).cursor.work ≤
      7 * ((parseWithin rounds calls senses).cursor.index + 1) := by
  have hwhole := @earns_whole 7 1 senses {} rounds (by decide) (by decide) calls
  unfold Earns at hwhole
  unfold parseWithin
  cases hrun : (whole senses rounds calls).run {} with
  | ok expr cursor =>
    simp only [hrun, Cursor.credit, Outcome.cursor] at hwhole ⊢
    omega
  | error stop cursor =>
    simp only [hrun, Cursor.credit, Outcome.cursor] at hwhole ⊢
    omega

theorem index_lt_of_round {calls : Nat} {level : Level} {left joined : Expr} {later : Cursor}
    (h : (round senses level (Walk.rule senses rounds calls level.operand) left).run cursor =
      .ok (some joined) later) : cursor.index < later.index := by
  -- with calls that cost nothing, a rule has no overhead
  have hop (cursor : Cursor) :
      Earns 1 0 (fun _ => 1 - 0) 0 (Walk.rule senses rounds calls level.operand) cursor := by
    have hrule := @earns_rule 1 0 senses cursor rounds (by decide) (by decide) calls level.operand
    cases level <;> exact hrule
  have hround := @earns_round 1 0 0 senses cursor level _ hop (by decide) (by decide) left
  unfold Earns at hround
  simp only [h, Cursor.credit, Option.isSome_some, if_true] at hround
  omega

end Walk

end ArithAsm
