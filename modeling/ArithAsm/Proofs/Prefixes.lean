import ArithAsm.Proofs.Automaton
import ArithAsm.Proofs.Compilation
import ArithAsm.Proofs.Lexemes

/-!
Where an expression goes wrong. An error of syntax is about the first token that cannot stand: what
comes before it can be completed to an expression, and no expression goes on with a token of that
kind and value.
-/

namespace ArithAsm

/-- What of a token counts for the parser: how it is written and where does not. -/
def Token.sense (token : Token) : Token.Kind × Token.Value := (token.kind, token.value)

namespace Expectation

variable {state next : Expectation} {token other : Token} {tokens others : List Token}

/-! ### Only kinds and values count -/

lemma step_congr (h : token.sense = other.sense) :
    (state.step token).toOption = (state.step other).toOption := by
  obtain ⟨hk, hv⟩ := Prod.mk.inj h
  have hop (symbol : Text) : token.isOperator symbol = other.isOperator symbol := by
    simp only [Token.isOperator, hk, hv]
  have hend : token.isEnd = other.isEnd := by simp only [Token.isEnd, hk]
  have hjoins : token.joins = other.joins := by simp only [Token.joins, hop]
  cases state with
  | operand depth =>
    simp only [step, hop, hk, hv]
    split_ifs
    · rfl
    · rfl
    · split <;> rfl
    · rfl
  | operator depth =>
    cases depth <;>
    · simp only [step, hop, hjoins, hend]
      split_ifs <;> rfl
  | nothing => rfl

lemma run_cons_toOption :
    (state.run (token :: tokens)).toOption =
      (state.step token).toOption.bind fun next => (next.run tokens).toOption := by
  cases hs : state.step token with
  | ok next =>
    rw [run_cons_of_ok hs]
    rfl
  | error failure =>
    rw [run_cons_of_error hs]
    rfl

lemma run_congr (h : tokens.map Token.sense = others.map Token.sense) :
    (state.run tokens).toOption = (state.run others).toOption := by
  induction tokens generalizing state others with
  | nil =>
    obtain rfl : others = [] := by simpa using h
    rfl
  | cons token tokens ih =>
    rcases others with _ | ⟨other, others⟩
    · simp at h
    · obtain ⟨hhead, htail⟩ := List.cons_eq_cons.mp h
      rw [run_cons_toOption, run_cons_toOption, step_congr hhead]
      congr 1
      exact funext fun next => ih htail

/-! ### Completions -/

/-- Tokens that complete what has been read, but for the end: the operand that is due, and a closing
parenthesis for each that is open. -/
def completion : Expectation → List Token
  | operand depth => ⟨.integer, "0", .number 0, 0⟩ :: List.replicate depth (Token.operator 0 ')')
  | operator depth => List.replicate depth (Token.operator 0 ')')
  | nothing => []

lemma run_closing (depth : Nat) :
    (operator depth).run (List.replicate depth (Token.operator 0 ')') ++ [Token.endAt 0])
      = .ok .nothing := by
  induction depth with
  | zero => rfl
  | succ depth ih => exact (run_cons_of_ok rfl).trans ih

lemma run_completion (state : Expectation) :
    state.run (state.completion ++ [Token.endAt 0]) = .ok .nothing := by
  cases state with
  | operand depth => exact (run_cons_of_ok rfl).trans (run_closing depth)
  | operator depth => exact run_closing depth
  | nothing => exact run_nothing _

end Expectation

/-! ### The first token that cannot stand -/

section Prefixes

variable {tokens : List Token} {failure : Failure}

/-- What the automaton has not refused yet begins something that the parser accepts. -/
lemma Expr.exists_accepted_of_run {front : List Token} {next : Expectation}
    (h : Expectation.run (.operand 0) front = .ok next) :
    ∃ accepted expr, front <+: accepted ∧ parse accepted = .ok expr := by
  have hrun : Expectation.run (.operand 0) (front ++ (next.completion ++ [Token.endAt 0])) =
      .ok .nothing := by
    rw [Expectation.run_append_of_ok h, Expectation.run_completion]
  obtain ⟨expr, hparse⟩ := (parse_eq_ok_iff_run (by
    rw [← List.append_assoc, List.getLast?_concat]
    exact ⟨_, rfl, rfl⟩)).mpr hrun
  exact ⟨_, expr, List.prefix_append _ _, hparse⟩

/-- What the automaton has refused begins nothing that the parser accepts, nor do other tokens of
the same kinds and values. -/
lemma Expr.not_prefix_of_run_eq_error {front accepted : List Token} {expr : Expr}
    (h : Expectation.run (.operand 0) front = .error failure) (hp : parse accepted = .ok expr) :
    ¬ front.map Token.sense <+: accepted.map Token.sense := by
  rintro ⟨senses, hsenses⟩
  obtain ⟨others, behind, rfl, hothers, -⟩ := List.map_eq_append_iff.mp hsenses.symm
  have hcongr := @Expectation.run_congr (.operand 0) front others hothers.symm
  rw [h] at hcongr
  cases ho : Expectation.run (.operand 0) others with
  | ok next =>
    rw [ho] at hcongr
    cases hcongr
  | error failure' =>
    cases (run_of_parse_eq_ok hp).2.symm.trans (Expectation.run_append_of_error ho)

/-- **The first token that cannot stand.** Where the tokens of a source are no expression, the error
is about one of them, the only one at the column of its diagnostic. The tokens before it begin some
list that the parser accepts; no list that it accepts begins with tokens of the same kinds and
values as these and that one. -/
theorem parse_error_first_inadmissible {source : Text} (ht : Token.tokenize source = .ok tokens)
    (hp : Expr.parse tokens = .error failure) :
    ∃ i error token message, failure = .error error ∧ error.token? = some token ∧
      tokens[i]? = some token ∧
      error.diagnostic? = some ⟨.syntactic, message, some token.column⟩ ∧
      (∀ j other, tokens[j]? = some other → other.column = token.column → j = i) ∧
      (∃ accepted expr, tokens.take i <+: accepted ∧ Expr.parse accepted = .ok expr) ∧
      ∀ accepted expr, Expr.parse accepted = .ok expr →
        ¬ (tokens.take (i + 1)).map Token.sense <+: accepted.map Token.sense := by
  have hs := Token.tokenize_eq_ok_iff.mp ht
  have hrun := Expr.run_of_parse_eq_error hs.exists_last hp
  obtain ⟨front, token, behind, next, rfl, hfront, hstep⟩ := Expectation.exists_of_run_eq_error hrun
  have htoken : (front ++ token :: behind)[front.length]? = some token := by simp
  have hthrough : (front ++ token :: behind).take (front.length + 1) = front ++ [token] := by
    rw [List.append_cons]
    exact List.take_left' (by simp)
  rcases Expectation.about_of_step_eq_error hstep with ⟨error, rfl, habout⟩ | ⟨hk, text, hv⟩
  · obtain ⟨message, hd⟩ := Error.diagnostic?_of_token? habout
    refine ⟨front.length, error, token, message, rfl, habout, htoken, hd,
      fun j other hj hc => hs.eq_of_column_eq hj htoken hc, ?_, fun accepted expr hacc => ?_⟩
    · rw [List.take_left]
      exact Expr.exists_accepted_of_run hfront
    · rw [hthrough]
      exact Expr.not_prefix_of_run_eq_error
        ((Expectation.run_append_of_ok hfront).trans (Expectation.run_cons_of_error hstep)) hacc
  · obtain ⟨n, hn, -⟩ := hs.value_of_integer (List.mem_of_getElem? htoken) hk
    cases hn.symm.trans hv

def openings (depth : Nat) : List Token :=
  (List.range depth).map fun column : Nat => Token.operator column '('

theorem parse_error_first_inadmissible_deepest :
    Token.tokenize (List.replicate 101 '(') = .ok (openings 101 ++ [Token.endAt 101]) ∧
      Expr.parse (openings 101 ++ [Token.endAt 101]) =
        .error (.error (.expressionNestedTooDeeply (Token.operator 100 '(') 100)) ∧
      (∃ accepted expr, openings 100 <+: accepted ∧ Expr.parse accepted = .ok expr) ∧
      ∀ accepted expr, Expr.parse accepted = .ok expr →
        ¬ (openings 101).map Token.sense <+: accepted.map Token.sense := by
  have ht : Token.tokenize (List.replicate 101 '(') = .ok (openings 101 ++ [Token.endAt 101]) := by
    decide +kernel
  have hp : Expr.parse (openings 101 ++ [Token.endAt 101]) =
      .error (.error (.expressionNestedTooDeeply (Token.operator 100 '(') 100)) := by
    decide +kernel
  refine ⟨ht, hp, ?_⟩
  obtain ⟨i, error, token, message, he, habout, -, -, hcolumn, hbegins, hno⟩ :=
    parse_error_first_inadmissible ht hp
  cases he
  cases habout
  obtain rfl : 100 = i := hcolumn 100 (Token.operator 100 '(') (by decide +kernel) rfl
  exact ⟨hbegins, hno⟩

end Prefixes

end ArithAsm
