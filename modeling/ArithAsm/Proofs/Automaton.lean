import ArithAsm.Proofs.Parsing

/-!
Reading in one pass. All that matters of the tokens read so far is whether an operand comes next or
what may stand behind one, and how many parentheses are open. An automaton with these states
accepts what the parser accepts; what the parser refuses it refuses at the same token and with the
same failure.
-/

namespace ArithAsm

open Grammar

def Token.joins (token : Token) : Bool :=
  (Level.sum.operations ++ Level.product.operations).any fun operation =>
    token.isOperator operation.symbol

lemma Token.joins_iff {token : Token} :
    token.joins = true ↔ ∃ operation : Operation, token.isOperator operation.symbol = true := by
  rw [joins, List.any_eq_true]
  refine exists_congr fun operation => and_iff_right ?_
  cases operation <;> decide

/-- What comes next, and behind how many open parentheses. -/
inductive Expectation where
  | operand (depth : Nat)
  /-- An operand is complete: an operator, a closing parenthesis or the end comes next. -/
  | operator (depth : Nat)
  /-- The end has been read, and all behind it does not matter. -/
  | nothing
  deriving DecidableEq

namespace Expectation

/-- What comes next behind a token, or why the token may not stand here. -/
def step : Expectation → Token → Except Failure Expectation
  | .operand depth, token =>
    if token.isOperator "(" then
      if Reader.greatestDepth ≤ depth then
        .error (.error (.expressionNestedTooDeeply token Reader.greatestDepth))
      else .ok (.operand (depth + 1))
    else if token.kind = .integer then
      match token.value with
      | .number _ => .ok (.operator depth)
      | .symbol _ => .error (.defect .integerUnvalued)
    else .error (.error (.expectedNumber token))
  | .operator 0, token =>
    if token.joins then .ok (.operand 0)
    else if token.isEnd then .ok .nothing
    else .error (.error (.unexpectedTrailingToken token))
  | .operator (depth + 1), token =>
    if token.joins then .ok (.operand (depth + 1))
    else if token.isOperator ")" then .ok (.operator depth)
    else .error (.error (.expectedSymbol ")" token))
  | .nothing, _ => .ok .nothing

def run (state : Expectation) (tokens : List Token) : Except Failure Expectation :=
  tokens.foldlM step state

variable {state next : Expectation} {token : Token} {tokens front behind : List Token}
  {failure : Failure}

lemma run_cons_of_ok (h : state.step token = .ok next) :
    state.run (token :: tokens) = next.run tokens := by
  simp only [run, List.foldlM_cons, h]
  rfl

lemma run_cons_of_error (h : state.step token = .error failure) :
    state.run (token :: tokens) = .error failure := by
  simp only [run, List.foldlM_cons, h]
  rfl

lemma run_append_of_ok (h : state.run front = .ok next) :
    state.run (front ++ behind) = next.run behind := by
  simp only [run, List.foldlM_append] at h ⊢
  rw [h]
  rfl

lemma run_append_of_error (h : state.run front = .error failure) :
    state.run (front ++ behind) = .error failure := by
  simp only [run, List.foldlM_append] at h ⊢
  rw [h]
  rfl

lemma step_operator_of_joins {depth : Nat} (h : token.joins = true) :
    (operator depth).step token = .ok (.operand depth) := by
  cases depth <;> simp only [step, if_pos h]

lemma run_nothing (tokens : List Token) : nothing.run tokens = .ok .nothing := by
  induction tokens with
  | nil => rfl
  | cons token tokens ih => rw [run_cons_of_ok rfl, ih]

/-! ### The token at which a run fails -/

lemma exists_of_run_eq_error (h : state.run tokens = .error failure) :
    ∃ front token behind next, tokens = front ++ token :: behind ∧ state.run front = .ok next ∧
      next.step token = .error failure := by
  induction tokens generalizing state with
  | nil => cases h
  | cons token tokens ih =>
    cases hs : state.step token with
    | error failure' =>
      cases (run_cons_of_error hs).symm.trans h
      exact ⟨[], token, tokens, state, rfl, rfl, hs⟩
    | ok next =>
      obtain ⟨front, last, behind, stop, rfl, hfront, hlast⟩ :=
        ih ((run_cons_of_ok hs).symm.trans h)
      exact ⟨token :: front, last, behind, stop, rfl, (run_cons_of_ok hs).trans hfront, hlast⟩

lemma about_of_step_eq_error (h : state.step token = .error failure) :
    (∃ error, failure = .error error ∧ error.token? = some token) ∨
      token.kind = .integer ∧ ∃ text, token.value = .symbol text := by
  cases state with
  | operand depth =>
    simp only [step] at h
    split_ifs at h with hp hfull hk
    · cases h
      exact .inl ⟨_, rfl, rfl⟩
    · split at h
      next => cases h
      next text hv => exact .inr ⟨hk, text, hv⟩
    · cases h
      exact .inl ⟨_, rfl, rfl⟩
  | operator depth =>
    cases depth <;>
    · simp only [step] at h
      split_ifs at h
      cases h
      exact .inl ⟨_, rfl, rfl⟩
  | nothing => cases h

end Expectation

/-! ### The automaton beside the parser -/

lemma Reader.tokens_eq_cons (reader : Reader) :
    ∃ behind, reader.tokens = reader.current :: behind := by
  unfold tokens current
  rcases reader.ahead with _ | ⟨token, ahead⟩ <;> simp

lemma Reader.Passes.tokens_eq {reader later : Reader} {between : List Token}
    (h : reader.Passes between later) : reader.tokens = between ++ later.tokens := by
  rw [tokens, tokens, h.ahead, h.last, List.append_assoc]

lemma Reader.tokens_of_isEnd {reader : Reader} (h : reader.current.isEnd = true) :
    reader.tokens = [reader.current] := by
  have ha := current_isEnd_iff.mp h
  simp [tokens, current, ha]

lemma stops_primary (tokens : List Token) : Stops .primary tokens :=
  fun _ _ _ hm => absurd hm List.not_mem_nil

lemma Reader.not_joins_of_stops {reader : Reader} (h : Stops (.chain .sum) reader.ahead) :
    ¬ reader.current.joins = true := by
  intro hj
  obtain ⟨operation, ho⟩ := Token.joins_iff.mp hj
  have hm : operation ∈ Phrase.further (.chain .sum) := by cases operation <;> decide
  have := h reader.current (by rw [ahead_of_isOperator ho]; rfl) operation hm
  simp [this] at ho

def Rule.phrase : Rule → Phrase
  | .expression => .chain .sum
  | .product => .chain .product
  | .chain level => .chain level
  | .primary => .primary

namespace Read

/-- From this reader on, `read` does what the automaton does from `state` on. It returns where an
operand is complete and `depth` parentheses are open, and the tokens there do not let the phrase go
on; it fails as the automaton does, unless for want of calls. -/
structure Follows (phrase : Phrase) (state : Expectation) (depth : Nat) (read : Read Expr)
    (reader : Reader) : Prop where
  returns : ∀ expr later, read.run reader = .ok expr later →
    ∃ between, reader.Passes between later ∧ later.depth = depth ∧
      state.run between = .ok (.operator depth) ∧ Stops phrase later.ahead
  fails : ∀ failure later, read.run reader = .error failure later →
    failure = .defect .callsExhausted ∨ state.run reader.tokens = .error failure

variable {phrase operand : Phrase} {state next : Expectation} {depth middle : Nat}
  {read first : Read Expr} {reader later : Reader}

lemma Follows.congr {other : Read Expr} (h : Follows phrase state depth other reader)
    (hread : read.run reader = other.run reader) : Follows phrase state depth read reader :=
  ⟨hread ▸ h.returns, hread ▸ h.fails⟩

lemma Follows.of_stops (h : Follows operand state depth read reader)
    (hs : ∀ tokens, Stops operand tokens → Stops phrase tokens) :
    Follows phrase state depth read reader where
  returns expr later hread := by
    obtain ⟨between, hp, hd, hrun, hstops⟩ := h.returns expr later hread
    exact ⟨between, hp, hd, hrun, hs _ hstops⟩
  fails := h.fails

lemma Follows.returned {expr : Expr} {between : List Token}
    (hread : read.run reader = .ok expr later) (hp : reader.Passes between later)
    (hd : later.depth = depth) (hrun : state.run between = .ok (.operator depth))
    (hs : Stops phrase later.ahead) : Follows phrase state depth read reader where
  returns expr' later' h := by
    cases hread.symm.trans h
    exact ⟨between, hp, hd, hrun, hs⟩
  fails failure later' h := by cases hread.symm.trans h

lemma Follows.failed {failure : Failure} (hread : read.run reader = .error failure later)
    (hstep : state.step reader.current = .error failure) :
    Follows phrase state depth read reader where
  returns expr later' h := by cases hread.symm.trans h
  fails failure' later' h := by
    cases hread.symm.trans h
    obtain ⟨behind, hbehind⟩ := reader.tokens_eq_cons
    exact .inr (hbehind ▸ Expectation.run_cons_of_error hstep)

lemma Follows.moved {rest : Read Expr} (hp : reader.Passes [reader.current] later)
    (hread : read.run reader = rest.run later) (hstep : state.step reader.current = .ok next)
    (hrest : Follows phrase next depth rest later) : Follows phrase state depth read reader where
  returns expr later' h := by
    obtain ⟨between, hp', hd, hrun, hs⟩ := hrest.returns expr later' (hread ▸ h)
    refine ⟨_, hp.trans hp', hd, ?_, hs⟩
    rw [List.singleton_append, Expectation.run_cons_of_ok hstep, hrun]
  fails failure later' h := by
    rw [hp.tokens_eq, List.singleton_append, Expectation.run_cons_of_ok hstep]
    exact hrest.fails failure later' (hread ▸ h)

lemma Follows.bind {rest : Expr → Read Expr} (hfirst : Follows operand state middle first reader)
    (hrest : ∀ expr between later, reader.Passes between later → later.depth = middle →
      Stops operand later.ahead → Follows phrase (.operator middle) depth (rest expr) later) :
    Follows phrase state depth (first >>= rest) reader where
  returns expr later h := by
    obtain ⟨inner, second, hin, hout⟩ := run_bind_eq_ok.mp h
    obtain ⟨between, hp, hd, hrun, hs⟩ := hfirst.returns inner second hin
    obtain ⟨behind, hp', hd', hrun', hs'⟩ :=
      (hrest inner between second hp hd hs).returns expr later hout
    refine ⟨_, hp.trans hp', hd', ?_, hs'⟩
    rw [Expectation.run_append_of_ok hrun, hrun']
  fails failure later h := by
    rcases run_bind_eq_error.mp h with h | ⟨inner, second, hin, hout⟩
    · exact hfirst.fails failure later h
    · obtain ⟨between, hp, hd, hrun, hs⟩ := hfirst.returns inner second hin
      rw [hp.tokens_eq, Expectation.run_append_of_ok hrun]
      exact (hrest inner between second hp hd hs).fails failure later hout

variable {level : Level} {calls : Nat}

lemma joinOperands_follows {operand : Read Expr}
    (hop : ∀ reader : Reader,
      Follows (.operand level) (.operand reader.depth) reader.depth operand reader)
    (rounds : Nat) (left : Expr) (reader : Reader) (hr : reader.ahead.length ≤ rounds)
    (hs : Stops (.operand level) reader.ahead) :
    Follows (.rest level) (.operator reader.depth) reader.depth
      (joinOperands level operand rounds left) reader := by
  induction rounds generalizing left reader with
  | zero =>
    have ha : reader.ahead = [] := List.length_eq_zero_iff.mp (by omega)
    exact .returned rfl (.refl reader) rfl rfl (by rw [ha]; exact stops_nil _)
  | succ rounds ih =>
    have hread := run_joinOperands level operand rounds left reader
    split at hread
    next hf =>
      refine .returned hread (.refl reader) rfl rfl (stops_rest_iff.mpr ⟨hs, ?_⟩)
      intro token ht operation hm
      rw [← Reader.current_of_mem_head? ht]
      simpa using List.find?_eq_none.mp hf operation hm
    next operation hf =>
      have ho := List.find?_some hf
      have hp := Reader.passes_advanced (Token.isEnd_eq_false_of_isOperator ho)
      refine .moved hp hread (Expectation.step_operator_of_joins (Token.joins_iff.mpr ⟨_, ho⟩)) ?_
      have hfirst := hop reader.advanced
      rw [Reader.advanced_depth] at hfirst
      refine hfirst.bind fun right between later hp' hd hstops => ?_
      rw [← hd]
      refine ih _ later ?_ hstops
      have h1 := congrArg List.length hp.ahead
      have h2 := congrArg List.length hp'.ahead
      simp only [List.length_append, List.length_singleton] at h1 h2
      omega

lemma close_follows (inner : Expr) (hd : reader.depth = depth + 1)
    (hs : Stops (.chain .sum) reader.ahead) :
    Follows .primary (.operator (depth + 1)) depth (close inner) reader := by
  have hjoins := Reader.not_joins_of_stops hs
  have hread := run_close inner reader
  rw [hd, if_neg (Nat.succ_ne_zero _)] at hread
  by_cases hc : reader.current.isOperator ")" = true
  · rw [if_pos hc] at hread
    have hadv := Reader.passes_advanced (Token.isEnd_eq_false_of_isOperator hc)
    refine .returned hread (hadv.trans (.of_depth _ _)) rfl ?_ (stops_primary _)
    exact Expectation.run_cons_of_ok (by simp only [Expectation.step, if_neg hjoins, if_pos hc])
  · rw [if_neg hc] at hread
    exact .failed hread (by simp only [Expectation.step, if_neg hjoins, if_neg hc])

lemma rule_follows (calls : Nat) (rule : Rule) (reader : Reader) :
    Follows rule.phrase (.operand reader.depth) reader.depth (Read.rule calls rule) reader := by
  -- on the calls; a rule that has none left breaks off, and that is no verdict on the tokens
  induction calls generalizing rule reader with
  | zero =>
    exact ⟨nofun, fun failure later h => by cases h; exact .inl rfl⟩
  | succ calls ih =>
    cases rule with
    | expression => exact (ih (.chain .sum) reader).congr rfl
    | product => exact (ih (.chain .product) reader).congr rfl
    | chain level =>
      have hop (other : Reader) : Follows (.operand level) (.operand other.depth) other.depth
          (Read.rule calls level.operand) other :=
        (ih level.operand other).of_stops (by cases level <;> exact fun _ hs => hs)
      have hrest (first : Expr) (later : Reader) (hd : later.depth = reader.depth)
          (hs : Stops (.operand level) later.ahead) :
          Follows (.rest level) (.operator reader.depth) reader.depth
            (joinOperands level (Read.rule calls level.operand) later.remaining first) later :=
        hd ▸ joinOperands_follows hop later.remaining first later
          (Nat.le_of_eq later.remaining_eq_length.symm) hs
      have hchain := (hop reader).bind fun first between later hp hd hs =>
        (hrest first later hd hs).congr rfl
      exact (hchain.congr (run_chain calls level reader)).of_stops
        (by cases level <;> exact fun _ hs => hs)
    | primary =>
      have hread := run_primary calls reader
      by_cases hp : reader.current.isOperator "(" = true
      · have hadv := Reader.passes_advanced (Token.isEnd_eq_false_of_isOperator hp)
        rw [if_pos hp] at hread
        by_cases hfull : Reader.greatestDepth ≤ reader.depth
        · rw [if_pos hfull] at hread
          exact .failed hread (by simp only [Expectation.step, if_pos hp, if_pos hfull])
        · rw [if_neg hfull] at hread
          refine .moved (hadv.trans (.of_depth _ _)) hread
            (by simp only [Expectation.step, if_pos hp, if_neg hfull]; rfl) ?_
          have hinner := ih .expression
            { reader.advanced with depth := reader.depth + 1 }
          exact hinner.bind fun inner between later _ hd hs => close_follows inner hd hs
      · rw [if_neg hp, EStateM.run_bind, run_expectNumber] at hread
        by_cases hk : reader.current.kind = .integer
        · rw [if_pos hk] at hread
          cases hv : reader.current.value with
          | number value =>
            rw [hv] at hread
            refine .returned hread (Reader.passes_advanced (Token.isEnd_eq_false_of_integer hk))
              reader.advanced_depth (Expectation.run_cons_of_ok ?_) (stops_primary _)
            simp only [Expectation.step, if_neg hp, if_pos hk, hv]
          | symbol text =>
            rw [hv] at hread
            exact .failed hread (by simp only [Expectation.step, if_neg hp, if_pos hk, hv])
        · rw [if_neg hk] at hread
          exact .failed hread (by simp only [Expectation.step, if_neg hp, if_neg hk])

/-- A whole reading fails as the automaton does, and returns where that has read the end. -/
lemma whole_follows (calls : Nat) (reader : Reader) (hd : reader.depth = 0) :
    (∀ expr later, (whole calls).run reader = .ok expr later →
      Expectation.run (.operand 0) reader.tokens = .ok .nothing) ∧
    ∀ failure later, (whole calls).run reader = .error failure later →
      failure = .defect .callsExhausted ∨
        Expectation.run (.operand 0) reader.tokens = .error failure := by
  have hrule := hd ▸ rule_follows calls .expression reader
  rw [run_whole]
  refine ⟨fun expr later h => ?_, fun failure later h => ?_⟩
  · obtain ⟨inner, second, hin, hend⟩ := run_bind_eq_ok.mp h
    obtain ⟨between, hp, -, hrun, hs⟩ := hrule.returns inner second hin
    have hjoins := Reader.not_joins_of_stops hs
    rw [hp.tokens_eq, Expectation.run_append_of_ok hrun]
    simp only [EStateM.run_bind, run_atEnd] at hend
    by_cases he : second.current.isEnd = true
    · rw [Reader.tokens_of_isEnd he]
      exact Expectation.run_cons_of_ok (by simp only [Expectation.step, if_neg hjoins, if_pos he])
    · rw [if_neg he] at hend
      cases hend
  · rcases run_bind_eq_error.mp h with h | ⟨inner, second, hin, hend⟩
    · exact hrule.fails failure later h
    · obtain ⟨between, hp, -, hrun, hs⟩ := hrule.returns inner second hin
      have hjoins := Reader.not_joins_of_stops hs
      rw [hp.tokens_eq, Expectation.run_append_of_ok hrun]
      simp only [EStateM.run_bind, run_atEnd] at hend
      by_cases he : second.current.isEnd = true
      · rw [if_pos he] at hend
        cases hend
      · obtain ⟨behind, hbehind⟩ := second.tokens_eq_cons
        rw [if_neg he] at hend
        cases hend
        rw [hbehind]
        exact .inr (Expectation.run_cons_of_error
          (by simp only [Expectation.step, if_neg hjoins, if_neg he]))

end Read

/-! ### The automaton and the parser -/

section Parse

variable {tokens : List Token}

lemma Reader.of_ofTokens_eq_ok {reader : Reader} (h : ofTokens tokens = .ok reader) :
    (∃ last ∈ tokens.getLast?, last.isEnd = true) ∧ reader.depth = 0 ∧
      ∃ behind, tokens = reader.tokens ++ behind := by
  unfold ofTokens at h
  split at h
  next => cases h
  next first hf =>
    split at h
    next hany =>
      cases h
      obtain ⟨hend, front, behind, rfl, hfront⟩ := List.find?_eq_some_iff_append.mp hf
      refine ⟨by simpa [Option.any_eq_true] using hany, rfl, behind, ?_⟩
      simp [tokens, List.takeWhile_append_of_pos hfront, hend]
    next => cases h

namespace Expr

lemma run_of_parse_eq_ok {expr : Expr} (h : parse tokens = .ok expr) :
    (∃ last ∈ tokens.getLast?, last.isEnd = true) ∧
      Expectation.run (.operand 0) tokens = .ok .nothing := by
  unfold parse at h
  split at h
  next => cases h
  next reader hreader =>
    obtain ⟨hend, hd, behind, rfl⟩ := Reader.of_ofTokens_eq_ok hreader
    split at h
    next later hrun =>
      have hall := (Read.whole_follows callsGranted reader hd).1 _ later hrun
      exact ⟨hend, (Expectation.run_append_of_ok hall).trans (Expectation.run_nothing behind)⟩
    next => cases h

/-- What the parser refuses the automaton refuses too, and for the same reason. -/
lemma run_of_parse_eq_error (hend : ∃ last ∈ tokens.getLast?, last.isEnd = true)
    {failure : Failure} (h : parse tokens = .error failure) :
    Expectation.run (.operand 0) tokens = .error failure := by
  obtain ⟨reader, hreader, hd, -, -⟩ := Reader.ofTokens_eq_ok hend
  obtain ⟨-, -, behind, rfl⟩ := Reader.of_ofTokens_eq_ok hreader
  rw [parse, hreader] at h
  simp only at h
  split at h
  next => cases h
  next later hrun =>
    cases h
    have hblames := (Read.whole_reads hd).2.1 _ later hrun
    rcases (Read.whole_follows callsGranted reader hd).2 _ later hrun with rfl | hall
    · -- the calls granted suffice
      cases hblames
    · exact Expectation.run_append_of_error hall

/-- **The automaton accepts what the parser accepts**, of the tokens that end with an end token. -/
theorem parse_eq_ok_iff_run (hend : ∃ last ∈ tokens.getLast?, last.isEnd = true) :
    (∃ expr, parse tokens = .ok expr) ↔ Expectation.run (.operand 0) tokens = .ok .nothing := by
  constructor
  · rintro ⟨expr, h⟩
    exact (run_of_parse_eq_ok h).2
  · intro hrun
    cases h : parse tokens with
    | ok expr => exact ⟨expr, rfl⟩
    | error failure => cases hrun.symm.trans (run_of_parse_eq_error hend h)

/-- **The parser and the automaton agree.** On tokens that end with an end token and whose integers
carry numbers, the parser answers a tree just if the automaton reads them to the end. It refuses
them with an error just if the automaton refuses one of them with that error, having read those in
front of it, and the error is about this token. -/
theorem parse_agrees_with_run (hend : ∃ last ∈ tokens.getLast?, last.isEnd = true)
    (hvalues : ∀ token ∈ tokens, token.kind = .integer → ∃ n, token.value = .number n) :
    ((∃ expr, parse tokens = .ok expr) ↔ Expectation.run (.operand 0) tokens = .ok .nothing) ∧
      ∀ failure, parse tokens = .error failure ↔
        ∃ front token behind state error, tokens = front ++ token :: behind ∧
          Expectation.run (.operand 0) front = .ok state ∧
          state.step token = .error (.error error) ∧ error.token? = some token ∧
          failure = .error error := by
  refine ⟨parse_eq_ok_iff_run hend, fun failure => ⟨fun hp => ?_, ?_⟩⟩
  · have hrun := run_of_parse_eq_error hend hp
    obtain ⟨front, token, behind, state, rfl, hfront, hstep⟩ :=
      Expectation.exists_of_run_eq_error hrun
    rcases Expectation.about_of_step_eq_error hstep with ⟨error, rfl, habout⟩ | ⟨hk, text, hv⟩
    · exact ⟨front, token, behind, state, error, rfl, hfront, hstep, habout, rfl⟩
    · obtain ⟨n, hn⟩ := hvalues token (by simp) hk
      cases hn.symm.trans hv
  · rintro ⟨front, token, behind, state, error, rfl, hfront, hstep, -, rfl⟩
    have hrun : Expectation.run (.operand 0) (front ++ token :: behind) =
        .error (.error error) :=
      (Expectation.run_append_of_ok hfront).trans (Expectation.run_cons_of_error hstep)
    cases hp : parse (front ++ token :: behind) with
    | ok expr => cases (run_of_parse_eq_ok hp).2.symm.trans hrun
    | error failure => rw [Except.error.inj ((run_of_parse_eq_error hend hp).symm.trans hrun)]

/-- What stands behind the first end does not count; where an operand is complete in parentheses, a
second one is refused for want of the parenthesis that closes them. -/
theorem parse_agrees_with_run_unclosed :
    (∃ expr, parse [⟨.integer, "2", .number 2, 0⟩, ⟨.endOfInput, [], .number 0, 1⟩,
      ⟨.operator, ")", .symbol ")", 2⟩, ⟨.endOfInput, [], .number 0, 3⟩] = .ok expr) ∧
    parse [⟨.operator, "(", .symbol "(", 0⟩, ⟨.integer, "2", .number 2, 1⟩,
      ⟨.integer, "3", .number 3, 3⟩, ⟨.endOfInput, [], .number 0, 4⟩] =
        .error (.error (.expectedSymbol ")" ⟨.integer, "3", .number 3, 3⟩)) := by
  constructor
  · exact (parse_agrees_with_run ⟨_, rfl, rfl⟩ (by simp)).1.mpr rfl
  · refine ((parse_agrees_with_run ⟨_, rfl, rfl⟩ (by simp)).2 _).mpr ?_
    exact ⟨[⟨.operator, "(", .symbol "(", 0⟩, ⟨.integer, "2", .number 2, 1⟩], _, _,
      .operator 1, _, rfl, rfl, rfl, rfl, rfl⟩

end Expr

end Parse

end ArithAsm
