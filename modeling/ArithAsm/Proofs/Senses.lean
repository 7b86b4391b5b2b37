import ArithAsm.Proofs.Walks

/-!
What the parser looks at: kinds and values of tokens, up to the first end. A walk over a list that
goes on behind the first end is a walk over the list that does not, since where that falls short no
walk has looked. So two token lists that mean the same up to the first end have one walk, and with
it one verdict, but for the tokens that an error names.
-/

namespace ArithAsm

/-! ### Runs that may fall short -/

/-- A run of `short` fails for want of something, or it is a run of `long`. -/
def FallsShort {ε σ α : Type} (want : ε) (short long : EStateM ε σ α) : Prop :=
  ∀ state, (∃ later, short.run state = .error want later) ∨ short.run state = long.run state

section FallsShort

variable {ε σ α β : Type} {want : ε} {short long : EStateM ε σ α}

lemma FallsShort.refl (step : EStateM ε σ α) : FallsShort want step step := fun _ => .inr rfl

lemma FallsShort.bind {next following : α → EStateM ε σ β} (h : FallsShort want short long)
    (hnext : ∀ a, FallsShort want (next a) (following a)) :
    FallsShort want (short >>= next) (long >>= following) := by
  intro state
  rw [EStateM.run_bind, EStateM.run_bind]
  rcases h state with ⟨later, hrun⟩ | hrun
  · exact .inl ⟨later, by rw [hrun]⟩
  · rw [hrun]
    cases long.run state with
    | ok a later => exact hnext a later
    | error failure later => exact .inr rfl

lemma FallsShort.ite {p : Prop} [Decidable p] {other further : EStateM ε σ α}
    (h : FallsShort want short long) (h' : FallsShort want other further) :
    FallsShort want (if p then short else other) (if p then long else further) := by
  split
  · exact h
  · exact h'

lemma FallsShort.run_eq (h : FallsShort want short long) {state : σ}
    (hwant : ∀ later, short.run state ≠ .error want later) : short.run state = long.run state :=
  (h state).resolve_left fun ⟨later, hrun⟩ => hwant later hrun

end FallsShort

namespace Walk

variable {short long : List Sense}

/-! ### Walks over longer lists -/

section Longer

variable (hlonger : ∀ (i : Nat) (sense : Sense), short[i]? = some sense → long[i]? = some sense)
include hlonger

lemma look_longer : FallsShort .outside (look short) (look long) := by
  refine .bind (.refl _) fun _ => .bind (.refl _) fun cursor => ?_
  intro state
  cases h : short[cursor.index]? with
  | none => exact .inl ⟨state, rfl⟩
  | some sense => rw [hlonger _ _ h]; exact .inr rfl

lemma place_longer : FallsShort .outside (place short) (place long) :=
  .bind (look_longer hlonger) fun _ => .refl _

lemma next_longer : FallsShort .outside (next short) (next long) :=
  .bind (look_longer hlonger) fun _ => .refl _

lemma consume_longer (symbol : Text) :
    FallsShort .outside (consume short symbol) (consume long symbol) :=
  .bind (look_longer hlonger) fun _ => .ite (.bind (next_longer hlonger) fun _ => .refl _) (.refl _)

lemma expect_longer (symbol : Text) :
    FallsShort .outside (expect short symbol) (expect long symbol) :=
  .bind (look_longer hlonger) fun _ => .ite (.bind (next_longer hlonger) fun _ => .refl _) (.refl _)

lemma expectNumber_longer : FallsShort .outside (expectNumber short) (expectNumber long) := by
  refine .bind (look_longer hlonger) fun sense => .ite ?_ (.refl _)
  cases sense.2 with
  | number n => exact .bind (next_longer hlonger) fun _ => .refl _
  | symbol text => exact .refl _

lemma consumeOperation_longer (operations : List Operation) :
    FallsShort .outside (consumeOperation short operations) (consumeOperation long operations) := by
  induction operations with
  | nil => exact .refl _
  | cons operation operations ih =>
    exact .bind (consume_longer hlonger operation.symbol) fun _ => .ite (.refl _) ih

lemma joinOperands_longer (level : Level) {operand further : Walk Expr}
    (hop : FallsShort .outside operand further) (rounds : Nat) (left : Expr) :
    FallsShort .outside (joinOperands short level operand rounds left)
      (joinOperands long level further rounds left) := by
  induction rounds generalizing left with
  | zero => exact .refl _
  | succ rounds ih =>
    refine .bind (.bind (.refl _) fun _ => ?_) fun joined => ?_
    · refine .bind (consumeOperation_longer hlonger level.operations) fun found => ?_
      cases found with
      | none => exact .refl _
      | some operation => exact .bind hop fun _ => .refl _
    · cases joined with
      | none => exact .refl _
      | some expr => exact ih expr

lemma rule_longer (rounds calls : Nat) (rule : Rule) :
    FallsShort .outside (Walk.rule short rounds calls rule) (Walk.rule long rounds calls rule) := by
  induction calls generalizing rule with
  | zero => exact .refl _
  | succ calls ih =>
    cases rule with
    | expression => exact .bind (.refl _) fun _ => ih _
    | product => exact .bind (.refl _) fun _ => ih _
    | chain level =>
      refine .bind (.refl _) fun _ => .bind (ih _) fun first => ?_
      exact joinOperands_longer hlonger level (ih _) rounds first
    | primary =>
      refine .bind (.refl _) fun _ => .bind (place_longer hlonger) fun opened => ?_
      refine .bind (consume_longer hlonger _) fun _ => .ite ?_ ?_
      · refine .bind (.refl _) fun _ => .bind (ih _) fun inner => ?_
        exact .bind (expect_longer hlonger _) fun _ => .refl _
      · exact .bind (expectNumber_longer hlonger) fun _ => .refl _

/-- **A longer list changes nothing** for a walk that the short one is long enough for. -/
theorem parseWithin_longer {rounds calls : Nat}
    (hshort : ∀ cursor, parseWithin rounds calls short ≠ .error .outside cursor) :
    parseWithin rounds calls long = parseWithin rounds calls short := by
  have hwhole : FallsShort .outside (whole short rounds calls) (whole long rounds calls) := by
    refine .bind (rule_longer hlonger rounds calls .expression) fun expr => ?_
    refine .bind (.bind (look_longer hlonger) fun _ => .refl _) fun _ => .ite (.refl _) ?_
    exact .bind (place_longer hlonger) fun _ => .refl _
  exact (hwhole.run_eq hshort).symm

end Longer

/-! ### One walk for all tokens of the same senses -/

section Agree

variable {tokens : List Token} {senses other : List Sense} {rounds : Nat}

lemma sees_map (tokens : List Token) : Sees (tokens.map Token.sense) tokens :=
  fun _ _ => List.getElem?_map

lemma Sees.findIdx_eq (hsees : Sees senses tokens)
    (hend : ∃ last ∈ tokens.getLast?, last.isEnd = true) :
    senses.findIdx Sense.isEnd = tokens.findIdx Token.isEnd := by
  obtain ⟨last, hlast, he⟩ := hend
  have hk : tokens.findIdx Token.isEnd < tokens.length :=
    List.findIdx_lt_length_of_exists ⟨last, List.mem_of_getLast? hlast, he⟩
  have hat (i : Nat) (hi : i ≤ tokens.findIdx Token.isEnd) (hlt : i < tokens.length) :
      senses[i]? = some tokens[i].sense := by
    rw [hsees i hi, List.getElem?_eq_getElem hlt, Option.map_some]
  obtain ⟨hlt, hfirst⟩ := List.getElem?_eq_some_iff.mp (hat _ (Nat.le_refl _) hk)
  refine (List.findIdx_eq hlt).mpr ⟨?_, fun j hj => ?_⟩
  · have hlast : tokens[tokens.findIdx Token.isEnd].isEnd = true := List.findIdx_getElem
    rwa [hfirst]
  · obtain ⟨_, hj'⟩ := List.getElem?_eq_some_iff.mp (hat j (Nat.le_of_lt hj) (Nat.lt_trans hj hk))
    rw [hj']
    exact List.not_of_lt_findIdx hj

/-- **One walk**: up to the first end, what means the same is walked over alike. -/
theorem parseWithin_congr (hend : ∃ last ∈ tokens.getLast?, last.isEnd = true)
    (hsees : Sees senses tokens) (hother : Sees other tokens)
    (hrounds : tokens.findIdx Token.isEnd < rounds) (calls : Nat) :
    parseWithin rounds calls senses = parseWithin rounds calls other := by
  -- both are as long as what comes up to the first end, or longer
  let short := (tokens.map Token.sense).take (tokens.findIdx Token.isEnd + 1)
  have hat (i : Nat) (hi : i ≤ tokens.findIdx Token.isEnd) :
      short[i]? = tokens[i]?.map Token.sense := by
    rw [List.getElem?_take_of_lt (by omega), List.getElem?_map]
  have hlonger {long : List Sense} (hlong : Sees long tokens) (i : Nat) (sense : Sense)
      (h : short[i]? = some sense) : long[i]? = some sense := by
    have hi : i < tokens.findIdx Token.isEnd + 1 := by
      by_contra hge
      rw [List.getElem?_take_eq_none (by omega)] at h
      cases h
    rw [hlong i (by omega), ← hat i (by omega), h]
  have hshort (cursor : Cursor) : parseWithin rounds calls short ≠ .error .outside cursor := by
    intro h
    have hverdict := (verdict?_parseWithin hend hat hrounds calls).1
    rw [h] at hverdict
    cases hverdict
  rw [parseWithin_longer (hlonger hsees) hshort, parseWithin_longer (hlonger hother) hshort]

end Agree

/-- The walk that the parser does, with a round for each token up to the first end. -/
def parse (senses : List Sense) : Outcome :=
  parseWithin (senses.findIdx Sense.isEnd + 1) Expr.callsGranted senses

end Walk

def Cursor.Stop.index? : Cursor.Stop → Option Nat
  | .expectedNumber index | .expectedSymbol _ index | .unexpectedTrailingToken index
  | .expressionNestedTooDeeply index => some index
  | _ => none

/-- What one stop is among two token lists: errors of one name, each about the token at the index,
unless the stop is about no token. -/
lemma Cursor.Stop.exists_errors {stop : Cursor.Stop} {tokens others : List Token}
    {failure failure' : Failure} (h : stop.failure? tokens = some failure)
    (h' : stop.failure? others = some failure') :
    (∃ i error other token token', stop.index? = some i ∧ failure = .error error ∧
      failure' = .error other ∧ error.name = other.name ∧ tokens[i]? = some token ∧
      error.token? = some token ∧ others[i]? = some token' ∧ other.token? = some token') ∨
      ∃ defect, failure = .defect defect ∧ failure' = .defect defect := by
  cases stop with
  | outside | roundsExhausted => cases h
  | callsExhausted | integerUnvalued | parenthesesUnbalanced =>
    cases h
    cases h'
    exact .inr ⟨_, rfl, rfl⟩
  | expectedNumber index | expectedSymbol symbol index | unexpectedTrailingToken index
  | expressionNestedTooDeeply index =>
    obtain ⟨token, htoken, rfl⟩ := Option.map_eq_some_iff.mp h
    obtain ⟨token', htoken', rfl⟩ := Option.map_eq_some_iff.mp h'
    exact .inl ⟨index, _, _, token, token', rfl, rfl, rfl, rfl, htoken, rfl, htoken', rfl⟩

namespace Expr

variable {tokens others : List Token}

/-- The one defect of tokens that the parser meets is an integer without a number. -/
lemma defect_of_parse (hend : ∃ last ∈ tokens.getLast?, last.isEnd = true) {defect : Defect}
    (hp : parse tokens = .error (.defect defect)) : defect = .integerUnvalued := by
  obtain ⟨reader, hreader, hdepth, -⟩ := Reader.ofTokens_eq_ok hend
  rw [parse, hreader] at hp
  simp only at hp
  split at hp
  next => cases hp
  next later hrun =>
    cases hp
    cases (Read.whole_reads hdepth).2.1 _ _ hrun
    rfl

lemma verdict?_walk (hend : ∃ last ∈ tokens.getLast?, last.isEnd = true) :
    (Walk.parse (tokens.map Token.sense)).verdict? tokens = some (parse tokens) ∧
      ∀ i ∈ (Walk.parse (tokens.map Token.sense)).cursor.looked,
        i ≤ tokens.findIdx Token.isEnd := by
  have hsees := Walk.sees_map tokens
  obtain ⟨hverdict, reader, hshows⟩ :=
    Walk.verdict?_parseWithin hend hsees (Nat.lt_succ_self _) callsGranted
  rw [Walk.parse, hsees.findIdx_eq hend, parse_eq_parseWithin]
  exact ⟨hverdict, hshows.looked_le⟩

/-- **Only kinds and values up to the first end count.** Two token lists that agree in them are
parsed by one and the same walk, which looks at no index behind the first end and comes to the
verdict of the parser on both. So both are read as one expression; or both are refused by an error
of one name, about the tokens at the index where the walk stops; or in both an integer carries no
number. -/
theorem parse_same_senses (hend : ∃ last ∈ tokens.getLast?, last.isEnd = true)
    (hend' : ∃ last ∈ others.getLast?, last.isEnd = true)
    (hagree : ∀ i ≤ tokens.findIdx Token.isEnd,
      tokens[i]?.map Token.sense = others[i]?.map Token.sense) :
    ∃ walk : Walk.Outcome,
      Walk.parse (tokens.map Token.sense) = walk ∧ Walk.parse (others.map Token.sense) = walk ∧
      walk.verdict? tokens = some (parse tokens) ∧ walk.verdict? others = some (parse others) ∧
      (∀ i ∈ walk.cursor.looked, i ≤ tokens.findIdx Token.isEnd) ∧
      ((∃ expr, parse tokens = .ok expr ∧ parse others = .ok expr) ∨
        (∃ stop cursor i error other token token', walk = .error stop cursor ∧
          stop.index? = some i ∧ parse tokens = .error (.error error) ∧
          parse others = .error (.error other) ∧ error.name = other.name ∧
          tokens[i]? = some token ∧ error.token? = some token ∧
          others[i]? = some token' ∧ other.token? = some token') ∨
        ((∃ token ∈ tokens, token.kind = .integer ∧ ∃ text, token.value = .symbol text) ∧
          parse tokens = .error (.defect .integerUnvalued) ∧
          parse others = .error (.defect .integerUnvalued))) := by
  have hothers : Walk.Sees (others.map Token.sense) tokens := fun i hi => by
    rw [List.getElem?_map, hagree i hi]
  have hwalk : Walk.parse (others.map Token.sense) = Walk.parse (tokens.map Token.sense) := by
    rw [Walk.parse, Walk.parse, hothers.findIdx_eq hend, (Walk.sees_map tokens).findIdx_eq hend]
    exact Walk.parseWithin_congr hend hothers (Walk.sees_map tokens) (Nat.lt_succ_self _) _
  obtain ⟨hverdict, hlooked⟩ := verdict?_walk hend
  obtain ⟨hverdict', -⟩ := verdict?_walk hend'
  rw [hwalk] at hverdict'
  refine ⟨_, rfl, hwalk, hverdict, hverdict', hlooked, ?_⟩
  cases hw : Walk.parse (tokens.map Token.sense) with
  | ok expr cursor =>
    rw [hw] at hverdict hverdict'
    exact .inl ⟨expr, (Option.some.inj hverdict).symm, (Option.some.inj hverdict').symm⟩
  | error stop cursor =>
    rw [hw] at hverdict hverdict'
    obtain ⟨failure, hfailure, hp⟩ := Option.map_eq_some_iff.mp hverdict
    obtain ⟨failure', hfailure', hp'⟩ := Option.map_eq_some_iff.mp hverdict'
    rcases Cursor.Stop.exists_errors hfailure hfailure' with
      ⟨i, error, other, token, token', hi, rfl, rfl, hname, htoken, habout, htoken', habout'⟩ |
      ⟨defect, rfl, rfl⟩
    · exact .inr (.inl ⟨stop, cursor, i, error, other, token, token', rfl, hi, hp.symm, hp'.symm,
        hname, htoken, habout, htoken', habout'⟩)
    · cases defect_of_parse hend hp.symm
      have hcarries := (parse_eq_error hend hp.symm).resolve_left fun ⟨_, _, h, _⟩ => nomatch h
      exact .inr (.inr ⟨hcarries, hp.symm, hp'.symm⟩)

def unclosed : List Token :=
  [⟨.operator, "(", .symbol "(", 0⟩, ⟨.integer, "2", .number 2, 1⟩, ⟨.endOfInput, [], .number 0, 2⟩]

def closedTooLate : List Token :=
  [⟨.operator, "[", .symbol "(", 7⟩, ⟨.integer, "two", .number 2, -1⟩,
    ⟨.endOfInput, "end", .number 0, 5⟩, ⟨.operator, ")", .symbol ")", 6⟩,
    ⟨.endOfInput, [], .number 0, 9⟩]

theorem parse_same_senses_unclosed :
    (∀ i ≤ unclosed.findIdx Token.isEnd,
      unclosed[i]?.map Token.sense = closedTooLate[i]?.map Token.sense) ∧
    parse unclosed = .error (.error (.expectedSymbol ")" ⟨.endOfInput, [], .number 0, 2⟩)) ∧
    parse closedTooLate =
      .error (.error (.expectedSymbol ")" ⟨.endOfInput, "end", .number 0, 5⟩)) ∧
    ∃ i : Nat, unclosed[i]? = some (⟨.endOfInput, [], .number 0, 2⟩ : Token) ∧
      closedTooLate[i]? = some (⟨.endOfInput, "end", .number 0, 5⟩ : Token) := by
  have hagree : ∀ i ≤ unclosed.findIdx Token.isEnd,
      unclosed[i]?.map Token.sense = closedTooLate[i]?.map Token.sense := by
    decide
  refine ⟨hagree, rfl, rfl, ?_⟩
  obtain ⟨walk, -, -, -, -, -, h⟩ := parse_same_senses ⟨_, rfl, rfl⟩ ⟨_, rfl, rfl⟩ hagree
  rcases h with ⟨expr, hp, -⟩ | ⟨stop, cursor, i, error, other, token, token', -, -, hp, hp', -,
    htoken, habout, htoken', habout'⟩ | ⟨-, hp, -⟩
  · cases hp
  · cases hp
    cases hp'
    cases habout
    cases habout'
    exact ⟨i, htoken, htoken'⟩
  · cases hp

end Expr

end ArithAsm
