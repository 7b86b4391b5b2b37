import ArithAsm.Proofs.Senses
import ArithAsm.Proofs.Work

/-!
How deep the parser recurses. Five calls are nested in one another for each level of parentheses,
and no more; so the calls that are granted suffice for all tokens, and more of them change nothing.
With fewer, the parser would fail on some text that it accepts.
-/

namespace ArithAsm

variable {tokens : List Token} {reader : Reader} {calls : Nat}

/-! ### More calls -/

namespace Read

lemma joinOperands_more {level : Level} {operand further : Read Expr}
    (hop : FallsShort (.defect .callsExhausted) operand further) (rounds : Nat) (left : Expr) :
    FallsShort (.defect .callsExhausted) (joinOperands level operand rounds left)
      (joinOperands level further rounds left) := by
  induction rounds generalizing left with
  | zero => exact .refl _
  | succ rounds ih =>
    refine .bind (.refl _) fun found => ?_
    cases found with
    | none => exact .refl _
    | some operation => exact .bind hop fun right => ih _

/-- One call more makes a difference only where there was one too few. -/
lemma rule_more (calls : Nat) (rule : Rule) :
    FallsShort (.defect .callsExhausted) (Read.rule calls rule) (Read.rule (calls + 1) rule) := by
  induction calls generalizing rule with
  | zero => exact fun reader => .inl ⟨reader, rfl⟩
  | succ calls ih =>
    cases rule with
    | expression => exact ih (.chain .sum)
    | product => exact ih (.chain .product)
    | chain level =>
      exact .bind (ih _) fun first => .bind (.refl _) fun reader =>
        joinOperands_more (ih _) reader.remaining first
    | primary =>
      refine .bind (.refl _) fun opened => .bind (.refl _) fun opens => .ite ?_ (.refl _)
      exact .bind (.refl _) fun _ => .bind (ih _) fun _ => .refl _

end Read

namespace Expr

lemma parseWithin_succ (h : parseWithin calls tokens ≠ .error (.defect .callsExhausted)) :
    parseWithin (calls + 1) tokens = parseWithin calls tokens := by
  cases hreader : Reader.ofTokens tokens with
  | error defect => rw [parseWithin, parseWithin, hreader]
  | ok reader =>
    have hwhole :
        FallsShort (.defect .callsExhausted) (Read.whole calls) (Read.whole (calls + 1)) :=
      .bind (Read.rule_more calls .expression) fun _ => .refl _
    rw [parseWithin_of_ofTokens hreader] at h ⊢
    rw [parseWithin_of_ofTokens hreader, hwhole.run_eq]
    intro later hexhausted
    rw [hexhausted] at h
    exact h rfl

/-- **More calls change nothing** where there are enough. -/
theorem parseWithin_of_le {more : Nat} (hle : calls ≤ more)
    (h : parseWithin calls tokens ≠ .error (.defect .callsExhausted)) :
    parseWithin more tokens = parseWithin calls tokens := by
  induction hle with
  | refl => rfl
  | step _ ih => rw [parseWithin_succ (ih ▸ h), ih]

end Expr

/-! ### Too few calls -/

namespace Read

lemma run_chain_of_error (level : Level) {failure : Failure} {later : Reader}
    (h : (rule calls level.operand).run reader = .error failure later) :
    (rule (calls + 1) (.chain level)).run reader = .error failure later :=
  run_bind_eq_error.mpr (.inl h)

lemma run_expression_of_primary {failure : Failure} {later : Reader}
    (h : (rule (calls + 1) .primary).run reader = .error failure later) :
    (rule (calls + 5) .expression).run reader = .error failure later :=
  run_chain_of_error .sum (run_chain_of_error .product h)

lemma run_expression_of_few (h : calls < 5) :
    (rule calls .expression).run reader = .error (.defect .callsExhausted) reader := by
  match calls, h with
  | 0, _ | 1, _ | 2, _ | 3, _ | 4, _ => rfl

/-- Five calls for each parenthesis that is opened, and as many for what stands inside. -/
lemma run_expression_of_openings {opened rest : List Token}
    (hopened : ∀ token ∈ opened, token.isOperator "(" = true)
    (hahead : reader.ahead = opened ++ rest)
    (hdepth : reader.depth + opened.length ≤ Reader.greatestDepth)
    (hcalls : calls < 5 * (opened.length + 1)) :
    ∃ later, (rule calls .expression).run reader = .error (.defect .callsExhausted) later := by
  induction opened generalizing reader calls with
  | nil => exact ⟨reader, run_expression_of_few hcalls⟩
  | cons token opened ih =>
    rcases Nat.lt_or_ge calls 5 with hfew | hmany
    · exact ⟨reader, run_expression_of_few hfew⟩
    · -- five calls lead to the parenthesis, and the others are left for what it encloses
      obtain ⟨calls, rfl⟩ := Nat.exists_eq_add_of_le' hmany
      obtain ⟨htoken, hopened⟩ := List.forall_mem_cons.mp hopened
      rw [List.length_cons] at hdepth hcalls
      have hcurrent : reader.current.isOperator "(" = true := by
        rwa [Reader.current_of_ahead hahead]
      have hinner : reader.advanced.ahead = opened ++ rest := by
        have hcons := (Reader.ahead_of_isOperator hcurrent).symm.trans hahead
        exact (List.cons_eq_cons.mp hcons).2
      have hroom : reader.advanced.depth + 1 + opened.length ≤ Reader.greatestDepth := by
        rw [Reader.advanced_depth]
        omega
      have henters : ¬ Reader.greatestDepth ≤ reader.advanced.depth := by omega
      obtain ⟨later, hrun⟩ :=
        @ih { reader.advanced with depth := reader.advanced.depth + 1 } calls hopened hinner hroom
          (by omega)
      refine ⟨later, run_expression_of_primary ?_⟩
      simp only [rule, EStateM.run_bind, run_peek, run_consume, hcurrent, run_enter, if_neg henters,
        if_true, hrun]

end Read

/-- Tokens that begin with parentheses opened use up fewer than five calls for each of them and for
the level outside them. -/
theorem Expr.parseWithin_of_openings {opened rest : List Token}
    (hend : ∃ last ∈ (opened ++ rest).getLast?, last.isEnd = true)
    (hopened : ∀ token ∈ opened, token.isOperator "(" = true)
    (hlength : opened.length ≤ Reader.greatestDepth) (hcalls : calls < 5 * (opened.length + 1)) :
    parseWithin calls (opened ++ rest) = .error (.defect .callsExhausted) := by
  obtain ⟨reader, hreader, hdepth, hahead, -⟩ := Reader.ofTokens_eq_ok hend
  have hopen (token : Token) (ht : token ∈ opened) : (!token.isEnd) = true := by
    rw [Token.isEnd_eq_false_of_isOperator (hopened token ht)]
    rfl
  rw [List.takeWhile_append_of_pos hopen] at hahead
  obtain ⟨later, hrun⟩ := Read.run_expression_of_openings hopened hahead
    (by rw [hdepth]; omega) hcalls
  have hwhole : (Read.whole calls).run reader = .error (.defect .callsExhausted) later :=
    Read.run_bind_eq_error.mpr (.inl hrun)
  rw [parseWithin_of_ofTokens hreader, hwhole]

namespace Expr

/-- A hundred parentheses, each opened before the one behind it is closed. -/
def deepest : Text := List.replicate 100 '(' ++ "1".toList ++ List.replicate 100 ')'

def behindOpenings : List Token :=
  ⟨.integer, "1", .number 1, 100⟩ ::
    ((List.range 100).map fun i : Nat => Token.operator (101 + i) ')') ++ [Token.endAt 201]

lemma tokenize_deepest : Token.tokenize deepest = .ok (openings 100 ++ behindOpenings) := by
  decide +kernel

lemma parse_deepest : parse (openings 100 ++ behindOpenings) = .ok (.literal 1) := by
  decide +kernel

lemma isOperator_of_mem_openings {depth : Nat} : ∀ token ∈ openings depth,
    token.isOperator "(" = true := by
  intro token ht
  obtain ⟨column, -, rfl⟩ := List.mem_map.mp ht
  rfl

/-- **Five calls for each level of parentheses suffice**, counting the level outside them, however
many tokens there are and whatever they are: the calls granted are never used up, and more of them
lead to the same outcome. A walk with rounds enough comes to that outcome too, so no chain is cut
off; each of its rounds but the last of a chain moves over a token, and it makes no more than seven
calls and rounds for each token up to the first end. There is a text that is read as an expression
and for which fewer calls do not suffice. -/
theorem parse_calls_suffice (hend : ∃ last ∈ tokens.getLast?, last.isEnd = true) :
    parse tokens ≠ .error (.defect .callsExhausted) ∧
      (∀ calls, 505 ≤ calls → parseWithin calls tokens = parse tokens) ∧
      (∀ rounds calls, tokens.findIdx Token.isEnd < rounds →
        ∃ walk : Walk.Outcome, Walk.parseWithin rounds calls (tokens.map Token.sense) = walk ∧
          walk.verdict? tokens = some (parseWithin calls tokens) ∧
          walk.cursor.work ≤ 7 * (tokens.findIdx Token.isEnd + 1)) ∧
      (∀ senses rounds calls level left joined cursor later,
        (Walk.round senses level (Walk.rule senses rounds calls level.operand) left).run cursor =
          .ok (some joined) later → cursor.index < later.index) ∧
      ∃ source others expr, Token.tokenize source = .ok others ∧ parse others = .ok expr ∧
        ∀ calls < 505, parseWithin calls others = .error (.defect .callsExhausted) := by
  have hsuffice : parse tokens ≠ .error (.defect .callsExhausted) :=
    fun hp => nomatch defect_of_parse hend hp
  refine ⟨hsuffice, fun calls hcalls => parseWithin_of_le hcalls hsuffice, ?_,
    fun _ _ _ _ _ _ _ _ => Walk.index_lt_of_round, ?_⟩
  · intro rounds calls hrounds
    obtain ⟨hverdict, reader, hshows⟩ :=
      Walk.verdict?_parseWithin hend (Walk.sees_map tokens) hrounds calls
    have hwork := Walk.work_le rounds calls (tokens.map Token.sense)
    have hindex := hshows.index_eq
    have hcursor := hshows.of.cursor_le
    exact ⟨_, rfl, hverdict, by omega⟩
  · refine ⟨deepest, _, _, tokenize_deepest, parse_deepest, fun calls hcalls => ?_⟩
    exact parseWithin_of_openings ⟨_, rfl, rfl⟩ isOperator_of_mem_openings (by decide) hcalls

theorem parse_calls_suffice_unclosed :
    parseWithin 1000 unclosed =
        .error (.error (.expectedSymbol ")" ⟨.endOfInput, [], .number 0, 2⟩)) ∧
      parseWithin 10 unclosed = parseWithin 1000 unclosed ∧
      parseWithin 9 unclosed = .error (.defect .callsExhausted) ∧
      (Walk.parseWithin 3 10 (unclosed.map Token.sense)).cursor.work ≤ 21 := by
  obtain ⟨-, hsame, hwork, -⟩ := @parse_calls_suffice unclosed ⟨_, rfl, rfl⟩
  obtain ⟨walk, hwalk, hverdict, hle⟩ := hwork 3 10 (by decide)
  have hmany : parseWithin 1000 unclosed = parse unclosed := hsame 1000 (by decide)
  refine ⟨hmany.trans rfl, hmany ▸ rfl, rfl, ?_⟩
  rw [hwalk]
  exact hle

end Expr

end ArithAsm
