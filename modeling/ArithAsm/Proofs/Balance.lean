import ArithAsm.Proofs.Recursion
import ArithAsm.Proofs.Steps

/-!
Parentheses and the depth of a reader. A rule that is read hands the reader on with as many
parentheses open as before, behind tokens in which they are balanced; and where reading fails, the
reader has counted every parenthesis that it moved over, but for one that may not be opened any more.
-/

namespace ArithAsm

open Grammar

/-! ### Balanced tokens -/

namespace Grammar

/-- Nowhere in the tokens are more parentheses closed than have been opened. -/
def OpensFirst (tokens : List Token) : Prop := ∀ front, front <+: tokens → 0 ≤ openCount front

/-- Every parenthesis is closed that is opened, and no other. -/
structure Balanced (tokens : List Token) : Prop where
  opensFirst : OpensFirst tokens
  openCount_eq : openCount tokens = 0

variable {front back : List Token} {token : Token}

lemma OpensFirst.openCount_nonneg (h : OpensFirst front) : 0 ≤ openCount front :=
  h front List.prefix_rfl

lemma OpensFirst.append (h : OpensFirst front) (h' : OpensFirst back) :
    OpensFirst (front ++ back) := by
  intro tokens hprefix
  rcases List.prefix_or_prefix_of_prefix hprefix (List.prefix_append front back) with hin | hin
  · exact h tokens hin
  · obtain ⟨rest, rfl⟩ := hin
    have hrest := h' rest ((List.prefix_append_right_inj front).mp hprefix)
    have hfront := h.openCount_nonneg
    rw [openCount_append]
    omega

lemma opensFirst_nil : OpensFirst [] := by
  intro tokens hprefix
  rw [List.prefix_nil.mp hprefix]
  exact Int.le_refl 0

/-- A token behind may close a parenthesis if one is open. -/
lemma OpensFirst.concat (h : OpensFirst front) (hcount : 0 ≤ openCount (front ++ [token])) :
    OpensFirst (front ++ [token]) := by
  intro tokens hprefix
  rcases List.prefix_concat_iff.mp hprefix with rfl | hfront
  · exact hcount
  · exact h tokens hfront

end Grammar

/-- The parenthesis that has been moved over when it is one too many. -/
def Failure.refused : Failure → List Token
  | .error (.expressionNestedTooDeeply opening _) => [opening]
  | _ => []

/-! ### Counting parentheses -/

namespace Reader

/-- The later reader has moved over the tokens between and counted their parentheses. -/
structure Counts (reader : Reader) (between : List Token) (later : Reader) : Prop where
  passes : reader.Passes between later
  opensFirst : OpensFirst between
  depth_eq : (later.depth : Int) = reader.depth + openCount between

/-- The later reader has failed: it stands where it stood, or behind a parenthesis that it did not
count because it is one too many. -/
structure Stumbles (reader : Reader) (failure : Failure) (later : Reader) : Prop where
  passes : reader.Passes failure.refused later
  depth_eq : later.depth = reader.depth
  opens : ∀ opening ∈ failure.refused, opening.isOperator "(" = true

variable {reader second later : Reader} {between behind : List Token}

lemma Counts.refl (reader : Reader) : reader.Counts [] reader :=
  ⟨.refl reader, opensFirst_nil, by rw [openCount_nil, Int.add_zero]⟩

lemma Counts.trans (h : reader.Counts between second) (h' : second.Counts behind later) :
    reader.Counts (between ++ behind) later where
  passes := h.passes.trans h'.passes
  opensFirst := h.opensFirst.append h'.opensFirst
  depth_eq := by rw [h'.depth_eq, h.depth_eq, openCount_append, Int.add_assoc]

lemma Counts.depth_of_balanced (h : reader.Counts between later) (hb : openCount between = 0) :
    later.depth = reader.depth := by
  have := h.depth_eq
  omega

lemma counts_advanced (he : reader.current.isEnd = false) (hc : openCount [reader.current] = 0) :
    reader.Counts [reader.current] reader.advanced where
  passes := passes_advanced he
  opensFirst := opensFirst_nil.concat (Int.le_of_eq hc.symm)
  depth_eq := by rw [advanced_depth, hc, Int.add_zero]

lemma counts_opened (hp : reader.current.isOperator "(" = true) :
    reader.Counts [reader.current] { reader.advanced with depth := reader.depth + 1 } := by
  have hopening : openCount [reader.current] = 1 := openCount_of_isOperator hp
  refine ⟨?_, opensFirst_nil.concat (by rw [List.nil_append, hopening]; decide), ?_⟩
  · exact (passes_advanced (Token.isEnd_eq_false_of_isOperator hp)).trans (.of_depth _ _)
  · rw [hopening]
    rfl

lemma Counts.closed (h : reader.Counts between second) (hopen : 0 < openCount between)
    (hc : second.current.isOperator ")" = true) :
    reader.Counts (between ++ [second.current])
      { second.advanced with depth := second.depth - 1 } := by
  have hclosing : openCount [second.current] = -1 := openCount_of_isOperator hc
  have hcount : openCount (between ++ [second.current]) = openCount between - 1 := by
    rw [openCount_append, hclosing]
    rfl
  refine ⟨h.passes.trans ?_, h.opensFirst.concat (by omega), ?_⟩
  · exact (passes_advanced (Token.isEnd_eq_false_of_isOperator hc)).trans (.of_depth _ _)
  · have hdepth := h.depth_eq
    simp only [hcount]
    omega

lemma Stumbles.refl {failure : Failure} (h : failure.refused = []) :
    reader.Stumbles failure reader := by
  refine ⟨?_, rfl, ?_⟩
  · rw [h]
    exact .refl reader
  · rw [h]
    nofun

end Reader

namespace Read

/-- `read` counts the parentheses that it moves over, and comes back when they are balanced. -/
structure Balances (read : Read Expr) (reader : Reader) : Prop where
  returns : ∀ expr later, read.run reader = .ok expr later →
    ∃ between, reader.Counts between later ∧ openCount between = 0
  fails : ∀ failure later, read.run reader = .error failure later →
    ∃ between second, reader.Counts between second ∧ second.Stumbles failure later

variable {read first : Read Expr} {reader later : Reader} {between : List Token}

lemma Balances.congr {other : Read Expr} (h : Balances other reader)
    (hread : read.run reader = other.run reader) : Balances read reader :=
  ⟨hread ▸ h.returns, hread ▸ h.fails⟩

lemma Balances.returned {expr : Expr} (hread : read.run reader = .ok expr later)
    (hcounts : reader.Counts between later) (hb : openCount between = 0) :
    Balances read reader where
  returns expr' later' h := by
    cases hread.symm.trans h
    exact ⟨between, hcounts, hb⟩
  fails failure later' h := by cases hread.symm.trans h

lemma Balances.failed {failure : Failure} (hread : read.run reader = .error failure later)
    (hstumbles : reader.Stumbles failure later) : Balances read reader where
  returns expr later' h := by cases hread.symm.trans h
  fails failure' later' h := by
    cases hread.symm.trans h
    exact ⟨[], reader, .refl reader, hstumbles⟩

lemma Balances.behind {rest : Read Expr} (hcounts : reader.Counts between later)
    (hb : openCount between = 0) (hread : read.run reader = rest.run later)
    (h : Balances rest later) : Balances read reader where
  returns expr last hrun := by
    obtain ⟨behind, hbehind, hb'⟩ := h.returns expr last (hread ▸ hrun)
    exact ⟨between ++ behind, hcounts.trans hbehind, by rw [openCount_append, hb, hb', Int.add_zero]⟩
  fails failure last hrun := by
    obtain ⟨behind, second, hbehind, hstumbles⟩ := h.fails failure last (hread ▸ hrun)
    exact ⟨between ++ behind, second, hcounts.trans hbehind, hstumbles⟩

lemma Balances.bind {rest : Expr → Read Expr} (hfirst : Balances first reader)
    (hrest : ∀ expr later, Balances (rest expr) later) : Balances (first >>= rest) reader where
  returns expr later h := by
    obtain ⟨inner, second, hin, hout⟩ := run_bind_eq_ok.mp h
    obtain ⟨between, hcounts, hb⟩ := hfirst.returns inner second hin
    exact (Balances.behind hcounts hb (h.trans hout.symm) (hrest inner second)).returns expr later h
  fails failure later h := by
    rcases run_bind_eq_error.mp h with hin | ⟨inner, second, hin, hout⟩
    · exact hfirst.fails failure later hin
    · obtain ⟨between, hcounts, hb⟩ := hfirst.returns inner second hin
      exact (Balances.behind hcounts hb (h.trans hout.symm) (hrest inner second)).fails failure later h

/-- A group holds one parenthesis open while it is read, and then closes it. -/
lemma Balances.group {expression : Read Expr} (hp : reader.current.isOperator "(" = true)
    (hread : read.run reader =
      (expression >>= close).run { reader.advanced with depth := reader.depth + 1 })
    (h : Balances expression { reader.advanced with depth := reader.depth + 1 }) :
    Balances read reader := by
  have hopening : openCount [reader.current] = 1 := openCount_of_isOperator hp
  -- where the expression in the group ends
  have hsecond : ∀ inner second,
      expression.run { reader.advanced with depth := reader.depth + 1 } = .ok inner second →
        ∃ between, reader.Counts between second ∧ openCount between = 1 ∧ second.depth ≠ 0 := by
    intro inner second hin
    obtain ⟨between, hcounts, hb⟩ := h.returns inner second hin
    refine ⟨[reader.current] ++ between, (Reader.counts_opened hp).trans hcounts, ?_, ?_⟩
    · rw [openCount_append, hopening, hb]
      rfl
    · rw [hcounts.depth_of_balanced hb]
      exact Nat.succ_ne_zero _
  constructor
  case returns =>
    intro expr later hrun
    obtain ⟨inner, second, hin, hclose⟩ := run_bind_eq_ok.mp (hread ▸ hrun)
    obtain ⟨between, hcounts, hone, hdepth⟩ := hsecond inner second hin
    rw [run_close, if_neg hdepth] at hclose
    split at hclose
    next hc =>
      cases hclose
      have hclosing : openCount [second.current] = -1 := openCount_of_isOperator hc
      refine ⟨_, hcounts.closed (by rw [hone]; decide) hc, ?_⟩
      rw [openCount_append, hone, hclosing]
      rfl
    next => cases hclose
  case fails =>
    intro failure later hrun
    rcases run_bind_eq_error.mp (hread ▸ hrun) with hin | ⟨inner, second, hin, hclose⟩
    · obtain ⟨between, second, hcounts, hstumbles⟩ := h.fails failure later hin
      exact ⟨_, second, (Reader.counts_opened hp).trans hcounts, hstumbles⟩
    · obtain ⟨between, hcounts, -, hdepth⟩ := hsecond inner second hin
      rw [run_close, if_neg hdepth] at hclose
      split at hclose
      next => cases hclose
      next =>
        cases hclose
        exact ⟨between, _, hcounts, .refl rfl⟩

/-! ### The rules -/

lemma joinOperands_balances {level : Level} {operand : Read Expr}
    (hop : ∀ reader : Reader, Balances operand reader) (rounds : Nat) (left : Expr)
    (reader : Reader) : Balances (joinOperands level operand rounds left) reader := by
  induction rounds generalizing left reader with
  | zero => exact .returned rfl (.refl reader) openCount_nil
  | succ rounds ih =>
    have hread := run_joinOperands level operand rounds left reader
    split at hread
    next => exact .returned hread (.refl reader) openCount_nil
    next operation hf =>
      have ho := List.find?_some hf
      have hsign : openCount [reader.current] = 0 := by
        rw [openCount_of_isOperator ho]
        cases operation <;> decide
      have hcounts := Reader.counts_advanced (Token.isEnd_eq_false_of_isOperator ho) hsign
      exact .behind hcounts hsign hread ((hop _).bind fun right later => ih _ later)

/-- Every rule counts the parentheses that it moves over, whatever the number of calls. -/
lemma rule_balances (calls : Nat) (rule : Rule) (reader : Reader) :
    Balances (Read.rule calls rule) reader := by
  induction calls generalizing rule reader with
  | zero => exact .failed rfl (.refl rfl)
  | succ calls ih =>
    cases rule with
    | expression => exact (ih (.chain .sum) reader).congr rfl
    | product => exact (ih (.chain .product) reader).congr rfl
    | chain level =>
      refine Balances.congr ((ih level.operand reader).bind fun first later => ?_)
        (run_chain calls level reader)
      exact (joinOperands_balances (ih level.operand) later.remaining first later).congr rfl
    | primary =>
      have hread := run_primary calls reader
      by_cases hp : reader.current.isOperator "(" = true
      · rw [if_pos hp] at hread
        by_cases hfull : Reader.greatestDepth ≤ reader.depth
        · -- the parenthesis has been moved over before it is refused
          rw [if_pos hfull] at hread
          have hadv := Reader.passes_advanced (Token.isEnd_eq_false_of_isOperator hp)
          exact .failed hread ⟨hadv, reader.advanced_depth, List.forall_mem_singleton.mpr hp⟩
        · rw [if_neg hfull] at hread
          exact .group hp hread (ih .expression _)
      · rw [if_neg hp, EStateM.run_bind, run_expectNumber] at hread
        by_cases hk : reader.current.kind = .integer
        · rw [if_pos hk] at hread
          have hcount : openCount [reader.current] = 0 := by
            simp [openCount, Token.isOperator, hk]
          cases hv : reader.current.value with
          | number value =>
            rw [hv] at hread
            exact .returned hread
              (Reader.counts_advanced (Token.isEnd_eq_false_of_integer hk) hcount) hcount
          | symbol text =>
            rw [hv] at hread
            exact .failed hread (.refl rfl)
        · rw [if_neg hk] at hread
          exact .failed hread (.refl rfl)

/-! ### Calls enough -/

/-- What fails by itself fails an expression that begins with it. -/
lemma exists_expression_error {calls : Nat} {rule : Rule} {failure : Failure}
    (h : (Read.rule calls rule).run reader = .error failure later) :
    ∃ more, calls ≤ more ∧ (Read.rule more .expression).run reader = .error failure later := by
  have hproduct {calls : Nat} (h : (Read.rule calls .product).run reader = .error failure later) :
      (Read.rule (calls + 2) .expression).run reader = .error failure later :=
    run_chain_of_error .sum h
  cases rule with
  | expression => exact ⟨calls, Nat.le_refl _, h⟩
  | product => exact ⟨calls + 2, Nat.le_add_right _ _, hproduct h⟩
  | primary =>
    exact ⟨calls + 4, Nat.le_add_right _ _, run_chain_of_error .sum (run_chain_of_error .product h)⟩
  | chain level =>
    cases level with
    | sum => exact ⟨calls + 1, Nat.le_add_right _ _, h⟩
    | product => exact ⟨calls + 3, Nat.le_add_right _ _, @hproduct (calls + 1) h⟩

/-- The calls granted to the parser suffice wherever a reader stands. -/
lemma ne_callsExhausted {calls : Nat} {rule : Rule} {failure : Failure}
    (hdepth : reader.depth ≤ Reader.greatestDepth) (hcalls : Expr.callsGranted ≤ calls)
    (h : (Read.rule calls rule).run reader = .error failure later) :
    failure ≠ .defect .callsExhausted := by
  obtain ⟨more, hmore, hexpression⟩ := exists_expression_error h
  have hlevels : reader.depth + (Reader.greatestDepth - reader.depth) = Reader.greatestDepth := by
    omega
  have henough : 5 * (Reader.greatestDepth - reader.depth + 1) ≤ more := by
    unfold Expr.callsGranted at hcalls
    omega
  have hblames := (expression_reads hlevels henough).fails failure later hexpression
  rintro rfl
  cases hblames

end Read

/-! ### Where readers stand -/

namespace Reader

variable {tokens : List Token} {reader later : Reader}

lemma exists_inside (hend : ∃ last ∈ tokens.getLast?, last.isEnd = true) {cursor depth : Nat}
    (hcursor : cursor ≤ tokens.findIdx Token.isEnd) (hdepth : depth ≤ greatestDepth) :
    ∃ reader : Reader, reader.Inside tokens ∧ reader.cursor = cursor ∧ reader.depth = depth := by
  obtain ⟨fresh, hfresh, -⟩ := ofTokens_eq_ok hend
  obtain ⟨hof, hstart, -⟩ := of_ofTokens hfresh
  have hlength : cursor + (fresh.ahead.drop cursor).length = fresh.count := by
    have hcount := fresh.cursor_add_length
    rw [← hof.count_eq] at hcursor
    rw [List.length_drop]
    omega
  let placed : Reader := {
    fresh with
    ahead := fresh.ahead.drop cursor
    cursor
    depth
    ahead_not_isEnd := fun token ht => fresh.ahead_not_isEnd token (List.mem_of_mem_drop ht)
    cursor_add_length := hlength }
  have hpasses : fresh.Passes (fresh.ahead.take cursor) placed :=
    ⟨(List.take_append_drop cursor fresh.ahead).symm, rfl, rfl⟩
  exact ⟨placed, ⟨hof.of_passes hpasses, hdepth⟩, rfl, rfl⟩

lemma not_isOperator_of_stops {phrase : Phrase} (h : Stops phrase reader.ahead)
    {operation : Operation} (hm : operation ∈ phrase.further) :
    reader.current.isOperator operation.symbol = false := by
  by_contra ho
  rw [Bool.not_eq_false] at ho
  have hstops := h reader.current (by rw [ahead_of_isOperator ho]; rfl) operation hm
  cases ho.symm.trans hstops

/-- How a reader stands behind what a rule describes: the parentheses in between are balanced, and
no operator comes next by which the rule could go on. -/
structure Completes (reader : Reader) (tokens : List Token) (rule : Rule) (later : Reader) : Prop where
  depth_eq : later.depth = reader.depth
  cursor_lt : reader.cursor < later.cursor
  cursor_le : later.cursor ≤ tokens.findIdx Token.isEnd
  balanced : Balanced (tokens.extract reader.cursor later.cursor)
  current : tokens[later.cursor]? = some later.current
  product : rule = .product →
    ∀ symbol ∈ (["*", "/"] : List Text), later.current.isOperator symbol = false
  expression : rule = .expression →
    ∀ symbol ∈ (["+", "-", "*", "/"] : List Text), later.current.isOperator symbol = false

/-- How a reader stands where reading has failed: all parentheses in between are counted, but for
the one at their end if it is refused. -/
structure BreaksOff (reader : Reader) (tokens : List Token) (failure : Failure) (later : Reader) :
    Prop where
  depth_le : reader.depth ≤ later.depth
  cursor_le : reader.cursor ≤ later.cursor ∧ later.cursor ≤ tokens.findIdx Token.isEnd
  counted : ∃ between, tokens.extract reader.cursor later.cursor = between ++ failure.refused ∧
    (later.depth : Int) = reader.depth + openCount between
  refused : ∀ opening ∈ failure.refused, opening.isOperator "(" = true

lemma Of.completes (hof : reader.Of tokens) {rule : Rule} {between : List Token}
    (hcounts : reader.Counts between later) (hb : openCount between = 0) (hne : between ≠ [])
    (hstops : Stops rule.phrase later.ahead) : reader.Completes tokens rule later where
  depth_eq := hcounts.depth_of_balanced hb
  cursor_lt := by
    have hlength := List.length_pos_iff.mpr hne
    rw [hcounts.passes.cursor_eq]
    omega
  cursor_le := (hof.of_passes hcounts.passes).cursor_le
  balanced := by
    rw [hof.extract_eq hcounts.passes]
    exact ⟨hcounts.opensFirst, hb⟩
  current := (hof.of_passes hcounts.passes).getElem?_cursor
  product := by
    rintro rfl symbol hm
    obtain ⟨operation, hoperation, rfl⟩ := List.mem_map.mp
      (show symbol ∈ (Phrase.further (.chain .product)).map Operation.symbol from hm)
    exact not_isOperator_of_stops hstops hoperation
  expression := by
    rintro rfl symbol hm
    obtain ⟨operation, hoperation, rfl⟩ := List.mem_map.mp
      (show symbol ∈ (Phrase.further (.chain .sum)).map Operation.symbol from hm)
    exact not_isOperator_of_stops hstops hoperation

lemma Of.breaksOff (hof : reader.Of tokens) {failure : Failure} {second : Reader}
    {between : List Token} (hcounts : reader.Counts between second)
    (hstumbles : second.Stumbles failure later) : reader.BreaksOff tokens failure later := by
  have hpasses := hcounts.passes.trans hstumbles.passes
  have hdepth : (later.depth : Int) = reader.depth + openCount between := by
    rw [hstumbles.depth_eq, hcounts.depth_eq]
  have hopens := hcounts.opensFirst.openCount_nonneg
  refine ⟨by omega, ⟨?_, (hof.of_passes hpasses).cursor_le⟩,
    ⟨between, hof.extract_eq hpasses, hdepth⟩, hstumbles.opens⟩
  rw [hpasses.cursor_eq]
  exact Nat.le_add_right _ _

end Reader

/-- **Every rule restores the depth and stops at the right token.** Take tokens that end with an end
token, and a reader at any of them up to the first end, with any number of parentheses open that may
be. If a rule is read from there, the reader has as many parentheses open as before and stands behind
one token at least, up to the first end; the parentheses in between are balanced, and no operator
comes next by which the rule could go on. If reading fails, at least as many parentheses are open as
before, and just those more that were opened and not closed in between, where one that is refused
does not count. With the calls that are granted it never fails for want of calls. -/
theorem Read.rule_restores_depth {tokens : List Token}
    (hend : ∃ last ∈ tokens.getLast?, last.isEnd = true) :
    (∀ cursor ≤ tokens.findIdx Token.isEnd, ∀ depth ≤ 100,
      ∃ reader : Reader, reader.Inside tokens ∧ reader.cursor = cursor ∧ reader.depth = depth) ∧
    ∀ reader : Reader, reader.Inside tokens → ∀ (calls : Nat) (rule : Rule),
      (∀ expr later, (Read.rule calls rule).run reader = .ok expr later →
        reader.Completes tokens rule later) ∧
      ∀ failure later, (Read.rule calls rule).run reader = .error failure later →
        reader.BreaksOff tokens failure later ∧
          (505 ≤ calls → failure ≠ .defect .callsExhausted) := by
  refine ⟨fun cursor hcursor depth hdepth => Reader.exists_inside hend hcursor hdepth,
    fun reader hin calls rule => ⟨fun expr later hrun => ?_, fun failure later hrun => ⟨?_, ?_⟩⟩⟩
  · obtain ⟨between, hcounts, hb⟩ := (rule_balances calls rule reader).returns expr later hrun
    obtain ⟨passed, hpasses, -, hread, hstops⟩ :=
      (rule_follows calls rule reader).returns expr later hrun
    obtain rfl : passed = between := by
      rw [← hin.of.extract_eq hpasses, hin.of.extract_eq hcounts.passes]
    refine hin.of.completes hcounts hb ?_ hstops
    -- an operand was expected and has been read
    rintro rfl
    cases hread
  · obtain ⟨between, second, hcounts, hstumbles⟩ :=
      (rule_balances calls rule reader).fails failure later hrun
    exact hin.of.breaksOff hcounts hstumbles
  · exact fun hcalls => ne_callsExhausted hin.depth_le hcalls hrun

def multiplied : List Token :=
  [⟨.integer, "2", .number 2, 0⟩, ⟨.operator, "*", .symbol "*", 1⟩,
    ⟨.operator, "(", .symbol "(", 2⟩, ⟨.integer, "3", .number 3, 3⟩,
    ⟨.operator, ")", .symbol ")", 4⟩, ⟨.endOfInput, [], .number 0, 5⟩]

def crowded (depth : Nat) : Reader where
  ahead := multiplied.dropLast
  last := ⟨.endOfInput, [], .number 0, 5⟩
  cursor := 0
  count := 5
  depth
  ahead_not_isEnd := by decide
  last_isEnd := rfl
  cursor_add_length := rfl

/-- With all parentheses open that may be, the one in the product is refused; with one less, it is
opened and closed. -/
theorem Read.rule_restores_depth_refused :
    (∃ later, (Read.rule 505 .product).run (crowded 100) = .error
        (.error (.expressionNestedTooDeeply ⟨.operator, "(", .symbol "(", 2⟩ 100)) later ∧
      later.cursor = 3 ∧ 100 ≤ later.depth) ∧
    ∃ later, (Read.rule 505 .product).run (crowded 99) =
        .ok (.binary .multiply (.literal 2) (.literal 3)) later ∧
      later.cursor = 5 ∧ later.depth = 99 := by
  have hin (depth : Nat) (hdepth : depth ≤ Reader.greatestDepth) :
      (crowded depth).Inside multiplied := ⟨⟨⟨[], rfl⟩, rfl⟩, hdepth⟩
  obtain ⟨-, hrules⟩ := @Read.rule_restores_depth multiplied ⟨_, rfl, rfl⟩
  exact ⟨⟨_, rfl, rfl, ((hrules _ (hin 100 (by decide)) 505 .product).2 _ _ rfl).1.depth_le⟩,
    ⟨_, rfl, rfl, ((hrules _ (hin 99 (by decide)) 505 .product).1 _ _ rfl).depth_eq⟩⟩

end ArithAsm
