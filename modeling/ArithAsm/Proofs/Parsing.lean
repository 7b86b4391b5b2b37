import ArithAsm.Proofs.Grammar
import ArithAsm.Proofs.Reading

/-!
The parser reads the grammar. What it answers is the tree of a derivation of the tokens that it
has moved over, and wherever the tokens ahead begin with a derivation that keeps within the depth
that is left, it answers the tree of that derivation. Anything else is an error about one of the
tokens. The calls granted to the parser are enough, five for each level of parentheses.
-/

namespace ArithAsm

open Grammar

/-- The token that an error of syntax is about. -/
def Error.token? : Error → Option Token
  | .expectedNumber got => some got
  | .expectedSymbol _ got => some got
  | .unexpectedTrailingToken got => some got
  | .expressionNestedTooDeeply opened _ => some opened
  | _ => none

/-- How many more parentheses a reader may open. -/
def Reader.room (reader : Reader) : Int := Reader.greatestDepth - reader.depth

lemma Reader.room_congr {reader later : Reader} (h : later.depth = reader.depth) :
    later.room = reader.room := by
  rw [room, h, room]

namespace Read

/-! ### One step of each rule -/

lemma run_chain (calls : Nat) (level : Level) (reader : Reader) :
    (rule (calls + 1) (.chain level)).run reader =
      (rule calls level.operand >>= fun first => do
        joinOperands level (rule calls level.operand) (← get).remaining first).run reader := rfl

lemma run_joinOperands (level : Level) (operand : Read Expr) (rounds : Nat) (left : Expr)
    (reader : Reader) :
    (joinOperands level operand (rounds + 1) left).run reader =
      match level.operations.find? fun operation => reader.current.isOperator operation.symbol with
      | none => .ok left reader
      | some operation =>
        (operand >>= fun right => joinOperands level operand rounds
          (.binary operation left right)).run reader.advanced := by
  simp only [joinOperands, EStateM.run_bind, run_consumeOperation]
  cases level.operations.find? fun operation => reader.current.isOperator operation.symbol <;> rfl

def close (inner : Expr) : Read Expr := do
  expect ")"
  leave
  return inner

lemma run_close (inner : Expr) (reader : Reader) :
    (close inner).run reader =
      if reader.current.isOperator ")" then
        if reader.depth = 0 then .error (.defect .parenthesesUnbalanced) reader.advanced
        else .ok inner { reader.advanced with depth := reader.depth - 1 }
      else .error (.error (.expectedSymbol ")" reader.current)) reader := by
  simp only [close, EStateM.run_bind, run_expect]
  by_cases hc : reader.current.isOperator ")" = true
  · simp only [if_pos hc, run_leave, Reader.advanced_depth]
    by_cases h0 : reader.depth = 0
    · simp only [if_pos h0]
    · simp only [if_neg h0]
      rfl
  · simp only [if_neg hc]

lemma run_primary (calls : Nat) (reader : Reader) :
    (rule (calls + 1) .primary).run reader =
      if reader.current.isOperator "(" then
        if Reader.greatestDepth ≤ reader.depth then
          .error (.error (.expressionNestedTooDeeply reader.current Reader.greatestDepth))
            reader.advanced
        else
          (rule calls .expression >>= close).run { reader.advanced with depth := reader.depth + 1 }
      else (expectNumber >>= fun value => return .literal value).run reader := by
  simp only [rule, EStateM.run_bind, run_peek, run_consume]
  by_cases hp : reader.current.isOperator "(" = true
  · simp only [if_pos hp, if_true, EStateM.run_bind, run_enter, Reader.advanced_depth]
    by_cases hd : Reader.greatestDepth ≤ reader.depth
    · simp only [if_pos hd]
    · simp only [if_neg hd]
      rfl
  · simp only [if_neg hp, Bool.false_eq_true, if_false, EStateM.run_bind]

/-! ### What a step may answer -/

/-- Why reading fails: there is an error of syntax about a token still to be shown, or an integer
among these carries a symbol. -/
inductive Blames (reader : Reader) : Failure → Prop where
  | token {error : Error} {token : Token} (mem : token ∈ reader.tokens)
      (about : error.token? = some token) : Blames reader (.error error)
  | unvalued {token : Token} {text : Text} (mem : token ∈ reader.tokens)
      (kind_eq : token.kind = .integer) (value_eq : token.value = .symbol text) :
      Blames reader (.defect .integerUnvalued)

lemma Blames.of_passes {reader later : Reader} {between : List Token} {failure : Failure}
    (hp : reader.Passes between later) (h : Blames later failure) : Blames reader failure := by
  cases h with
  | token mem about => exact .token (hp.mem_tokens mem) about
  | unvalued mem kind_eq value_eq => exact .unvalued (hp.mem_tokens mem) kind_eq value_eq

/-- From this reader on, `read` finds a phrase wherever there is one, and nothing but the phrase;
`finish` makes its answer of the tree. -/
structure Reads (phrase : Phrase) (finish : phrase.Tree → Expr) (read : Read Expr)
    (reader : Reader) : Prop where
  sound : ∀ expr later, read.run reader = .ok expr later →
    ∃ d : Derivation phrase, finish d.tree = expr ∧ reader.Passes d.yield later ∧
      later.depth = reader.depth ∧ OpensAtMost reader.room d.yield ∧ Stops phrase later.ahead
  fails : ∀ failure later, read.run reader = .error failure later → Blames reader failure
  complete : ∀ (d : Derivation phrase) (behind : List Token), reader.ahead = d.yield ++ behind →
    OpensAtMost reader.room d.yield → Stops phrase behind →
      ∃ later, read.run reader = .ok (finish d.tree) later ∧ later.ahead = behind ∧
        later.depth = reader.depth

variable {level : Level} {reader : Reader}

lemma Reads.of_run_eq {phrase : Phrase} {finish : phrase.Tree → Expr} {read other : Read Expr}
    (hr : Reads phrase finish other reader) (h : read.run reader = other.run reader) :
    Reads phrase finish read reader :=
  ⟨h ▸ hr.sound, h ▸ hr.fails, h ▸ hr.complete⟩

lemma Reads.product {read : Read Expr} (h : Reads (.chain .product) id read reader) :
    Reads (.operand .sum) id read reader where
  sound expr later hr := by
    obtain ⟨d, htree, hrest⟩ := h.sound expr later hr
    exact ⟨.product d, htree, hrest⟩
  fails := h.fails
  complete d behind ha ho hs := by
    cases d with
    | product inner => exact h.complete inner behind ha ho hs

lemma Reads.primary {read : Read Expr} (h : Reads .primary id read reader) :
    Reads (.operand .product) id read reader where
  sound expr later hr := by
    obtain ⟨d, htree, hrest⟩ := h.sound expr later hr
    exact ⟨.primary d, htree, hrest⟩
  fails := h.fails
  complete d behind ha ho hs := by
    cases d with
    | primary inner => exact h.complete inner behind ha ho hs

lemma stops_rest_iff {tokens : List Token} :
    Stops (.rest level) tokens ↔ Stops (.operand level) tokens ∧
      ∀ token ∈ tokens.head?, ∀ operation ∈ level.operations,
        token.isOperator operation.symbol = false := by
  cases level with
  | sum =>
    simp only [Stops, Phrase.further, List.mem_append]
    grind
  | product => simp [Stops, Phrase.further]

/-! ### The rules -/

lemma Reads.done {read : Read Expr} {left : Expr} (hroom : 0 ≤ reader.room)
    (hs : Stops (.rest level) reader.ahead) (hread : read.run reader = .ok left reader) :
    Reads (.rest level) (fun finish => finish left) read reader where
  sound expr later h := by
    rw [hread] at h
    cases h
    exact ⟨.done, rfl, .refl reader, rfl, opensAtMost_nil.mpr hroom, hs⟩
  fails failure later h := by
    rw [hread] at h
    cases h
  complete d behind ha ho hb := by
    cases d with
    | done => exact ⟨reader, hread, ha, rfl⟩
    | join operation sign operand rest mem signs =>
      have := (stops_rest_iff.mp hs).2 sign (by rw [ha]; rfl) operation mem
      simp [this] at signs

/-- A chain goes on with an operator, the operand behind it, and what `next` makes of the two. -/
lemma Reads.join {read operand : Read Expr} {next : Expr → Read Expr} {left : Expr}
    {operation : Operation} (hm : operation ∈ level.operations)
    (ho : reader.current.isOperator operation.symbol = true)
    (hread : read.run reader = (operand >>= next).run reader.advanced)
    (hop : Reads (.operand level) id operand reader.advanced)
    (hnext : ∀ right later, later.depth = reader.depth →
      later.ahead.length < reader.ahead.length → Stops (.operand level) later.ahead →
        Reads (.rest level) (fun finish => finish (.binary operation left right)) (next right)
          later) :
    Reads (.rest level) (fun finish => finish left) read reader := by
  have hadv := Reader.passes_advanced (Token.isEnd_eq_false_of_isOperator ho)
  have hroom := Reader.room_congr reader.advanced_depth
  -- where the operand ends
  have hsecond : ∀ right second, operand.run reader.advanced = .ok right second →
      ∃ d : Derivation (.operand level), d.tree = right ∧
        reader.Passes (reader.current :: d.yield) second ∧ second.depth = reader.depth ∧
        OpensAtMost reader.room d.yield ∧
        Reads (.rest level) (fun finish => finish (.binary operation left right)) (next right)
          second := by
    intro right second h
    obtain ⟨d, htree, hp, hd, hopen, hstops⟩ := hop.sound right second h
    rw [Reader.advanced_depth] at hd
    refine ⟨d, htree, hadv.trans hp, hd, hroom ▸ hopen, hnext right second hd ?_ hstops⟩
    simp only [hadv.ahead, hp.ahead, List.length_append, List.length_singleton]
    omega
  constructor
  case sound =>
    intro expr later h
    obtain ⟨right, second, hop', hrest⟩ := run_bind_eq_ok.mp (hread ▸ h)
    obtain ⟨d, rfl, hp, hd, hopen, hreads⟩ := hsecond right second hop'
    obtain ⟨r, rfl, hrp, hrd, hropen, hrstops⟩ := hreads.sound expr later hrest
    rw [Reader.room_congr hd] at hropen
    exact ⟨.join operation reader.current d r hm ho, rfl, hp.trans hrp, hrd.trans hd,
      Derivation.opensAtMost_join.mpr ⟨hopen, hropen⟩, hrstops⟩
  case fails =>
    intro failure later h
    rcases run_bind_eq_error.mp (hread ▸ h) with h | ⟨right, second, hop', hrest⟩
    · exact (hop.fails failure later h).of_passes hadv
    · obtain ⟨d, -, hp, -, -, hreads⟩ := hsecond right second hop'
      exact (hreads.fails failure later hrest).of_passes hp
  case complete =>
    intro d behind ha hopen hb
    cases d with
    | done =>
      have := (stops_rest_iff.mp hb).2 reader.current
        (by rw [← show reader.ahead = behind from ha, Reader.ahead_of_isOperator ho]; rfl)
        operation hm
      simp [this] at ho
    | join operation' sign operand' rest mem signs =>
      simp only [Derivation.yield, List.cons_append, List.append_assoc] at ha
      obtain ⟨rfl, hahead⟩ := List.cons_eq_cons.mp (hadv.ahead.symm.trans ha)
      obtain rfl : operation' = operation := by
        rw [Token.isOperator_eq_decide ho, decide_eq_true_eq] at signs
        revert signs
        cases operation <;> cases operation' <;> decide
      obtain ⟨hopen1, hopen2⟩ := Derivation.opensAtMost_join.mp hopen
      obtain ⟨second, hop', ha2, hd2⟩ :=
        hop.complete operand' _ hahead (hroom ▸ hopen1) (hb.operand rest)
      obtain ⟨-, -, -, hd, -, hreads⟩ := hsecond _ second hop'
      rw [← Reader.room_congr hd] at hopen2
      obtain ⟨later, hrest, ha3, hd3⟩ := hreads.complete rest behind ha2 hopen2 hb
      exact ⟨later, hread ▸ run_bind_eq_ok.mpr ⟨_, second, hop', hrest⟩, ha3, hd3.trans hd⟩

lemma joinOperands_reads {depth : Nat} {operand : Read Expr} (hdepth : depth ≤ Reader.greatestDepth)
    (hop : ∀ reader : Reader, reader.depth = depth → Reads (.operand level) id operand reader)
    (rounds : Nat) (left : Expr) {reader : Reader} (hd : reader.depth = depth)
    (hr : reader.ahead.length ≤ rounds) (hs : Stops (.operand level) reader.ahead) :
    Reads (.rest level) (fun finish => finish left) (joinOperands level operand rounds left)
      reader := by
  have hroom : 0 ≤ reader.room := by
    rw [Reader.room, hd]
    omega
  -- on the rounds, which the tokens ahead never outnumber
  induction rounds generalizing left reader with
  | zero =>
    have ha : reader.ahead = [] := List.length_eq_zero_iff.mp (by omega)
    exact .done hroom (by rw [ha]; exact stops_nil _) rfl
  | succ rounds ih =>
    have hread := run_joinOperands level operand rounds left reader
    split at hread
    next hf =>
      refine .done hroom (stops_rest_iff.mpr ⟨hs, fun token ht operation hm => ?_⟩) hread
      rw [← Reader.current_of_mem_head? ht]
      simpa using List.find?_eq_none.mp hf operation hm
    next operation hf =>
      have ho := List.find?_some hf
      refine .join (List.mem_of_find?_eq_some hf) ho hread
        (hop _ (by rw [Reader.advanced_depth, hd])) fun right later hdl hlen hstops => ?_
      exact ih _ (hdl.trans hd) (by omega) hstops ((Reader.room_congr hdl).symm ▸ hroom)

lemma Reads.chain {operand : Read Expr} {next : Expr → Read Expr} {read : Read Expr}
    (hread : read.run reader = (operand >>= next).run reader)
    (hop : Reads (.operand level) id operand reader)
    (hnext : ∀ first later, later.depth = reader.depth → Stops (.operand level) later.ahead →
      Reads (.rest level) (fun finish => finish first) (next first) later) :
    Reads (.chain level) id read reader := by
  have hstops : ∀ tokens, Stops (.chain level) tokens ↔ Stops (.rest level) tokens := by
    intro tokens
    cases level <;> rfl
  constructor
  case sound =>
    intro expr later h
    obtain ⟨first, second, hop', hrest⟩ := run_bind_eq_ok.mp (hread ▸ h)
    obtain ⟨d, rfl, hp, hd, hopen, hs⟩ := hop.sound first second hop'
    obtain ⟨r, rfl, hrp, hrd, hropen, hrs⟩ := (hnext _ second hd hs).sound expr later hrest
    rw [Reader.room_congr hd] at hropen
    exact ⟨.chain d r, rfl, hp.trans hrp, hrd.trans hd,
      Derivation.opensAtMost_chain.mpr ⟨hopen, hropen⟩, (hstops _).mpr hrs⟩
  case fails =>
    intro failure later h
    rcases run_bind_eq_error.mp (hread ▸ h) with h | ⟨first, second, hop', hrest⟩
    · exact hop.fails failure later h
    · obtain ⟨d, -, hp, hd, -, hs⟩ := hop.sound first second hop'
      exact ((hnext _ second hd hs).fails failure later hrest).of_passes hp
  case complete =>
    intro d behind ha hopen hb
    cases d with
    | chain first rest =>
      simp only [Derivation.yield, List.append_assoc] at ha
      obtain ⟨hopen1, hopen2⟩ := Derivation.opensAtMost_chain.mp hopen
      have hsecond := ((hstops _).mp hb).operand rest
      obtain ⟨second, hop', ha2, hd2⟩ := hop.complete first _ ha hopen1 hsecond
      rw [← Reader.room_congr hd2] at hopen2
      obtain ⟨later, hrest, ha3, hd3⟩ :=
        (hnext _ second hd2 (ha2 ▸ hsecond)).complete rest behind ha2 hopen2 ((hstops _).mp hb)
      exact ⟨later, hread ▸ run_bind_eq_ok.mpr ⟨_, second, hop', hrest⟩, ha3, hd3.trans hd2⟩

lemma chain_reads {calls : Nat} (hdepth : reader.depth ≤ Reader.greatestDepth)
    (hop : ∀ other : Reader, other.depth = reader.depth →
      Reads (.operand level) id (rule calls level.operand) other) :
    Reads (.chain level) id (rule (calls + 1) (.chain level)) reader := by
  refine .chain (run_chain calls level reader) (hop reader rfl) fun first later hd hs => ?_
  have hr := Nat.le_of_eq later.remaining_eq_length.symm
  have hjoin := joinOperands_reads hdepth hop later.remaining first hd hr hs
  exact hjoin.of_run_eq rfl

lemma Reads.number {read : Read Expr} {value : Int} (hroom : 0 ≤ reader.room)
    (hk : reader.current.kind = .integer) (hv : reader.current.value = .number value)
    (hread : read.run reader = .ok (.literal value) reader.advanced) :
    Reads .primary id read reader := by
  have hadv := Reader.passes_advanced (Token.isEnd_eq_false_of_integer hk)
  constructor
  case sound =>
    intro expr later h
    cases hread.symm.trans h
    exact ⟨.number reader.current value hk hv, rfl, hadv, reader.advanced_depth,
      Derivation.opensAtMost_number.mpr hroom, by simp [Stops, Phrase.further]⟩
  case fails =>
    intro failure later h
    cases hread.symm.trans h
  case complete =>
    intro d behind ha hopen hb
    cases d with
    | number token other kind_eq value_eq =>
      obtain ⟨rfl, hahead⟩ := List.cons_eq_cons.mp (hadv.ahead.symm.trans ha)
      obtain rfl : value = other := by simpa [hv] using value_eq
      exact ⟨reader.advanced, hread, hahead, reader.advanced_depth⟩
    | group opening inner closing opens closes =>
      obtain ⟨rfl, -⟩ := List.cons_eq_cons.mp (hadv.ahead.symm.trans ha)
      simp [Token.isOperator, hk] at opens

lemma Reads.failed {phrase : Phrase} {finish : phrase.Tree → Expr} {read : Read Expr}
    {failure : Failure} {later : Reader} (hread : read.run reader = .error failure later)
    (hb : Blames reader failure)
    (hnone : ∀ (d : Derivation phrase) (behind : List Token), reader.ahead = d.yield ++ behind →
      ¬ OpensAtMost reader.room d.yield) :
    Reads phrase finish read reader where
  sound expr later h := by cases hread.symm.trans h
  fails failure later h := by
    cases hread.symm.trans h
    exact hb
  complete d behind ha hopen hs := absurd hopen (hnone d behind ha)

/-- A parenthesis opens a group, unless that is one too many. -/
lemma Reads.group {read expression : Read Expr} {inside : Reader}
    (hp : reader.current.isOperator "(" = true)
    (hinside : inside = { reader.advanced with depth := reader.depth + 1 })
    (hread : read.run reader = (expression >>= close).run inside)
    (hin : Reads (.chain .sum) id expression inside) : Reads .primary id read reader := by
  have hadv : reader.Passes [reader.current] inside := by
    rw [hinside]
    exact (Reader.passes_advanced (Token.isEnd_eq_false_of_isOperator hp)).trans (.of_depth _ _)
  have hdepth : inside.depth = reader.depth + 1 := by rw [hinside]
  have hroom : inside.room = reader.room - 1 := by
    simp only [Reader.room, hdepth]
    omega
  constructor
  case sound =>
    intro expr later h
    obtain ⟨inner, second, hin', hclose⟩ := run_bind_eq_ok.mp (hread ▸ h)
    obtain ⟨d, rfl, hp2, hd2, hopen, -⟩ := hin.sound inner second hin'
    rw [run_close, hd2, hdepth, if_neg (Nat.succ_ne_zero _)] at hclose
    split at hclose
    next hc =>
      cases hclose
      have hadv2 := Reader.passes_advanced (Token.isEnd_eq_false_of_isOperator hc)
      exact ⟨.group reader.current d second.current hp hc, rfl,
        hadv.trans (hp2.trans (hadv2.trans (.of_depth _ _))), rfl,
        Derivation.opensAtMost_group.mpr (hroom ▸ hopen), by simp [Stops, Phrase.further]⟩
    next => cases hclose
  case fails =>
    intro failure later h
    rcases run_bind_eq_error.mp (hread ▸ h) with h | ⟨inner, second, hin', hclose⟩
    · exact (hin.fails failure later h).of_passes hadv
    · obtain ⟨d, -, hp2, hd2, -, -⟩ := hin.sound inner second hin'
      rw [run_close, hd2, hdepth, if_neg (Nat.succ_ne_zero _)] at hclose
      split at hclose
      next => cases hclose
      next =>
        have hb : Blames second (.error (.expectedSymbol ")" second.current)) :=
          .token second.current_mem_tokens rfl
        cases hclose
        exact hb.of_passes (hadv.trans hp2)
  case complete =>
    intro d behind ha hopen hb
    cases d with
    | number token value kind_eq value_eq =>
      rw [← Reader.current_of_ahead ha] at kind_eq
      simp [Token.isOperator, kind_eq] at hp
    | group opening inner closing opens closes =>
      simp only [Derivation.yield, List.cons_append, List.append_assoc] at ha
      obtain ⟨rfl, hahead⟩ := List.cons_eq_cons.mp (hadv.ahead.symm.trans ha)
      -- the expression is read up to the closing parenthesis, at which every chain stops
      obtain ⟨second, hin', ha2, hd2⟩ := hin.complete inner _ hahead
        (hroom ▸ Derivation.opensAtMost_group.mp hopen) (stops_of_isOperator closes (by decide))
      rw [List.nil_append] at ha2
      have hc := Reader.current_of_ahead ha2
      refine ⟨{ second.advanced with depth := second.depth - 1 }, ?_, ?_, ?_⟩
      · rw [hread, run_bind_eq_ok]
        refine ⟨_, second, hin', ?_⟩
        rw [run_close, hc, if_pos closes, hd2, hdepth, if_neg (Nat.succ_ne_zero _)]
        rfl
      · have := (Reader.passes_advanced (Token.isEnd_eq_false_of_isOperator (hc ▸ closes))).ahead
        rw [ha2, hc] at this
        exact (List.cons_eq_cons.mp this).2.symm
      · rw [hd2, hdepth]
        rfl

lemma primary_reads {calls : Nat} (hdepth : reader.depth ≤ Reader.greatestDepth)
    (hin : ∀ inside : Reader, inside.depth = reader.depth + 1 →
      reader.depth < Reader.greatestDepth →
        Reads (.chain .sum) id (rule calls .expression) inside) :
    Reads .primary id (rule (calls + 1) .primary) reader := by
  have hread := run_primary calls reader
  have hmem := reader.current_mem_tokens
  by_cases hp : reader.current.isOperator "(" = true
  · rw [if_pos hp] at hread
    by_cases hfull : Reader.greatestDepth ≤ reader.depth
    · -- no level is left
      rw [if_pos hfull] at hread
      refine .failed hread (.token hmem rfl) fun d behind ha hopen => ?_
      cases d with
      | number token value kind_eq value_eq =>
        rw [← Reader.current_of_ahead ha] at kind_eq
        simp [Token.isOperator, kind_eq] at hp
      | group opening inner closing opens closes =>
        have := (Derivation.opensAtMost_group.mp hopen).nonneg
        rw [Reader.room] at this
        omega
    · rw [if_neg hfull] at hread
      exact .group hp rfl hread (hin _ rfl (by omega))
  · rw [if_neg hp, EStateM.run_bind, run_expectNumber] at hread
    by_cases hk : reader.current.kind = .integer
    · rw [if_pos hk] at hread
      cases hv : reader.current.value with
      | number value =>
        rw [hv] at hread
        refine .number ?_ hk hv hread
        rw [Reader.room]
        omega
      | symbol text =>
        rw [hv] at hread
        refine .failed hread (.unvalued hmem hk hv) fun d behind ha _ => ?_
        cases d with
        | number token value kind_eq value_eq =>
          rw [← Reader.current_of_ahead ha, hv] at value_eq
          cases value_eq
        | group opening inner closing opens closes =>
          exact hp (Reader.current_of_ahead ha ▸ opens)
    · rw [if_neg hk] at hread
      refine .failed hread (.token hmem rfl) fun d behind ha _ => ?_
      cases d with
      | number token value kind_eq value_eq => exact hk (Reader.current_of_ahead ha ▸ kind_eq)
      | group opening inner closing opens closes => exact hp (Reader.current_of_ahead ha ▸ opens)

/-- One level of parentheses takes five nested calls. -/
lemma expression_reads_of {depth calls : Nat} (hdepth : depth ≤ Reader.greatestDepth)
    (hin : ∀ inside : Reader, inside.depth = depth + 1 → depth < Reader.greatestDepth →
      Reads (.chain .sum) id (rule calls .expression) inside)
    (hd : reader.depth = depth) :
    Reads (.chain .sum) id (rule (calls + 5) .expression) reader := by
  have hprimary : ∀ other : Reader, other.depth = depth →
      Reads (.operand .product) id (rule (calls + 1) .primary) other := by
    rintro other rfl
    exact (primary_reads hdepth hin).primary
  have hproduct : ∀ other : Reader, other.depth = depth →
      Reads (.operand .sum) id (rule (calls + 3) .product) other := by
    rintro other rfl
    exact Reads.product ((chain_reads hdepth hprimary).of_run_eq rfl)
  subst hd
  exact (chain_reads hdepth hproduct).of_run_eq rfl

lemma expression_reads {levels calls : Nat}
    (hlevels : reader.depth + levels = Reader.greatestDepth)
    (hcalls : 5 * (levels + 1) ≤ calls) :
    Reads (.chain .sum) id (rule calls .expression) reader := by
  -- on the parentheses that may still be opened; the calls only have to last as long
  induction levels generalizing calls reader with
  | zero =>
    obtain ⟨fewer, rfl⟩ := Nat.exists_eq_add_of_le' hcalls
    exact expression_reads_of (by omega) (fun inside hi hlt => by omega) rfl
  | succ levels ih =>
    obtain ⟨fewer, rfl⟩ : ∃ fewer, calls = fewer + 5 := ⟨calls - 5, by omega⟩
    exact expression_reads_of (by omega) (fun inside hi hlt => ih (by omega) (by omega)) rfl

lemma run_whole (calls : Nat) (reader : Reader) :
    (whole calls).run reader =
      (rule calls .expression >>= fun expr => do
        if ← atEnd then return expr
        else throw (.error (.unexpectedTrailingToken (← peek)))).run reader := rfl

lemma whole_reads {reader : Reader} (hd : reader.depth = 0) :
    (∀ expr later, (whole Expr.callsGranted).run reader = .ok expr later →
      ∃ d : Derivation (.chain .sum), d.yield = reader.ahead ∧
        OpensAtMost Reader.greatestDepth d.yield ∧ d.tree = expr) ∧
    (∀ failure later, (whole Expr.callsGranted).run reader = .error failure later →
      Blames reader failure) ∧
    ∀ d : Derivation (.chain .sum), d.yield = reader.ahead →
      OpensAtMost Reader.greatestDepth d.yield →
        ∃ later, (whole Expr.callsGranted).run reader = .ok d.tree later := by
  have hroom : reader.room = Reader.greatestDepth := by simp [Reader.room, hd]
  have hreads : Reads (.chain .sum) id (rule Expr.callsGranted .expression) reader :=
    expression_reads (by rw [hd, Nat.zero_add]) (Nat.le_refl _)
  rw [run_whole]
  refine ⟨fun expr later h => ?_, fun failure later h => ?_, fun d ha hopen => ?_⟩
  · obtain ⟨tree, behind, hrule, hend⟩ := run_bind_eq_ok.mp h
    obtain ⟨d, rfl, hp, -, hopen, -⟩ := hreads.sound tree behind hrule
    simp only [EStateM.run_bind, run_atEnd] at hend
    by_cases he : behind.current.isEnd = true
    · rw [if_pos he] at hend
      cases hend
      refine ⟨d, ?_, hroom ▸ hopen, rfl⟩
      rw [hp.ahead, Reader.current_isEnd_iff.mp he, List.append_nil]
    · rw [if_neg he] at hend
      cases hend
  · rcases run_bind_eq_error.mp h with h | ⟨tree, behind, hrule, hend⟩
    · exact hreads.fails failure later h
    · obtain ⟨d, -, hp, -, -, -⟩ := hreads.sound tree behind hrule
      simp only [EStateM.run_bind, run_atEnd] at hend
      by_cases he : behind.current.isEnd = true
      · rw [if_pos he] at hend
        cases hend
      · rw [if_neg he] at hend
        have hb : Blames behind (.error (.unexpectedTrailingToken behind.current)) :=
          .token behind.current_mem_tokens rfl
        cases hend
        exact hb.of_passes hp
  · obtain ⟨behind, hrule, hb, -⟩ :=
      hreads.complete d [] (by rw [ha, List.append_nil]) (hroom.symm ▸ hopen) (stops_nil _)
    refine ⟨behind, run_bind_eq_ok.mpr ⟨_, behind, hrule, ?_⟩⟩
    simp only [EStateM.run_bind, run_atEnd, if_pos (Reader.current_isEnd_iff.mpr hb)]
    rfl

end Read

/-! ### The parser -/

namespace Reader

/-- A token list with an end at its end has a reader, which holds what comes before the first. -/
lemma ofTokens_eq_ok {tokens : List Token} (h : ∃ last ∈ tokens.getLast?, last.isEnd = true) :
    ∃ reader, ofTokens tokens = .ok reader ∧ reader.depth = 0 ∧
      reader.ahead = tokens.takeWhile (fun token => !token.isEnd) ∧
      ∀ token ∈ reader.tokens, token ∈ tokens := by
  obtain ⟨last, hlast, hend⟩ := h
  have hany : tokens.getLast?.any Token.isEnd = true := by
    rw [Option.mem_def.mp hlast]
    exact hend
  unfold ofTokens
  split
  next hf =>
    have := List.find?_eq_none.mp hf last (List.mem_of_getLast? hlast)
    exact absurd hend this
  next first hf =>
    rw [if_pos hany]
    refine ⟨_, rfl, rfl, rfl, fun token ht => ?_⟩
    rcases List.mem_append.mp ht with ht | ht
    · exact (List.takeWhile_prefix _).subset ht
    · obtain rfl := List.mem_singleton.mp ht
      exact List.mem_of_find?_eq_some hf

end Reader

namespace Expr

variable {tokens : List Token}

lemma parse_eq_ok_iff (h : ∃ last ∈ tokens.getLast?, last.isEnd = true) {expr : Expr} :
    parse tokens = .ok expr ↔
      ∃ d : Derivation (.chain .sum), d.yield = tokens.takeWhile (fun token => !token.isEnd) ∧
        OpensAtMost Reader.greatestDepth d.yield ∧ d.tree = expr := by
  obtain ⟨reader, hreader, hd, ha, -⟩ := Reader.ofTokens_eq_ok h
  obtain ⟨hsound, -, hcomplete⟩ := Read.whole_reads hd
  rw [parse, hreader, ← ha]
  constructor
  · intro hp
    simp only at hp
    split at hp
    next later hrun =>
      cases hp
      exact hsound _ _ hrun
    next => cases hp
  · rintro ⟨d, hyield, hopen, rfl⟩
    obtain ⟨later, hrun⟩ := hcomplete d hyield hopen
    simp only [show Read.whole callsGranted reader = _ from hrun]

lemma parse_eq_error (h : ∃ last ∈ tokens.getLast?, last.isEnd = true) {failure : Failure}
    (hp : parse tokens = .error failure) :
    (∃ error token, failure = .error error ∧ error.token? = some token ∧ token ∈ tokens) ∨
      ∃ token ∈ tokens, token.kind = .integer ∧ ∃ text, token.value = .symbol text := by
  obtain ⟨reader, hreader, hd, -, hmem⟩ := Reader.ofTokens_eq_ok h
  rw [parse, hreader] at hp
  simp only at hp
  split at hp
  next => cases hp
  next later hrun =>
    cases hp
    cases (Read.whole_reads hd).2.1 _ _ hrun with
    | token mem about => exact .inl ⟨_, _, rfl, about, hmem _ mem⟩
    | unvalued mem kind_eq value_eq => exact .inr ⟨_, hmem _ mem, kind_eq, _, value_eq⟩

/-- **The parser reads the grammar.** On tokens that end with an end token and whose integers carry
numbers, it answers a tree just if the tokens before the first end have a derivation, with no more
than a hundred parentheses open at once, that the tree is the tree of; there is no second
derivation; and where it answers no tree there is an error of syntax about one of the tokens. -/
theorem parse_iff_derivation (hend : ∃ last ∈ tokens.getLast?, last.isEnd = true)
    (hvalues : ∀ token ∈ tokens, token.kind = .integer → ∃ n, token.value = .number n) :
    (∀ expr, parse tokens = .ok expr ↔
      OpensAtMost 100 (tokens.takeWhile fun token => !token.isEnd) ∧
        ∃ d : Derivation (.chain .sum),
          d.yield = tokens.takeWhile (fun token => !token.isEnd) ∧ d.tree = expr) ∧
    (∀ d d' : Derivation (.chain .sum), d.yield = tokens.takeWhile (fun token => !token.isEnd) →
      d'.yield = tokens.takeWhile (fun token => !token.isEnd) → d = d') ∧
    ((∃ expr, parse tokens = .ok expr) ∨
      ∃ error token, parse tokens = .error (.error error) ∧ error.token? = some token ∧
        token ∈ tokens) := by
  refine ⟨fun expr => ?_, fun d d' h h' => Derivation.yield_injective (h.trans h'.symm), ?_⟩
  · rw [parse_eq_ok_iff hend]
    constructor
    · rintro ⟨d, hyield, hopen, htree⟩
      exact ⟨hyield ▸ hopen, d, hyield, htree⟩
    · rintro ⟨hopen, d, hyield, htree⟩
      exact ⟨d, hyield, hyield ▸ hopen, htree⟩
  · cases hp : parse tokens with
    | ok expr => exact .inl ⟨expr, rfl⟩
    | error failure =>
      rcases parse_eq_error hend hp with ⟨error, token, rfl, h⟩ | ⟨token, hm, hk, text, hv⟩
      · exact .inr ⟨error, token, rfl, h⟩
      · obtain ⟨n, hn⟩ := hvalues token hm hk
        simp [hv] at hn

theorem parse_iff_derivation_difference :
    ∃ d : Derivation (.chain .sum),
      d.yield = [⟨.integer, "8", .number 8, 0⟩, ⟨.operator, "-", .symbol "-", 1⟩,
        ⟨.operator, "(", .symbol "(", 2⟩, ⟨.integer, "3", .number 3, 3⟩,
        ⟨.operator, "-", .symbol "-", 4⟩, ⟨.integer, "1", .number 1, 5⟩,
        ⟨.operator, ")", .symbol ")", 6⟩] ∧
      d.tree = .binary .subtract (.literal 8) (.binary .subtract (.literal 3) (.literal 1)) :=
  ((@parse_iff_derivation
    [⟨.integer, "8", .number 8, 0⟩, ⟨.operator, "-", .symbol "-", 1⟩,
      ⟨.operator, "(", .symbol "(", 2⟩, ⟨.integer, "3", .number 3, 3⟩,
      ⟨.operator, "-", .symbol "-", 4⟩, ⟨.integer, "1", .number 1, 5⟩,
      ⟨.operator, ")", .symbol ")", 6⟩, ⟨.endOfInput, [], .number 0, 7⟩]
    ⟨_, rfl, rfl⟩ (by simp)).1 _).mp rfl |>.2

end Expr

end ArithAsm
