import ArithAsm.Proofs.Automaton
import ArithAsm.Proofs.Scanning
import Mathlib.Data.List.Infix

/-!
Parentheses within parentheses. The automaton passes over a derivation unless that opens more
parentheses than may be open at once; then it stops at the first that is one too many. So of tokens
that have a derivation the parser answers the tree, or refuses that parenthesis. How many
parentheses are open can as well be counted in the text.
-/

namespace ArithAsm

open Grammar

/-! ### Derivations that are too deep -/

/-- Where the automaton meets a phrase with this many parentheses open. -/
def Grammar.Phrase.start : Phrase → Nat → Expectation
  | .rest _, depth => .operator depth
  | .primary, depth | .operand _, depth | .chain _, depth => .operand depth

/-- The automaton passes over the tokens if these open no more than `room` parentheses, and stops
at the first that there is no room for if they do. -/
inductive Expectation.Takes (room : Int) (tokens : List Token) (state next : Expectation) :
    Prop where
  | passes (opens : OpensAtMost room tokens) (run : state.run tokens = .ok next)
  | stops {front behind : List Token} {opening : Token}
      (split : tokens = front ++ opening :: behind) (opener : opening.isOperator "(" = true)
      (opens : OpensAtMost room front) (full : openCount front = room)
      (run : state.run tokens =
        .error (.error (.expressionNestedTooDeeply opening Reader.greatestDepth)))

namespace Expectation

variable {room : Int} {front back : List Token} {state middle next : Expectation}

/-- What stands behind has the room that what stands in front leaves. -/
lemma Takes.append (hfront : Takes room front state middle)
    (hback : Takes (room - openCount front) back middle next) :
    Takes room (front ++ back) state next := by
  cases hfront with
  | stops split opener opens full run =>
    exact .stops (by rw [split, List.append_assoc, List.cons_append]) opener opens full
      (run_append_of_error run)
  | passes opens run =>
    cases hback with
    | passes opens' run' =>
      exact .passes (opensAtMost_append.mpr ⟨opens, opens'⟩) ((run_append_of_ok run).trans run')
    | stops split opener opens' full run' =>
      refine .stops (by rw [split, List.append_assoc]) opener
        (opensAtMost_append.mpr ⟨opens, opens'⟩) ?_ ((run_append_of_ok run).trans run')
      rw [openCount_append, full]
      omega

lemma Takes.cons {token : Token} {tokens : List Token} (hopens : 0 ≤ room)
    (hstep : state.step token = .ok middle)
    (h : Takes (room - openCount [token]) tokens middle next) :
    Takes room (token :: tokens) state next := by
  cases h with
  | passes opens run =>
    exact .passes (opensAtMost_cons.mpr ⟨hopens, opens⟩) ((run_cons_of_ok hstep).trans run)
  | stops split opener opens full run =>
    refine .stops (by rw [split, List.cons_append]) opener (opensAtMost_cons.mpr ⟨hopens, opens⟩)
      ?_ ((run_cons_of_ok hstep).trans run)
    rw [openCount_cons, full]
    omega

end Expectation

namespace Grammar.Derivation

variable {phrase : Phrase}

/-- **A derivation is passed over**, unless it opens a parenthesis too many. -/
theorem takes (d : Derivation phrase) {depth : Nat} (hdepth : depth ≤ Reader.greatestDepth) :
    Expectation.Takes (Reader.greatestDepth - depth) d.yield (phrase.start depth)
      (.operator depth) := by
  have hroom : 0 ≤ (Reader.greatestDepth - depth : Int) := by omega
  induction d generalizing depth with
  | number token value hk hv =>
    have hp : ¬ token.isOperator "(" = true := by simp [Token.isOperator, hk]
    refine .passes (opensAtMost_number.mpr hroom) (Expectation.run_cons_of_ok ?_)
    simp only [Phrase.start, Expectation.step, if_neg hp, if_pos hk, hv]
  | group opening inner closing ho hc ih =>
    by_cases hfull : Reader.greatestDepth ≤ depth
    · have hstep : (Expectation.operand depth).step opening =
          .error (.error (.expressionNestedTooDeeply opening Reader.greatestDepth)) := by
        simp only [Expectation.step, if_pos ho, if_pos hfull]
      exact .stops rfl ho (opensAtMost_nil.mpr hroom) (by rw [openCount_nil]; omega)
        (Expectation.run_cons_of_error hstep)
    · have hopening : (Expectation.operand depth).step opening = .ok (.operand (depth + 1)) := by
        simp only [Expectation.step, if_pos ho, if_neg hfull]
      have hclosing : (Expectation.operator (depth + 1)).step closing = .ok (.operator depth) := by
        have hj : ¬ closing.joins = true := fun hj => by
          obtain ⟨operation, hs⟩ := Token.joins_iff.mp hj
          rw [Token.isOperator_eq_decide hc, decide_eq_true_eq] at hs
          cases operation <;> cases hs
        simp only [Expectation.step, if_neg hj, if_pos hc]
      have h1 : openCount [opening] = 1 := openCount_of_isOperator ho
      have h2 : openCount [closing] = -1 := openCount_of_isOperator hc
      have hinner := ih (show depth + 1 ≤ Reader.greatestDepth by omega) (by omega)
      rw [show (Reader.greatestDepth - (depth + 1 : Nat) : Int) =
        Reader.greatestDepth - depth - openCount [opening] by omega] at hinner
      refine .cons hroom hopening (hinner.append (.cons ?_ hclosing (.passes ?_ rfl)))
      · rw [openCount_yield]
        omega
      · rw [openCount_yield, opensAtMost_nil]
        omega
  | product inner ih => exact ih hdepth hroom
  | primary inner ih => exact ih hdepth hroom
  | chain first rest ihf ihr =>
    refine (ihf hdepth hroom).append ?_
    rw [openCount_yield, Int.sub_zero]
    exact ihr hdepth hroom
  | done => exact .passes (opensAtMost_nil.mpr hroom) rfl
  | join operation sign operand rest mem hs iho ihr =>
    have hsign : openCount [sign] = 0 := by
      rw [openCount_of_isOperator hs]
      cases operation <;> decide
    have hjoins := Token.joins_iff.mpr ⟨operation, hs⟩
    refine .cons hroom (Expectation.step_operator_of_joins hjoins) ?_
    rw [hsign, Int.sub_zero]
    refine (iho hdepth hroom).append ?_
    rw [openCount_yield, Int.sub_zero]
    exact ihr hdepth hroom

lemma isEnd_of_mem_yield (d : Derivation phrase) {token : Token} (ht : token ∈ d.yield) :
    token.isEnd = false := by
  induction d with
  | number token' value hk hv =>
    obtain rfl := List.mem_singleton.mp ht
    exact Token.isEnd_eq_false_of_integer hk
  | group opening inner closing ho hc ih =>
    rcases List.mem_cons.mp ht with rfl | ht
    · exact Token.isEnd_eq_false_of_isOperator ho
    · rcases List.mem_append.mp ht with ht | ht
      · exact ih ht
      · obtain rfl := List.mem_singleton.mp ht
        exact Token.isEnd_eq_false_of_isOperator hc
  | product inner ih => exact ih ht
  | primary inner ih => exact ih ht
  | chain first rest ihf ihr => exact (List.mem_append.mp ht).elim ihf ihr
  | done => cases ht
  | join operation sign operand rest mem hs iho ihr =>
    rcases List.mem_cons.mp ht with rfl | ht
    · exact Token.isEnd_eq_false_of_isOperator hs
    · exact (List.mem_append.mp ht).elim iho ihr

end Grammar.Derivation

lemma Expr.parse_of_opensAtMost (d : Derivation (.chain .sum)) {last : Token}
    (hl : last.isEnd = true) (h : OpensAtMost Reader.greatestDepth d.yield) :
    parse (d.yield ++ [last]) = .ok d.tree := by
  refine (parse_eq_ok_iff ⟨last, List.getLast?_concat, hl⟩).mpr ⟨d, ?_, h, rfl⟩
  rw [List.takeWhile_append_of_pos fun token ht => by simp [d.isEnd_of_mem_yield ht]]
  simp [hl]

/-- **What has a derivation is read or too deep.** Its tree is the answer if no more than a hundred
parentheses are ever open at once; otherwise the parser refuses the one that follows when a hundred
are open for the first time. -/
theorem Expr.parse_yield (d : Derivation (.chain .sum)) {last : Token} (hl : last.isEnd = true) :
    OpensAtMost Reader.greatestDepth d.yield ∧ parse (d.yield ++ [last]) = .ok d.tree ∨
      ∃ front opening behind, d.yield = front ++ opening :: behind ∧
        opening.isOperator "(" = true ∧ OpensAtMost Reader.greatestDepth front ∧
        openCount front = Reader.greatestDepth ∧
        parse (d.yield ++ [last]) =
          .error (.error (.expressionNestedTooDeeply opening Reader.greatestDepth)) := by
  have hend : ∃ last' ∈ (d.yield ++ [last]).getLast?, last'.isEnd = true :=
    ⟨last, List.getLast?_concat, hl⟩
  cases d.takes (Nat.zero_le Reader.greatestDepth) with
  | passes opens run =>
    rw [Int.natCast_zero, Int.sub_zero] at opens
    exact .inl ⟨opens, parse_of_opensAtMost d hl opens⟩
  | stops split opener opens full run =>
    rw [Int.natCast_zero, Int.sub_zero] at opens full
    refine .inr ⟨_, _, _, split, opener, opens, full, ?_⟩
    have hrun := @Expectation.run_append_of_error _ _ [last] _ run
    cases hp : parse (d.yield ++ [last]) with
    | ok expr => cases (run_of_parse_eq_ok hp).2.symm.trans hrun
    | error failure => cases (run_of_parse_eq_error hend hp).symm.trans hrun; rfl

/-! ### Parentheses in a text -/

namespace Grammar

/-- Both lists open the same parentheses, whatever else they hold. -/
structure NestAlike (tokens others : List Token) : Prop where
  openCount_eq : openCount tokens = openCount others
  opensAtMost_iff : ∀ limit, OpensAtMost limit tokens ↔ OpensAtMost limit others

lemma NestAlike.symm {tokens others : List Token} (h : NestAlike tokens others) :
    NestAlike others tokens :=
  ⟨h.openCount_eq.symm, fun limit => (h.opensAtMost_iff limit).symm⟩

lemma NestAlike.append {front back front' back' : List Token} (hfront : NestAlike front front')
    (hback : NestAlike back back') : NestAlike (front ++ back) (front' ++ back') where
  openCount_eq := by
    rw [openCount_append, openCount_append, hfront.openCount_eq, hback.openCount_eq]
  opensAtMost_iff limit := by
    rw [opensAtMost_append, opensAtMost_append, hfront.opensAtMost_iff, hback.opensAtMost_iff,
      hfront.openCount_eq]

lemma NestAlike.singleton {token other : Token} (h : openCount [token] = openCount [other]) :
    NestAlike [token] [other] where
  openCount_eq := h
  opensAtMost_iff limit := by rw [opensAtMost_cons, opensAtMost_cons, h]

lemma NestAlike.nil {token : Token} (h : openCount [token] = 0) : NestAlike [token] [] where
  openCount_eq := h
  opensAtMost_iff limit := by
    rw [opensAtMost_cons, h, Int.sub_zero, opensAtMost_nil, and_self_iff]

end Grammar

namespace Text

def openCount (text : Text) : Int := text.count '(' - text.count ')'

lemma openCount_append (front back : Text) :
    openCount (front ++ back) = openCount front + openCount back := by
  simp only [openCount, List.count_append]
  omega

/-- No more than `limit` parentheses are ever open at once. -/
def OpensAtMost (limit : Int) (text : Text) : Prop :=
  ∀ front, front <+: text → openCount front ≤ limit

instance (limit : Int) (text : Text) : Decidable (OpensAtMost limit text) :=
  decidable_of_iff (∀ front ∈ text.inits, openCount front ≤ limit) (by
    simp only [List.mem_inits, OpensAtMost])

def operators (text : Text) : List Token := text.map (Token.operator 0)

lemma openCount_operators (text : Text) : Grammar.openCount text.operators = openCount text := by
  have hparenthesis (symbol c : Char) :
      (Token.operator 0 c).isOperator [symbol] = (c == symbol) := by
    simp [Token.isOperator, Token.operator, beq_eq_decide]
  have hcount (symbol : Char) :
      text.operators.countP (·.isOperator [symbol]) = text.count symbol := by
    rw [operators, List.countP_map]
    exact congrArg (List.countP · text) (funext fun c => hparenthesis symbol c)
  rw [Grammar.openCount, openCount, ← hcount, ← hcount]
  rfl

lemma opensAtMost_operators {limit : Int} {text : Text} :
    Grammar.OpensAtMost limit text.operators ↔ OpensAtMost limit text := by
  constructor
  · intro h front hf
    rw [← openCount_operators]
    exact h _ (hf.map _)
  · intro h front hf
    obtain ⟨front, hfront, rfl⟩ := List.prefix_map_iff.mp hf
    rw [← operators, openCount_operators]
    exact h front hfront

lemma nestAlike_nil {text : Text} (h : ∀ c ∈ text, c ≠ '(' ∧ c ≠ ')') :
    NestAlike text.operators [] := by
  induction text with
  | nil => exact ⟨rfl, fun _ => Iff.rfl⟩
  | cons c text ih =>
    obtain ⟨⟨hopen, hclose⟩, htext⟩ := List.forall_mem_cons.mp h
    refine (NestAlike.nil ?_).append (ih htext)
    rw [← List.map_singleton, ← operators, openCount_operators]
    simp [openCount, hopen, hclose]

end Text

namespace Token

variable {column : Nat} {text : Text} {tokens : List Token}

/-- The lexemes hold all parentheses of their text. -/
lemma Scans.nestAlike (h : Scans column text tokens) : NestAlike text.operators tokens := by
  induction h with
  | finish column => exact (NestAlike.nil rfl).symm
  | @blank column c rest tokens hc h ih =>
    have hplain : ∀ d ∈ [c], d ≠ '(' ∧ d ≠ ')' := by
      simp only [List.mem_singleton, forall_eq]
      constructor <;> rintro rfl <;> cases hc
    exact (Text.nestAlike_nil hplain).append ih
  | @operator column c rest tokens hc h ih =>
    exact (@NestAlike.singleton (.operator 0 c) (.operator column c) rfl).append ih
  | @literal column digits rest tokens hne hdigits hmax hle h ih =>
    have hplain : ∀ d ∈ digits, d ≠ '(' ∧ d ≠ ')' := by
      intro d hd
      have := hdigits d hd
      constructor <;> rintro rfl <;> cases this
    have hliteral : NestAlike digits.operators
        [⟨.integer, digits, .number (Text.value digits), column⟩] :=
      ⟨(Text.nestAlike_nil hplain).openCount_eq, fun limit => by
        rw [(Text.nestAlike_nil hplain).opensAtMost_iff, (NestAlike.nil rfl).opensAtMost_iff]⟩
    rw [Text.operators, List.map_append]
    exact hliteral.append ih

section Lexemes

variable {lexemes : List Token} {stop : Int}

lemma Scans.openCount_eq (h : Scans column text (lexemes ++ [endAt stop])) :
    Text.openCount text = openCount lexemes := by
  rw [← Text.openCount_operators, h.nestAlike.openCount_eq, openCount_append,
    show openCount [endAt stop] = 0 from rfl, Int.add_zero]

lemma Scans.opensAtMost_iff {limit : Int} (h : Scans column text (lexemes ++ [endAt stop])) :
    Text.OpensAtMost limit text ↔ OpensAtMost limit lexemes := by
  have hend : NestAlike (lexemes ++ [endAt stop]) (lexemes ++ []) :=
    NestAlike.append ⟨rfl, fun _ => Iff.rfl⟩ (.nil rfl)
  rw [← Text.opensAtMost_operators, h.nestAlike.opensAtMost_iff, hend.opensAtMost_iff,
    List.append_nil]

end Lexemes

/-- The text before an opening parenthesis, and the tokens of that text. -/
lemma Scans.exists_before {front behind : List Token} {opening : Token}
    (h : Scans column text (front ++ opening :: behind)) (ho : opening.isOperator "(" = true) :
    ∃ before after, text = before ++ '(' :: after ∧
      opening = Token.operator (column + before.length : Nat) '(' ∧
        Scans column before (front ++ [endAt (column + before.length : Nat)]) := by
  generalize htokens : front ++ opening :: behind = tokens at h
  induction h generalizing front with
  | finish column =>
    obtain ⟨rfl, hl⟩ | ⟨rest, rfl, hl⟩ := List.append_eq_cons_iff.mp htokens
    · obtain ⟨rfl, -⟩ := List.cons_eq_cons.mp hl
      cases ho
    · simp at hl
  | @blank column c rest tokens hc h ih =>
    obtain ⟨before, after, rfl, hop, hs⟩ := ih htokens
    have hlen : column + (c :: before).length = column + 1 + before.length := by
      rw [List.length_cons]
      omega
    exact ⟨c :: before, after, rfl, hlen ▸ hop, .blank hc (hlen ▸ hs)⟩
  | @operator column c rest tokens hc h ih =>
    obtain ⟨rfl, hl⟩ | ⟨front, rfl, hl⟩ := List.append_eq_cons_iff.mp htokens
    · obtain ⟨rfl, -⟩ := List.cons_eq_cons.mp hl
      obtain rfl : c = '(' := by simpa [isOperator, Token.operator] using ho
      exact ⟨[], rest, rfl, rfl, .finish column⟩
    · obtain ⟨before, after, rfl, hop, hs⟩ := ih hl.symm
      have hlen : column + (c :: before).length = column + 1 + before.length := by
        rw [List.length_cons]
        omega
      exact ⟨c :: before, after, rfl, hlen ▸ hop, .operator hc (hlen ▸ hs)⟩
  | @literal column digits rest tokens hne hdigits hmax hle h ih =>
    obtain ⟨rfl, hl⟩ | ⟨front, rfl, hl⟩ := List.append_eq_cons_iff.mp htokens
    · obtain ⟨rfl, -⟩ := List.cons_eq_cons.mp hl
      cases ho
    · obtain ⟨before, after, rfl, hop, hs⟩ := ih hl.symm
      have hlen : column + (digits ++ before).length = column + digits.length + before.length := by
        rw [List.length_append, Nat.add_assoc]
      refine ⟨digits ++ before, after, by rw [List.append_assoc], hlen ▸ hop,
        .literal hne hdigits (fun c hc => ?_) hle (hlen ▸ hs)⟩
      exact hmax c (by rw [List.head?_append, Option.mem_def.mp hc]; rfl)

end Token

end ArithAsm
