import ArithAsm.Proofs.Prefixes

/-!
Blanks put into a text. The scan of a text in two parts is the scan of the first part and then, from
where that ends, of the second, unless the parts share a run of digits. So blanks between the parts
only move what stands behind them: the tokens and the errors are the same but for their columns, and
what does not look at columns, the parser and the code, does not see them.
-/

namespace ArithAsm

open Grammar

namespace Text

/-- No run of digits reaches from the one part of a text into the other. -/
def IsBoundary (front back : Text) : Prop :=
  ∀ c ∈ front.getLast?, isDigit c = true → ∀ d ∈ back.head?, isDigit d = false

variable {front back : Text} {c : Char}

lemma IsBoundary.of_append_left {before : Text} (h : IsBoundary (before ++ front) back) :
    IsBoundary front back :=
  fun c hc => h c (by rw [List.getLast?_append, Option.mem_def.mp hc]; rfl)

lemma IsBoundary.takeWhile_append (h : IsBoundary (c :: front) back) (hc : isDigit c = true) :
    (front ++ back).takeWhile isDigit = front.takeWhile isDigit ∧
      (front ++ back).dropWhile isDigit = front.dropWhile isDigit ++ back := by
  induction front generalizing c with
  | nil =>
    have hback := h c rfl hc
    exact ⟨takeWhile_eq_nil hback, dropWhile_eq_self hback⟩
  | cons d front ih =>
    by_cases hd : isDigit d = true
    · obtain ⟨htake, hdrop⟩ := ih (@of_append_left _ _ [c] h) hd
      rw [List.cons_append, List.takeWhile_cons_of_pos hd, List.dropWhile_cons_of_pos hd,
        List.takeWhile_cons_of_pos hd, List.dropWhile_cons_of_pos hd, htake, hdrop]
      exact ⟨rfl, rfl⟩
    · rw [List.cons_append, List.takeWhile_cons_of_neg hd, List.dropWhile_cons_of_neg hd,
        List.takeWhile_cons_of_neg hd, List.dropWhile_cons_of_neg hd]
      exact ⟨rfl, rfl⟩

lemma IsBoundary.append_blanks {blanks : Text} (h : IsBoundary front back)
    (hb : ∀ c ∈ blanks, isBlank c = true) : IsBoundary front (blanks ++ back) := by
  rcases blanks with _ | ⟨b, blanks⟩
  · exact h
  · intro c _ _ d hd
    obtain rfl : b = d := by simpa using hd
    exact not_isDigit_of_isBlank (hb b List.mem_cons_self)

end Text

namespace Token

/-! ### Scans in parts -/

variable {found : Array Token} {column : Nat} {front back blanks text : Text}

/-- The second part of a text is scanned behind the tokens of the first, from where that ends. -/
lemma tokenizeFrom_append (h : Text.IsBoundary front back) :
    tokenizeFrom found column (front ++ back) =
      match tokenizeFrom found column front with
      | .ok tokens => tokenizeFrom tokens.dropLast.toArray (column + front.length) back
      | .error error => .error error := by
  fun_induction tokenizeFrom found column front with
  | case1 found column => simp
  | case2 found column c front hc ih =>
    rw [List.cons_append, tokenizeFrom, if_pos hc, ih (@Text.IsBoundary.of_append_left _ _ [c] h),
      List.length_cons, Nat.add_assoc, Nat.add_comm 1]
  | case3 found column c front hc ho ih =>
    rw [List.cons_append, tokenizeFrom, if_neg hc, if_pos ho,
      ih (@Text.IsBoundary.of_append_left _ _ [c] h), List.length_cons, Nat.add_assoc,
      Nat.add_comm 1]
  | case4 found column c front hc ho hd digits error hl =>
    obtain ⟨htake, -⟩ := h.takeWhile_append hd
    rw [List.cons_append, tokenizeFrom, if_neg hc, if_neg ho, if_pos hd]
    simp only [htake, show literal column (c :: front.takeWhile Text.isDigit) = _ from hl]
  | case5 found column c front hc ho hd digits token hl ih =>
    obtain ⟨htake, hdrop⟩ := h.takeWhile_append hd
    have hsplit : c :: front = digits ++ front.dropWhile Text.isDigit :=
      Text.cons_eq_append_dropWhile c front
    have hback : Text.IsBoundary (front.dropWhile Text.isDigit) back :=
      Text.IsBoundary.of_append_left (hsplit ▸ h)
    have hlen : column + (c :: front).length =
        column + digits.length + (front.dropWhile Text.isDigit).length := by
      rw [hsplit, List.length_append, Nat.add_assoc]
    rw [List.cons_append, tokenizeFrom, if_neg hc, if_neg ho, if_pos hd]
    simp only [htake, hdrop, show literal column (c :: front.takeWhile Text.isDigit) = _ from hl]
    rw [hlen]
    exact ih hback
  | case6 found column c front hc ho hd =>
    rw [List.cons_append, tokenizeFrom, if_neg hc, if_neg ho, if_neg hd]

lemma tokenizeFrom_blanks (h : ∀ c ∈ blanks, Text.isBlank c = true) :
    tokenizeFrom found column (blanks ++ back) =
      tokenizeFrom found (column + blanks.length) back := by
  induction blanks generalizing column with
  | nil => rfl
  | cons c blanks ih =>
    obtain ⟨hc, hblanks⟩ := List.forall_mem_cons.mp h
    rw [List.cons_append, tokenizeFrom, if_pos hc, ih hblanks, List.length_cons, Nat.add_assoc,
      Nat.add_comm 1]

end Token

/-! ### Moving columns -/

def Token.moved (move : Int → Int) (token : Token) : Token :=
  { token with column := move token.column }

def Error.moved (move : Int → Int) : Error → Error
  | .unrecognizedCharacter column character => .unrecognizedCharacter (move column) character
  | .integerLiteralOverflow column digits greatest =>
    .integerLiteralOverflow (move column) digits greatest
  | .expectedNumber got => .expectedNumber (got.moved move)
  | .expectedSymbol symbol got => .expectedSymbol symbol (got.moved move)
  | .unexpectedTrailingToken got => .unexpectedTrailingToken (got.moved move)
  | .expressionNestedTooDeeply opened greatest =>
    .expressionNestedTooDeeply (opened.moved move) greatest
  | .unsupportedTarget target => .unsupportedTarget target
  | .undocumented details => .undocumented details

def Failure.moved (move : Int → Int) : Failure → Failure
  | .error cause => .error (cause.moved move)
  | .defect cause => .defect cause

def Diagnostic.moved (move : Int → Int) (diagnostic : Diagnostic) : Diagnostic :=
  { diagnostic with offset := diagnostic.offset.map move }

section Moved

variable {move : Int → Int}

@[simp] lemma Error.name_moved (error : Error) : (error.moved move).name = error.name := by
  cases error <;> rfl

lemma Error.diagnostic?_moved (error : Error) :
    (error.moved move).diagnostic? = error.diagnostic?.map (Diagnostic.moved move) := by
  cases error <;> rfl

end Moved

namespace Token

variable {move : Int → Int} {found : Array Token} {column later : Nat} {text : Text}

lemma literal_moved (h : move column = later) (digits : Text) :
    literal later digits =
      ((literal column digits).map (moved move)).mapError (Error.moved move) := by
  rw [literal_eq_ite, literal_eq_ite]
  split
  · simp [Except.map, Except.mapError, Error.moved, h]
  · simp [Except.map, Except.mapError, moved, h]

/-- The columns from `column` on, over this length, are moved to those from `later` on. -/
def Carries (move : Int → Int) (column later length : Nat) : Prop :=
  ∀ i ≤ length, move ↑(column + i) = ↑(later + i)

lemma Carries.start {length : Nat} (h : Carries move column later length) : move column = later :=
  h 0 (Nat.zero_le _)

lemma Carries.behind {front back length : Nat} (h : Carries move column later length)
    (hle : front + back ≤ length) : Carries move (column + front) (later + front) back := by
  intro i hi
  rw [Nat.add_assoc, Nat.add_assoc]
  exact h (front + i) (by omega)

/-- A text that is scanned from another column has the same tokens, or the same error, moved. -/
lemma tokenizeFrom_moved (h : Carries move column later text.length) :
    tokenizeFrom (found.map (moved move)) later text =
      ((tokenizeFrom found column text).map (List.map (moved move))).mapError
        (Error.moved move) := by
  have hcons (c : Char) (rest : Text) : 1 + rest.length ≤ (c :: rest).length :=
    Nat.le_of_eq (Nat.add_comm 1 rest.length)
  fun_induction tokenizeFrom found column text generalizing later with
  | case1 found column =>
    rw [tokenizeFrom]
    simpa [Except.map, Except.mapError, moved, endAt] using h.start.symm
  | case2 found column c rest hc ih =>
    rw [tokenizeFrom, if_pos hc]
    exact ih (h.behind (hcons c rest))
  | case3 found column c rest hc ho ih =>
    have hrest := ih (h.behind (hcons c rest))
    have hmoved : moved move (operator column c) = operator later c := by
      rw [← h.start]
      rfl
    rw [Array.map_push, hmoved] at hrest
    rw [tokenizeFrom, if_neg hc, if_pos ho]
    exact hrest
  | case4 found column c rest hc ho hd digits error =>
    rename_i hl
    have hliteral := literal_moved h.start digits
    rw [hl] at hliteral
    rw [tokenizeFrom, if_neg hc, if_neg ho, if_pos hd]
    simp only [show literal later (c :: rest.takeWhile Text.isDigit) = _ from hliteral]
    rfl
  | case5 found column c rest hc ho hd digits token hl =>
    rename_i ih
    have hliteral := literal_moved h.start digits
    rw [hl] at hliteral
    have hlen : digits.length + (rest.dropWhile Text.isDigit).length ≤ (c :: rest).length := by
      rw [← List.length_append]
      exact Nat.le_of_eq (congrArg _ (Text.cons_eq_append_dropWhile c rest).symm)
    have hrest := ih (h.behind hlen)
    rw [Array.map_push] at hrest
    rw [tokenizeFrom, if_neg hc, if_neg ho, if_pos hd]
    simp only [show literal later (c :: rest.takeWhile Text.isDigit) = _ from hliteral]
    exact hrest
  | case6 found column c rest hc ho hd =>
    rw [tokenizeFrom, if_neg hc, if_neg ho, if_neg hd]
    simp [Except.map, Except.mapError, Error.moved, h.start]

/-- Where a column comes to stand when `width` characters are put in at `place`. -/
def opened (place width : Nat) (column : Int) : Int :=
  if column < place then column else column + width

lemma column_lt_of_mem_dropLast {tokens : List Token} (h : tokenize text = .ok tokens)
    {token : Token} (ht : token ∈ tokens.dropLast) : token.column < text.length := by
  have hs := tokenize_eq_ok_iff.mp h
  obtain ⟨lexemes, rfl, -⟩ := hs.eq_append_endAt
  rw [List.dropLast_concat] at ht
  obtain ⟨hne, hle⟩ := (List.pairwise_append.mp hs.pairwise).2.2 token ht _ List.mem_cons_self
  have := List.length_pos_iff.mpr hne
  simp only [endAt] at hle
  omega

/-- **Blanks do not change the tokens.** Those behind the blanks move to the right. -/
theorem tokenize_append_blanks {front blanks back : Text} (h : Text.IsBoundary front back)
    (hb : ∀ c ∈ blanks, Text.isBlank c = true) :
    tokenize (front ++ blanks ++ back) =
      ((tokenize (front ++ back)).map
        (List.map (moved (opened front.length blanks.length)))).mapError
          (Error.moved (opened front.length blanks.length)) := by
  have hspaced : tokenize (front ++ (blanks ++ back)) = _ :=
    tokenizeFrom_append (h.append_blanks hb)
  have hplain : tokenize (front ++ back) = _ := tokenizeFrom_append h
  rw [List.append_assoc, hspaced, hplain]
  cases hf : tokenizeFrom #[] 0 front with
  | error error =>
    obtain ⟨offset, -, hlt, he⟩ := tokenizeFrom_error hf
    have hfix : opened front.length blanks.length offset = offset := if_pos (by omega)
    rcases he with ⟨c, rfl⟩ | ⟨digits, rfl⟩ <;>
      simp [Except.map, Except.mapError, Error.moved, hfix]
  | ok tokens =>
    have hfound : tokens.dropLast.toArray.map (moved (opened front.length blanks.length)) =
        tokens.dropLast.toArray := by
      rw [List.map_toArray, List.map_congr_left fun token ht => ?_, List.map_id]
      have := column_lt_of_mem_dropLast hf ht
      simp [moved, opened, this]
    have hcarries : Carries (opened front.length blanks.length) (0 + front.length)
        (0 + front.length + blanks.length) back.length := by
      intro i _
      rw [opened, if_neg (by omega)]
      omega
    simp only [tokenizeFrom_blanks hb]
    rw [← tokenizeFrom_moved hcarries, hfound]

end Token

/-! ### The parser and columns -/

namespace Expectation

variable {move : Int → Int} {state : Expectation}

lemma step_moved (token : Token) :
    state.step (token.moved move) = (state.step token).mapError (Failure.moved move) := by
  have hop (symbol : Text) : (token.moved move).isOperator symbol = token.isOperator symbol := rfl
  have hjoins : (token.moved move).joins = token.joins := rfl
  have hend : (token.moved move).isEnd = token.isEnd := rfl
  cases state with
  | operand depth =>
    simp only [step, hop, show (token.moved move).kind = token.kind from rfl,
      show (token.moved move).value = token.value from rfl]
    split_ifs
    · rfl
    · rfl
    · split <;> rfl
    · rfl
  | operator depth =>
    cases depth <;>
    · simp only [step, hop, hjoins, hend]
      split_ifs <;> rfl
  | nothing => rfl

lemma run_moved (tokens : List Token) :
    state.run (tokens.map (Token.moved move)) =
      (state.run tokens).mapError (Failure.moved move) := by
  induction tokens generalizing state with
  | nil => rfl
  | cons token tokens ih =>
    have hstep := @step_moved move state token
    rw [List.map_cons]
    cases hs : state.step token with
    | error failure =>
      rw [hs] at hstep
      rw [run_cons_of_error hstep, run_cons_of_error hs]
      rfl
    | ok next =>
      rw [hs] at hstep
      rw [run_cons_of_ok hstep, run_cons_of_ok hs, ih]

end Expectation

namespace Grammar

/-- Tokens of the same kinds and values have the same derivation, of the same tree. -/
lemma Derivation.exists_of_sense {phrase : Phrase} (d : Derivation phrase) {tokens : List Token}
    (h : tokens.map Token.sense = d.yield.map Token.sense) :
    ∃ d' : Derivation phrase, d'.yield = tokens ∧ d'.tree = d.tree := by
  have hop {token other : Token} {symbol : Text} (h : token.sense = other.sense)
      (ho : other.isOperator symbol = true) : token.isOperator symbol = true := by
    obtain ⟨hk, hv⟩ := Prod.mk.inj h
    simpa only [Token.isOperator, hk, hv] using ho
  induction d generalizing tokens with
  | number token value hk hv =>
    obtain ⟨other, rest, rfl, hs, hrest⟩ := List.map_eq_cons_iff.mp h
    obtain rfl := List.map_eq_nil_iff.mp hrest
    obtain ⟨hok, hov⟩ := Prod.mk.inj hs
    exact ⟨.number other value (hok.trans hk) (hov.trans hv), rfl, rfl⟩
  | group opening inner closing ho hc ih =>
    rw [yield, List.map_cons, List.map_append] at h
    obtain ⟨first, behind, rfl, hfirst, hbehind⟩ := List.map_eq_cons_iff.mp h
    obtain ⟨middle, last, rfl, hmiddle, hlast⟩ := List.map_eq_append_iff.mp hbehind
    obtain ⟨closing', rest, rfl, hclosing, hrest⟩ := List.map_eq_cons_iff.mp hlast
    obtain rfl := List.map_eq_nil_iff.mp hrest
    obtain ⟨inner', rfl, htree⟩ := ih hmiddle
    exact ⟨.group first inner' closing' (hop hfirst ho) (hop hclosing hc), rfl, htree⟩
  | product inner ih =>
    obtain ⟨inner', hyield, htree⟩ := ih h
    exact ⟨.product inner', hyield, htree⟩
  | primary inner ih =>
    obtain ⟨inner', hyield, htree⟩ := ih h
    exact ⟨.primary inner', hyield, htree⟩
  | chain first rest ihf ihr =>
    rw [yield, List.map_append] at h
    obtain ⟨front, back, rfl, hfront, hback⟩ := List.map_eq_append_iff.mp h
    obtain ⟨first', rfl, hfirst⟩ := ihf hfront
    obtain ⟨rest', rfl, hrest⟩ := ihr hback
    exact ⟨.chain first' rest', rfl, by rw [tree, tree, hfirst, hrest]⟩
  | done => exact ⟨.done, (List.map_eq_nil_iff.mp h).symm, rfl⟩
  | join operation sign operand rest mem hs iho ihr =>
    rw [yield, List.map_cons, List.map_append] at h
    obtain ⟨sign', behind, rfl, hsign, hbehind⟩ := List.map_eq_cons_iff.mp h
    obtain ⟨front, back, rfl, hfront, hback⟩ := List.map_eq_append_iff.mp hbehind
    obtain ⟨operand', rfl, hoperand⟩ := iho hfront
    obtain ⟨rest', rfl, hrest⟩ := ihr hback
    exact ⟨.join operation sign' operand' rest' mem (hop hsign hs), rfl, by
      rw [tree, tree, hoperand, hrest]⟩

end Grammar

namespace Expr

variable {tokens others : List Token} {expr : Expr} {move : Int → Int}

lemma exists_last_of_sense (h : others.map Token.sense = tokens.map Token.sense)
    (hend : ∃ last ∈ tokens.getLast?, last.isEnd = true) :
    ∃ last ∈ others.getLast?, last.isEnd = true := by
  obtain ⟨last, hlast, he⟩ := hend
  have hsense := congrArg List.getLast? h
  rw [List.getLast?_map, List.getLast?_map, Option.mem_def.mp hlast] at hsense
  obtain ⟨other, hother, hs⟩ := Option.map_eq_some_iff.mp hsense
  have hk : other.kind = last.kind := congrArg Prod.fst hs
  exact ⟨other, hother, by rw [Token.isEnd, hk]; exact he⟩

/-- **Only kinds and values are read**: other tokens of the same ones are the same expression. -/
theorem parse_of_sense (h : others.map Token.sense = tokens.map Token.sense)
    (hp : parse tokens = .ok expr) : parse others = .ok expr := by
  obtain ⟨hend, hrun⟩ := run_of_parse_eq_ok hp
  have hend' := exists_last_of_sense h hend
  -- the automaton accepts both, and so the other tokens have a derivation
  have hrun' : Expectation.run (.operand 0) others = .ok .nothing := by
    have hcongr := @Expectation.run_congr (.operand 0) _ _ h
    rw [hrun] at hcongr
    cases hr : Expectation.run (.operand 0) others with
    | ok next =>
      rw [hr] at hcongr
      cases hcongr
      rfl
    | error failure =>
      rw [hr] at hcongr
      cases hcongr
  obtain ⟨expr', hp'⟩ := (parse_eq_ok_iff_run hend').mpr hrun'
  -- which is the one that the tokens have
  obtain ⟨d, hyield, -, rfl⟩ := (parse_eq_ok_iff hend).mp hp
  obtain ⟨d', hyield', -, rfl⟩ := (parse_eq_ok_iff hend').mp hp'
  have htake (tokens : List Token) : (tokens.takeWhile fun token => !token.isEnd).map Token.sense =
      (tokens.map Token.sense).takeWhile fun sense => !decide (sense.1 = .endOfInput) := by
    rw [List.takeWhile_map]
    rfl
  have hsense : d.yield.map Token.sense = d'.yield.map Token.sense := by
    rw [hyield, hyield', htake, htake, h]
  obtain ⟨d'', hyield'', htree⟩ := d'.exists_of_sense hsense
  rw [Derivation.yield_injective hyield''] at htree
  rw [hp', htree]

/-- **The parser does not look at columns**, but for naming them in its errors. -/
theorem parse_moved (hend : ∃ last ∈ tokens.getLast?, last.isEnd = true) :
    parse (tokens.map (Token.moved move)) = (parse tokens).mapError (Failure.moved move) := by
  have hsense : (tokens.map (Token.moved move)).map Token.sense = tokens.map Token.sense := by
    rw [List.map_map]
    rfl
  cases hp : parse tokens with
  | ok expr => exact parse_of_sense hsense hp
  | error failure =>
    have hrun := @Expectation.run_moved move (.operand 0) tokens
    rw [run_of_parse_eq_error hend hp] at hrun
    cases hp' : parse (tokens.map (Token.moved move)) with
    | ok expr => cases (run_of_parse_eq_ok hp').2.symm.trans hrun
    | error failure' =>
      have hrun' := run_of_parse_eq_error (exists_last_of_sense hsense hend) hp'
      cases hrun'.symm.trans hrun
      rfl

end Expr

/-! ### Compilation and columns -/

section Compile

variable {target : Option Target} {layout : Layout} {traced : Bool} {move : Int → Int}
  {source other : Text}

/-- Sources whose tokens differ in their columns alone have the same assembly, and the same failure
but for its place. -/
lemma compile_moved
    (h : Token.tokenize other =
      ((Token.tokenize source).map (List.map (Token.moved move))).mapError (Error.moved move)) :
    (compile target layout traced other).assembly =
        (compile target layout traced source).assembly ∧
      (compile target layout traced other).failure =
        (compile target layout traced source).failure.map (Failure.moved move) := by
  cases ht : Token.tokenize source with
  | error error =>
    rw [ht] at h
    rw [compile_of_tokenize_error ht, compile_of_tokenize_error h]
    exact ⟨rfl, rfl⟩
  | ok tokens =>
    rw [ht] at h
    have hparse := @Expr.parse_moved tokens move (Token.tokenize_eq_ok_iff.mp ht).exists_last
    cases hp : Expr.parse tokens with
    | error failure =>
      rw [hp] at hparse
      rw [compile_of_parse_error ht hp, compile_of_parse_error h hparse]
      exact ⟨rfl, rfl⟩
    | ok expr =>
      rw [hp] at hparse
      by_cases hsupported : ∀ given ∈ target, ¬ given.Unsupported
      · rw [compile_of_supported ht hp hsupported, compile_of_supported h hparse hsupported]
        exact ⟨rfl, rfl⟩
      · push Not at hsupported
        obtain ⟨given, rfl, hu⟩ := hsupported
        rw [compile_of_unsupported ht hp hu, compile_of_unsupported h hparse hu]
        exact ⟨rfl, rfl⟩

lemma exists_error_of_failure {failure : Failure}
    (h : (compile target layout traced source).failure = some failure) :
    ∃ error, failure = .error error := by
  rcases stage_of_failure h with ⟨error, -, he⟩ | ⟨tokens, ht, hp⟩ | ⟨given, -, he⟩
  · exact ⟨error, he⟩
  · obtain ⟨error, he, -⟩ := parse_error_pointsInto ht hp
    exact ⟨error, he⟩
  · exact ⟨_, he⟩

end Compile

/-- **Blanks do not change the program.** Put in where they part no run of digits, they leave the
assembly as it is, and an error the same but for its place: what stood behind them stands further
right by as many columns. So it is with the tokens. -/
theorem compile_append_blanks (target : Option Target) (layout : Layout) (traced : Bool)
    {front blanks back : Text} (hb : ∀ c ∈ blanks, Text.isBlank c = true)
    (hparts : ¬ ((∃ c ∈ front.getLast?, Text.isDigit c = true) ∧
      ∃ c ∈ back.head?, Text.isDigit c = true)) :
    Token.tokenize (front ++ blanks ++ back) =
        ((Token.tokenize (front ++ back)).map
          (List.map (Token.moved (Token.opened front.length blanks.length)))).mapError
            (Error.moved (Token.opened front.length blanks.length)) ∧
      (compile target layout traced (front ++ blanks ++ back)).assembly =
        (compile target layout traced (front ++ back)).assembly ∧
      ((compile target layout traced (front ++ back)).failure = none ∧
          (compile target layout traced (front ++ blanks ++ back)).failure = none ∨
        ∃ error other,
          (compile target layout traced (front ++ back)).failure = some (.error error) ∧
          (compile target layout traced (front ++ blanks ++ back)).failure = some (.error other) ∧
          other.name = error.name ∧
          other.diagnostic? = error.diagnostic?.map
            (Diagnostic.moved (Token.opened front.length blanks.length))) := by
  have hboundary : Text.IsBoundary front back := by
    intro c hc hcd d hd
    by_contra hdd
    exact hparts ⟨⟨c, hc, hcd⟩, d, hd, eq_true_of_ne_false hdd⟩
  have htokens := Token.tokenize_append_blanks hboundary hb
  obtain ⟨hassembly, hfailure⟩ := @compile_moved target layout traced _ _ _ htokens
  refine ⟨htokens, hassembly, ?_⟩
  cases hf : (compile target layout traced (front ++ back)).failure with
  | none => exact .inl ⟨rfl, by rw [hfailure, hf]; rfl⟩
  | some failure =>
    obtain ⟨error, rfl⟩ := exists_error_of_failure hf
    exact .inr ⟨error, error.moved _, rfl, by rw [hfailure, hf]; rfl, error.name_moved,
      error.diagnostic?_moved⟩

theorem compile_append_blanks_unclosed :
    (∀ c ∈ (" \t" : Text), Text.isBlank c = true) ∧
      (compile none {} false "1+(2").failure =
        some (.error (.expectedSymbol ")" (Token.endAt 4))) ∧
      ∃ other, (compile none {} false "1+ \t(2").failure = some (.error other) ∧
        other.name = "ExpectedSymbolError" ∧
        other.diagnostic? = some ⟨.syntactic, "not the expected symbol ')'", some 6⟩ := by
  have hb : ∀ c ∈ (" \t" : Text), Text.isBlank c = true :=
    List.forall_mem_cons.mpr ⟨rfl, List.forall_mem_singleton.mpr rfl⟩
  have hparts : ¬ ((∃ c ∈ ("1+" : Text).getLast?, Text.isDigit c = true) ∧
      ∃ c ∈ ("(2" : Text).head?, Text.isDigit c = true) := by
    rintro ⟨-, c, ⟨⟩, h⟩
    cases h
  have hplain : (compile none {} false "1+(2").failure =
      some (.error (.expectedSymbol ")" (Token.endAt 4))) := by decide +kernel
  obtain ⟨-, -, h | ⟨error, other, he, ho, hname, hd⟩⟩ :=
    @compile_append_blanks none {} false "1+" " \t" "(2" hb hparts
  · cases hplain.symm.trans h.1
  · cases hplain.symm.trans he
    exact ⟨hb, hplain, other, ho, hname, hd⟩

end ArithAsm
