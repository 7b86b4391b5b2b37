import ArithAsm.Token.Tokenize
import Mathlib.Algebra.Group.Nat.Defs
import Mathlib.Tactic.Common

/-!
What the tokens of a text are. `Scans` says it without a procedure: a text is made of blanks,
operators and maximal runs of digits, and it has a token for each of the latter two, with the
column where the lexeme starts. A text has the tokens that the scan finds and no others, and a
scan that fails blames a column of the text.
-/

namespace ArithAsm

namespace Text

/-! ### Runs of digits -/

section Runs

variable {passes : Char → Bool} {text : Text}

lemma takeWhile_eq_nil (h : ∀ c ∈ text.head?, passes c = false) : text.takeWhile passes = [] := by
  rcases text with _ | ⟨c, text⟩
  · rfl
  · exact List.takeWhile_cons_of_neg (by simp [h c rfl])

lemma dropWhile_eq_self (h : ∀ c ∈ text.head?, passes c = false) :
    text.dropWhile passes = text := by
  rcases text with _ | ⟨c, text⟩
  · rfl
  · exact List.dropWhile_cons_of_neg (by simp [h c rfl])

end Runs

/-- The digits between `before` and `after` are a run that is not part of a longer one. -/
structure IsRun (before digits after : Text) : Prop where
  ne_nil : digits ≠ []
  isDigit : ∀ c ∈ digits, isDigit c = true
  left : ∀ c ∈ before.getLast?, Text.isDigit c = false
  right : ∀ c ∈ after.head?, Text.isDigit c = false

lemma cons_eq_append_dropWhile (c : Char) (rest : Text) :
    c :: rest = (c :: rest.takeWhile isDigit) ++ rest.dropWhile isDigit := by
  rw [List.cons_append, List.takeWhile_append_dropWhile]

lemma isRun_takeWhile {c : Char} (hc : isDigit c = true) (rest : Text) :
    IsRun [] (c :: rest.takeWhile isDigit) (rest.dropWhile isDigit) where
  ne_nil := List.cons_ne_nil _ _
  isDigit := List.forall_mem_cons.mpr ⟨hc, List.all_eq_true.mp List.all_takeWhile⟩
  left := nofun
  right d hd := by
    have := List.head?_dropWhile_not isDigit rest
    rw [Option.mem_def.mp hd] at this
    exact this

lemma isDigit_iff {c : Char} : isDigit c = true ↔ '0'.toNat ≤ c.toNat ∧ c.toNat ≤ '9'.toNat := by
  simp only [isDigit, Char.isDigit, Bool.and_eq_true, decide_eq_true_eq]
  rfl

lemma not_isBlank_of_isDigit {c : Char} (h : isDigit c = true) : isBlank c = false := by
  obtain ⟨hlow, hhigh⟩ := isDigit_iff.mp h
  simp [isBlank, inRanges, blankRanges] at hlow hhigh ⊢
  omega

lemma value_cons (c : Char) (digits : Text) :
    value (c :: digits) = 10 ^ digits.length * (c.toNat - '0'.toNat) + value digits := by
  rw [value, Nat.ofDigitChars_cons, Nat.ofDigitChars_eq_ofDigitChars_zero, value, Nat.mul_zero,
    Nat.zero_add]

lemma value_dropWhile_zero (digits : Text) :
    value (digits.dropWhile (· = '0')) = value digits := by
  induction digits with
  | nil => rfl
  | cons c digits ih =>
    by_cases hc : c = '0'
    · rw [List.dropWhile_cons_of_pos (by simp [hc]), ih, value_cons, hc, Nat.sub_self,
        Nat.mul_zero, Nat.zero_add]
    · rw [List.dropWhile_cons_of_neg (by simp [hc])]

/-- A numeral without zeros in front is at least the power of ten with as many zeros as it has
digits behind the first. -/
lemma pow_le_value {c : Char} (digits : Text) (hd : isDigit c = true) (hc : c ≠ '0') :
    10 ^ digits.length ≤ value (c :: digits) := by
  have hpos : 0 < c.toNat - '0'.toNat := by
    have hn : c.toNat ≠ '0'.toNat := fun h => hc (Char.toNat_inj.mp h)
    have hle := (isDigit_iff.mp hd).1
    omega
  rw [value_cons]
  exact Nat.le_add_right_of_le (Nat.le_mul_of_pos_right _ hpos)

end Text

namespace Token

lemma value_significant (digits : Text) :
    Text.value (significant digits) = Text.value digits := by
  rw [← Text.value_dropWhile_zero digits, significant]
  split
  next h => rw [h]; rfl
  next h => rfl

lemma length_greatestLiteral : (Text.ofInt greatestLiteral).length = 19 := by decide

/-- The length of a literal is looked at only to spare the value. -/
lemma exceeds_iff {digits : Text} (h : ∀ c ∈ digits, Text.isDigit c = true) :
    19 < (significant digits).length ∨ greatestLiteral < Text.value digits ↔
      greatestLiteral < Text.value digits := by
  rw [or_iff_right_iff_imp]
  intro hlong
  rcases hw : digits.dropWhile (· = '0') with _ | ⟨c, word⟩
  · simp [significant, hw] at hlong
  · have hs : significant digits = c :: word := by rw [significant, hw]
    have hc : c ≠ '0' := by
      have := List.head?_dropWhile_not (· = '0') digits
      simpa [hw] using this
    have hd : Text.isDigit c = true :=
      h c ((List.dropWhile_suffix _).subset (hw ▸ List.mem_cons_self))
    have hpow := Text.pow_le_value word hd hc
    rw [← hs, value_significant] at hpow
    have hlow : 10 ^ 19 ≤ 10 ^ word.length := by
      refine Nat.pow_le_pow_right (by decide) ?_
      rw [hs, List.length_cons] at hlong
      omega
    unfold greatestLiteral
    omega

lemma literalBy_pure {m : Type → Type} [Monad m] [LawfulMonad m] (refuse : Error → m Token)
    (column : Int) (digits : Text) :
    literalBy refuse (fun word => pure (Text.value word)) column digits =
      if 19 < (significant digits).length ∨ greatestLiteral < Text.value digits then
        refuse (.integerLiteralOverflow column digits greatestLiteral)
      else pure ⟨.integer, digits, .number (Text.value digits), column⟩ := by
  simp only [literalBy, pure_bind, length_greatestLiteral, value_significant, ite_or]

lemma literal_eq_ite (column : Int) (digits : Text) :
    literal column digits =
      if 19 < (significant digits).length ∨ greatestLiteral < Text.value digits then
        .error (.integerLiteralOverflow column digits greatestLiteral)
      else .ok ⟨.integer, digits, .number (Text.value digits), column⟩ :=
  literalBy_pure Except.error column digits

lemma literal_eq {digits : Text} (h : ∀ c ∈ digits, Text.isDigit c = true) (column : Int) :
    literal column digits =
      if greatestLiteral < Text.value digits then
        .error (.integerLiteralOverflow column digits greatestLiteral)
      else .ok ⟨.integer, digits, .number (Text.value digits), column⟩ := by
  simp only [literal_eq_ite, exceeds_iff h]

/-! ### The tokens of a text -/

/-- From `column` on the text is made of the lexemes of `tokens` and of blanks. -/
inductive Scans : Nat → Text → List Token → Prop where
  | finish (column : Nat) : Scans column [] [endAt column]
  | blank {column : Nat} {c : Char} {rest : Text} {tokens : List Token}
      (hc : Text.isBlank c = true) (h : Scans (column + 1) rest tokens) :
      Scans column (c :: rest) tokens
  | operator {column : Nat} {c : Char} {rest : Text} {tokens : List Token}
      (hc : c ∈ operatorSymbols) (h : Scans (column + 1) rest tokens) :
      Scans column (c :: rest) (operator column c :: tokens)
  | literal {column : Nat} {digits rest : Text} {tokens : List Token} (hne : digits ≠ [])
      (hdigits : ∀ c ∈ digits, Text.isDigit c = true)
      (hmax : ∀ c ∈ rest.head?, Text.isDigit c = false)
      (hle : Text.value digits ≤ greatestLiteral)
      (h : Scans (column + digits.length) rest tokens) :
      Scans column (digits ++ rest)
        (⟨.integer, digits, .number (Text.value digits), column⟩ :: tokens)

lemma tokenizeFrom_sound {found : Array Token} {column : Nat} {text : Text} {tokens : List Token}
    (h : tokenizeFrom found column text = .ok tokens) :
    ∃ scanned, tokens = found.toList ++ scanned ∧ Scans column text scanned := by
  fun_induction tokenizeFrom found column text with
  | case1 found column =>
    cases h
    exact ⟨[endAt column], by simp, .finish column⟩
  | case2 found column c rest hc ih =>
    obtain ⟨scanned, rfl, hs⟩ := ih h
    exact ⟨scanned, rfl, .blank hc hs⟩
  | case3 found column c rest hc ho ih =>
    obtain ⟨scanned, rfl, hs⟩ := ih h
    exact ⟨_, by simp, .operator (List.contains_iff_mem.mp ho) hs⟩
  | case4 => cases h
  | case5 found column c rest hb ho hd digits token hl ih =>
    obtain ⟨scanned, rfl, hs⟩ := ih h
    have hrun : Text.IsRun [] digits (rest.dropWhile Text.isDigit) := Text.isRun_takeWhile hd rest
    rw [literal_eq hrun.isDigit] at hl
    split at hl
    next => cases hl
    next hle =>
      cases hl
      rw [show c :: rest = digits ++ _ from Text.cons_eq_append_dropWhile c rest]
      exact ⟨⟨.integer, digits, .number (Text.value digits), column⟩ :: scanned, by simp,
        .literal hrun.ne_nil hrun.isDigit hrun.right (by omega) hs⟩
  | case6 => cases h

lemma not_isBlank_of_operator {c : Char} (h : c ∈ operatorSymbols) : Text.isBlank c = false := by
  have hall : operatorSymbols.all (fun c => !Text.isBlank c) = true := by decide
  simpa using List.all_eq_true.mp hall c h

lemma not_isDigit_of_operator {c : Char} (h : c ∈ operatorSymbols) : Text.isDigit c = false := by
  have hall : operatorSymbols.all (fun c => !Text.isDigit c) = true := by decide
  simpa using List.all_eq_true.mp hall c h

lemma tokenizeFrom_complete {column : Nat} {text : Text} {scanned : List Token}
    (h : Scans column text scanned) (found : Array Token) :
    tokenizeFrom found column text = .ok (found.toList ++ scanned) := by
  induction h generalizing found with
  | finish column => simp [tokenizeFrom]
  | blank hc h ih => rw [tokenizeFrom, if_pos hc, ih]
  | operator hc h ih =>
    rw [tokenizeFrom, if_neg (by simp [not_isBlank_of_operator hc]),
      if_pos (List.contains_iff_mem.mpr hc), ih]
    simp
  | @literal column digits rest tokens hne hdigits hmax hle h ih =>
    obtain ⟨c, word, rfl⟩ := List.exists_cons_of_ne_nil hne
    have hd := hdigits c List.mem_cons_self
    have hword : ∀ x ∈ word, Text.isDigit x = true := fun x hx => hdigits x (.tail c hx)
    have hop : ¬ operatorSymbols.contains c = true := fun ho => by
      simp [not_isDigit_of_operator (List.contains_iff_mem.mp ho)] at hd
    have htake : (word ++ rest).takeWhile Text.isDigit = word := by
      rw [List.takeWhile_append_of_pos hword, Text.takeWhile_eq_nil hmax, List.append_nil]
    have hdrop : (word ++ rest).dropWhile Text.isDigit = rest := by
      rw [List.dropWhile_append_of_pos hword, Text.dropWhile_eq_self hmax]
    rw [List.cons_append, tokenizeFrom, if_neg (by simp [Text.not_isBlank_of_isDigit hd]),
      if_neg hop, if_pos hd]
    simp only [htake, hdrop, literal_eq hdigits]
    rw [if_neg (by omega)]
    simp only [ih]
    simp

/-- **The tokens of a text** are those that the scan finds. -/
theorem tokenize_eq_ok_iff {source : Text} {tokens : List Token} :
    tokenize source = .ok tokens ↔ Scans 0 source tokens := by
  constructor
  · intro h
    obtain ⟨scanned, rfl, hs⟩ := tokenizeFrom_sound h
    simpa using hs
  · intro h
    simpa [tokenize] using tokenizeFrom_complete h #[]

/-! ### What a scan promises -/

/-- A token that stands for something written: an operator, or a literal that fits. -/
inductive IsLexeme : Token → Prop where
  | operator (column : Nat) {c : Char} (mem : c ∈ operatorSymbols) :
      IsLexeme (Token.operator column c)
  | literal (column : Nat) {digits : Text} (ne_nil : digits ≠ [])
      (isDigit : ∀ c ∈ digits, Text.isDigit c = true)
      (fits : Text.value digits ≤ greatestLiteral) :
      IsLexeme ⟨.integer, digits, .number (Text.value digits), column⟩

lemma IsLexeme.isEnd {token : Token} (h : IsLexeme token) : token.isEnd = false := by
  cases h <;> rfl

variable {column : Nat} {text : Text} {tokens : List Token}

/-- The end token stands last, and all tokens before it are lexemes. -/
lemma Scans.eq_append_endAt (h : Scans column text tokens) :
    ∃ lexemes, tokens = lexemes ++ [endAt (column + text.length)] ∧
      ∀ token ∈ lexemes, IsLexeme token := by
  induction h with
  | finish column => exact ⟨[], by simp, by simp⟩
  | @blank column c rest tokens hc h ih =>
    obtain ⟨lexemes, rfl, hl⟩ := ih
    exact ⟨lexemes, by simp [Int.add_assoc, Int.add_comm 1], hl⟩
  | @operator column c rest tokens hc h ih =>
    obtain ⟨lexemes, rfl, hl⟩ := ih
    exact ⟨Token.operator column c :: lexemes, by simp [Int.add_assoc, Int.add_comm 1],
      List.forall_mem_cons.mpr ⟨.operator column hc, hl⟩⟩
  | @literal column digits rest tokens hne hdigits hmax hle h ih =>
    obtain ⟨lexemes, rfl, hl⟩ := ih
    exact ⟨⟨.integer, digits, .number (Text.value digits), column⟩ :: lexemes,
      by simp [Int.add_assoc], List.forall_mem_cons.mpr ⟨.literal column hne hdigits hle, hl⟩⟩

lemma Scans.exists_last (h : Scans column text tokens) :
    ∃ last ∈ tokens.getLast?, last.isEnd = true := by
  obtain ⟨lexemes, rfl, -⟩ := h.eq_append_endAt
  exact ⟨_, List.getLast?_concat, rfl⟩

lemma Scans.eq_takeWhile_append (h : Scans column text tokens) :
    tokens = tokens.takeWhile (fun token => !token.isEnd) ++ [endAt (column + text.length)] := by
  obtain ⟨lexemes, rfl, hl⟩ := h.eq_append_endAt
  rw [List.takeWhile_append_of_pos fun token hm => by simp [(hl token hm).isEnd]]
  simp [isEnd, endAt]

lemma Scans.column_bounds (h : Scans column text tokens) {token : Token} (ht : token ∈ tokens) :
    (column : Int) ≤ token.column ∧ token.column ≤ column + text.length := by
  induction h with
  | finish column =>
    obtain rfl := List.mem_singleton.mp ht
    simp [endAt]
  | blank hc h ih =>
    have := ih ht
    simp only [List.length_cons]
    omega
  | operator hc h ih =>
    rcases List.mem_cons.mp ht with rfl | ht
    · simp only [Token.operator, List.length_cons]
      omega
    · have := ih ht
      simp only [List.length_cons]
      omega
  | literal hne hdigits hmax hle h ih =>
    rcases List.mem_cons.mp ht with rfl | ht
    · simp only [List.length_append]
      omega
    · have := ih ht
      simp only [List.length_append]
      omega

lemma Scans.value_of_integer (h : Scans column text tokens) {token : Token} (ht : token ∈ tokens)
    (hk : token.kind = .integer) :
    ∃ n : Nat, token.value = .number n ∧ n ≤ greatestLiteral := by
  obtain ⟨lexemes, rfl, hl⟩ := h.eq_append_endAt
  rcases List.mem_append.mp ht with ht | ht
  · cases hl token ht with
    | operator column mem => cases hk
    | literal column ne_nil isDigit fits => exact ⟨_, rfl, fits⟩
  · obtain rfl := List.mem_singleton.mp ht
    cases hk

/-- A scan that fails blames a character of the text or the start of a run of digits in it. -/
lemma tokenizeFrom_error {found : Array Token} {error : Error}
    (h : tokenizeFrom found column text = .error error) :
    ∃ offset : Nat, column ≤ offset ∧ offset < column + text.length ∧
      ((∃ c, error = .unrecognizedCharacter offset [c]) ∨
        ∃ digits, error = .integerLiteralOverflow offset digits greatestLiteral) := by
  fun_induction tokenizeFrom found column text with
  | case1 => cases h
  | case2 found column c rest hc ih =>
    obtain ⟨offset, hlow, hhigh, he⟩ := ih h
    exact ⟨offset, by omega, by simp only [List.length_cons]; omega, he⟩
  | case3 found column c rest hc ho ih =>
    obtain ⟨offset, hlow, hhigh, he⟩ := ih h
    exact ⟨offset, by omega, by simp only [List.length_cons]; omega, he⟩
  | case4 found column c rest hb ho hd digits error' hl =>
    cases h
    rw [literal_eq_ite] at hl
    split at hl
    next =>
      cases hl
      exact ⟨column, Nat.le_refl _, by simp, .inr ⟨_, rfl⟩⟩
    next => cases hl
  | case5 found column c rest hb ho hd digits token hl ih =>
    obtain ⟨offset, hlow, hhigh, he⟩ := ih h
    have hlen : digits.length + (rest.dropWhile Text.isDigit).length = rest.length + 1 := by
      rw [← List.length_append]
      simp [digits, List.takeWhile_append_dropWhile]
    exact ⟨offset, by omega, by simp only [List.length_cons]; omega, he⟩
  | case6 found column c rest hb ho hd =>
    cases h
    exact ⟨column, Nat.le_refl _, by simp, .inl ⟨c, rfl⟩⟩

end Token

end ArithAsm
