import ArithAsm.Proofs.Scanning

/-!
Where the lexemes of a text stand. Each is written at the column of its token and ends before the
next one begins, and what is left of the text is blank. So a text can be put together again from its
tokens and its blanks, which `weave` does.
-/

namespace ArithAsm

namespace Text

lemma IsRun.append_left {before digits after : Text} (h : IsRun before digits after) {front : Text}
    (hf : before = [] → ∀ c ∈ front.getLast?, Text.isDigit c = false) :
    IsRun (front ++ before) digits after where
  ne_nil := h.ne_nil
  isDigit := h.isDigit
  left c hc := by
    rcases before with _ | ⟨d, before⟩
    · exact hf rfl c (by simpa using hc)
    · exact h.left c (by simpa [List.getLast?_append] using hc)
  right := h.right

lemma IsRun.of_append_left {front before digits after : Text}
    (h : IsRun (front ++ before) digits after) : IsRun before digits after where
  ne_nil := h.ne_nil
  isDigit := h.isDigit
  left c hc := h.left c (by rw [List.getLast?_append, Option.mem_def.mp hc]; rfl)
  right := h.right

lemma IsRun.before_ne_nil {before digits after : Text} (h : IsRun before digits after)
    (hmax : ∀ c ∈ (before ++ digits ++ after).head?, Text.isDigit c = false) : before ≠ [] := by
  rintro rfl
  obtain ⟨d, word, rfl⟩ := List.exists_cons_of_ne_nil h.ne_nil
  have hd := h.isDigit d List.mem_cons_self
  simp [hmax d rfl] at hd

lemma IsRun.not_isDigit {before digits after : Text} (h : IsRun before digits after) {i : Nat}
    {c : Char} (hc : (before ++ digits ++ after)[i]? = some c)
    (hi : i + 1 = before.length ∨ i = before.length + digits.length) : Text.isDigit c = false := by
  rcases hi with hi | rfl
  · refine h.left c ?_
    rw [List.append_assoc, List.getElem?_append_left (by omega)] at hc
    rw [Option.mem_def, List.getLast?_eq_getElem?, ← hc]
    congr 1
    omega
  · refine h.right c ?_
    rw [List.getElem?_append_right (by simp)] at hc
    simpa [List.head?_eq_getElem?] using hc

lemma not_isDigit_of_isBlank {c : Char} (h : isBlank c = true) : isDigit c = false := by
  by_contra hd
  simp [not_isBlank_of_isDigit (eq_true_of_ne_false hd)] at h

lemma slice_append (before middle after : Text) :
    slice (before ++ middle ++ after) before.length (before.length + middle.length) = middle := by
  have h1 : offset (before ++ middle ++ after) before.length = before.length := by
    rw [offset, if_neg (by omega)]
  have h2 : offset (before ++ middle ++ after) (before.length + middle.length)
      = before.length + middle.length := by
    rw [offset, if_neg (by omega)]
  have h3 : ((before.length : Int) + middle.length).toNat - before.length = middle.length := by
    omega
  simp only [slice, h1, h2, Int.toNat_natCast, h3]
  rw [List.append_assoc, List.drop_left, List.take_left]

end Text

namespace Token

/-! ### Lexemes in their text -/

variable {column : Nat} {text : Text} {tokens : List Token} {token : Token}

/-- A token is written in the text at its column, a literal as a run of digits. -/
lemma Scans.exists_split (h : Scans column text tokens) (ht : token ∈ tokens) :
    ∃ before after, text = before ++ token.text ++ after ∧
      token.column = column + before.length ∧
        (token.kind = .integer → Text.IsRun before token.text after) := by
  induction h with
  | finish column =>
    obtain rfl := List.mem_singleton.mp ht
    exact ⟨[], [], rfl, by simp [endAt], fun hk => by cases hk⟩
  | @blank column c rest tokens hc h ih =>
    obtain ⟨before, after, rfl, hcol, hrun⟩ := ih ht
    refine ⟨[c] ++ before, after, rfl, by simp [hcol]; omega, fun hk => (hrun hk).append_left ?_⟩
    simpa using fun _ => Text.not_isDigit_of_isBlank hc
  | @operator column c rest tokens hc h ih =>
    rcases List.mem_cons.mp ht with rfl | ht
    · exact ⟨[], rest, rfl, by simp [Token.operator], fun hk => by cases hk⟩
    obtain ⟨before, after, rfl, hcol, hrun⟩ := ih ht
    refine ⟨[c] ++ before, after, rfl, by simp [hcol]; omega, fun hk => (hrun hk).append_left ?_⟩
    simpa using fun _ => not_isDigit_of_operator hc
  | @literal column digits rest tokens hne hdigits hmax hle h ih =>
    rcases List.mem_cons.mp ht with rfl | ht
    · exact ⟨[], rest, rfl, by simp, fun _ => ⟨hne, hdigits, by simp, hmax⟩⟩
    obtain ⟨before, after, rfl, hcol, hrun⟩ := ih ht
    -- a run right behind the digits would have been part of them
    exact ⟨digits ++ before, after, by simp, by simp [hcol]; omega, fun hk =>
      (hrun hk).append_left fun hb => absurd hb ((hrun hk).before_ne_nil hmax)⟩

/-- A token that is not the last is written, and it ends before the next one begins. -/
lemma Scans.pairwise (h : Scans column text tokens) :
    tokens.Pairwise fun first second : Token =>
      first.text ≠ [] ∧ first.column + first.text.length ≤ second.column := by
  induction h with
  | finish column => exact List.pairwise_singleton _ _
  | blank hc h ih => exact ih
  | operator hc h ih =>
    refine List.pairwise_cons.mpr ⟨fun token ht => ⟨List.cons_ne_nil _ _, ?_⟩, ih⟩
    have := (h.column_bounds ht).1
    simpa [Token.operator] using this
  | literal hne hdigits hmax hle h ih =>
    refine List.pairwise_cons.mpr ⟨fun token ht => ⟨hne, ?_⟩, ih⟩
    have := (h.column_bounds ht).1
    simpa using this

lemma Scans.eq_of_column_eq (h : Scans column text tokens) {i j : Nat} {first second : Token}
    (hi : tokens[i]? = some first) (hj : tokens[j]? = some second)
    (hc : first.column = second.column) : i = j := by
  have hlt : ∀ {k l : Nat} {a b : Token}, tokens[k]? = some a → tokens[l]? = some b → k < l →
      a.column < b.column := by
    intro k l a b hk hl hkl
    obtain ⟨hk', rfl⟩ := List.getElem?_eq_some_iff.mp hk
    obtain ⟨hl', rfl⟩ := List.getElem?_eq_some_iff.mp hl
    obtain ⟨hne, hle⟩ := List.pairwise_iff_getElem.mp h.pairwise k l hk' hl' hkl
    have := List.length_pos_iff.mpr hne
    omega
  rcases Nat.lt_trichotomy i j with hij | hij | hij
  · have := hlt hi hj hij
    omega
  · exact hij
  · have := hlt hj hi hij
    omega

/-- A character that is part of no token is blank. -/
lemma Scans.isBlank_or_mem (h : Scans column text tokens) {i : Nat} {c : Char}
    (hc : text[i]? = some c) :
    Text.isBlank c = true ∨ ∃ token ∈ tokens, token.column ≤ column + i ∧
      column + i < token.column + token.text.length := by
  induction h generalizing i with
  | finish column => simp at hc
  | @blank column b rest tokens hb h ih =>
    rcases i with _ | i
    · obtain rfl : b = c := by simpa using hc
      exact .inl hb
    · rcases ih (by simpa using hc) with hc | ⟨token, ht, hlow, hhigh⟩
      · exact .inl hc
      · exact .inr ⟨token, ht, by omega, by omega⟩
  | @operator column b rest tokens hb h ih =>
    rcases i with _ | i
    · exact .inr ⟨_, List.mem_cons_self, by simp [Token.operator], by
        simp only [Token.operator, List.length_singleton]; omega⟩
    · rcases ih (by simpa using hc) with hc | ⟨token, ht, hlow, hhigh⟩
      · exact .inl hc
      · exact .inr ⟨token, .tail _ ht, by omega, by omega⟩
  | @literal column digits rest tokens hne hdigits hmax hle h ih =>
    by_cases hi : i < digits.length
    · exact .inr ⟨_, List.mem_cons_self, by simp; omega⟩
    · rw [List.getElem?_append_right (by omega)] at hc
      rcases ih hc with hc | ⟨token, ht, hlow, hhigh⟩
      · exact .inl hc
      · exact .inr ⟨token, .tail _ ht, by omega, by omega⟩

/-! ### Putting a text together again -/

/-- The text that has these tokens from `column` on, each at its own column, with the blanks in
their order where no token is. -/
def weave (column : Int) : List Token → Text → Text
  | [], blanks => blanks
  | token :: tokens, blanks =>
    let gap := (token.column - column).toNat
    blanks.take gap ++ token.text
      ++ weave (token.column + token.text.length) tokens (blanks.drop gap)

/-- The blanks before `column` that no token has used up yet are `gap`. -/
lemma Scans.weave_eq (h : Scans column text tokens) {start : Int} {gap : Text}
    (hgap : start + gap.length = column) :
    weave start tokens (gap ++ text.filter Text.isBlank) = gap ++ text := by
  induction h generalizing start gap with
  | finish column =>
    have : (column - start).toNat = gap.length := by omega
    simp [weave, endAt, this]
  | @blank column c rest tokens hc h ih =>
    have := @ih start (gap ++ [c]) (by simp; omega)
    simpa [hc] using this
  | @operator column c rest tokens hc h ih =>
    have hlen : (column - start).toNat = gap.length := by omega
    have := @ih (column + 1) [] (by simp)
    simp at this
    simp [weave, Token.operator, hlen, not_isBlank_of_operator hc, this]
  | @literal column digits rest tokens hne hdigits hmax hle h ih =>
    have hlen : (column - start).toNat = gap.length := by omega
    have hnone : digits.filter Text.isBlank = [] :=
      List.filter_eq_nil_iff.mpr fun c hc => by simp [Text.not_isBlank_of_isDigit (hdigits c hc)]
    have := @ih (column + digits.length) [] (by simp)
    simp at this
    simp [weave, hlen, hnone, this]

/-! ### Lossless scans -/

/-- What the lexemes of a source are: operators and literals, each written at its column and clear
of the others, with nothing but blanks around them. -/
structure AreLexemes (lexemes : List Token) (source : Text) : Prop where
  kind : ∀ token ∈ lexemes, token.kind = .operator ∨ token.kind = .integer
  operator : ∀ token ∈ lexemes, token.kind = .operator →
    (∃ c ∈ ("+-*/()" : Text), token.text = [c]) ∧ token.value = .symbol token.text
  literal : ∀ token ∈ lexemes, token.kind = .integer →
    (∀ c ∈ token.text, Text.isDigit c = true) ∧ token.value = .number (Text.value token.text) ∧
      Text.value token.text ≤ 2 ^ 63 - 1
  ne_nil : ∀ token ∈ lexemes, token.text ≠ []
  pairwise : lexemes.Pairwise fun first second : Token =>
    first.column + first.text.length ≤ second.column
  isBlank : ∀ (i : Nat) (c : Char), source[i]? = some c →
    (∀ token ∈ lexemes, ¬ (token.column ≤ i ∧ i < token.column + token.text.length)) →
      Text.isBlank c = true
  maximal : ∀ token ∈ lexemes, token.kind = .integer → ∀ (i : Nat) (c : Char),
    source[i]? = some c → (i + 1 = token.column ∨ i = token.column + token.text.length) →
      Text.isDigit c = false

lemma Scans.areLexemes {source : Text} {lexemes : List Token}
    (h : Scans 0 source (lexemes ++ [endAt source.length]))
    (hl : ∀ token ∈ lexemes, IsLexeme token) : AreLexemes lexemes source where
  kind token ht := by
    cases hl token ht with
    | operator column mem => exact .inl rfl
    | literal column ne_nil isDigit fits => exact .inr rfl
  operator token ht hk := by
    cases hl token ht with
    | operator column mem => exact ⟨⟨_, mem, rfl⟩, rfl⟩
    | literal column ne_nil isDigit fits => cases hk
  literal token ht hk := by
    cases hl token ht with
    | operator column mem => cases hk
    | @literal column digits ne_nil isDigit fits =>
      refine ⟨isDigit, rfl, ?_⟩
      change Text.value digits ≤ 2 ^ 63 - 1
      unfold greatestLiteral at fits
      omega
  ne_nil token ht :=
    ((List.pairwise_append.mp h.pairwise).2.2 token ht _ List.mem_cons_self).1
  pairwise := (List.pairwise_append.mp h.pairwise).1.imp And.right
  isBlank i c hc hn := by
    rcases h.isBlank_or_mem hc with hb | ⟨token, ht, hlow, hhigh⟩
    · exact hb
    rcases List.mem_append.mp ht with ht | ht
    · exact absurd ⟨by omega, by omega⟩ (hn token ht)
    · obtain rfl := List.mem_singleton.mp ht
      simp [endAt] at hlow hhigh
      omega
  maximal token ht hk i c hc hi := by
    obtain ⟨before, after, rfl, hcol, hrun⟩ := h.exists_split (List.mem_append_left _ ht)
    exact (hrun hk).not_isDigit hc (by omega)

/-- **A scan loses nothing.** The tokens of a source are its lexemes with an end token behind them,
each of them is the part of the source at its column, and the tokens and the blanks of the source
put together are the source again. -/
theorem tokenize_lossless {source : Text} (h : tokenize source = .ok tokens) :
    ∃ lexemes, tokens = lexemes ++ [⟨.endOfInput, [], .number 0, source.length⟩] ∧
      AreLexemes lexemes source ∧
      (∀ token ∈ tokens, 0 ≤ token.column ∧
        Text.slice source token.column (token.column + token.text.length) = token.text) ∧
      weave 0 tokens (source.filter Text.isBlank) = source := by
  have hs := tokenize_eq_ok_iff.mp h
  obtain ⟨lexemes, htokens, hl⟩ := hs.eq_append_endAt
  rw [Int.natCast_zero, Int.zero_add] at htokens
  refine ⟨lexemes, htokens, Scans.areLexemes (htokens ▸ hs) hl, fun token ht => ?_, ?_⟩
  · obtain ⟨before, after, hsplit, hcol, -⟩ := hs.exists_split ht
    rw [Int.natCast_zero, Int.zero_add] at hcol
    rw [hsplit, hcol]
    exact ⟨Int.natCast_nonneg _, Text.slice_append before token.text after⟩
  · exact @Scans.weave_eq 0 source tokens hs 0 [] rfl

theorem tokenize_lossless_spaced :
    tokenize " 07*(2 )" = .ok [⟨.integer, "07", .number 7, 1⟩, operator 3 '*', operator 4 '(',
      ⟨.integer, "2", .number 2, 5⟩, operator 7 ')', endAt 8] ∧
    weave 0 [⟨.integer, "07", .number 7, 1⟩, operator 3 '*', operator 4 '(',
      ⟨.integer, "2", .number 2, 5⟩, operator 7 ')', endAt 8] "  " = " 07*(2 )" := by
  have h : tokenize " 07*(2 )" = .ok [⟨.integer, "07", .number 7, 1⟩, operator 3 '*',
      operator 4 '(', ⟨.integer, "2", .number 2, 5⟩, operator 7 ')', endAt 8] := by decide +kernel
  obtain ⟨lexemes, -, -, -, hweave⟩ := tokenize_lossless h
  exact ⟨h, hweave⟩

end Token

end ArithAsm
