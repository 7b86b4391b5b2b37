import ArithAsm.Proofs.Faults
import ArithAsm.Proofs.PlainText
import ArithAsm.Proofs.Spacing

/-!
Where carets point. The column of an error is that of the lexeme it is about: of the character that
starts no token, of the run of digits that is too great, or of the token that cannot stand, which
for the end token is the column behind the source. Shown under a source of one line, the diagnostic
is a line of its own, and its first caret stands in that column.
-/

namespace ArithAsm

/-! ### Rendering -/

namespace Diagnostic

/-- The line under the source: a caret behind as many spaces as the offset, and the message. -/
def caretLine (offset : Nat) (message : Text) : Text :=
  List.replicate offset ' ' ++ "^ " ++ message

lemma render_eq (kind : Kind) (message : Text) (offset : Nat) (source : Text) :
    render ⟨kind, message, some offset⟩ source =
      .ok (source ++ "\n" ++ caretLine offset message ++ "\n") := by
  simp only [render_of_column, caretLine, List.append_assoc]

lemma isPlain_caretLine {message : Text} (h : message.IsPlain) (offset : Nat) :
    (caretLine offset message).IsPlain :=
  ((Text.isPlain_replicate (by decide) offset).append (by decide)).append h

lemma idxOf?_caretLine (offset : Nat) (message : Text) :
    (caretLine offset message).idxOf? '^' = some offset := by
  induction offset with
  | zero => rfl
  | succ offset ih =>
    rw [caretLine, List.replicate_succ, List.cons_append, List.cons_append, List.idxOf?_cons,
      ← caretLine, ih]
    rfl

end Diagnostic

/-! ### What errors are about -/

/-- The error is about what stands in this column of the source: a character, a whole run of digits,
or a token, which is the end token if the column is the one behind the source and not otherwise. -/
inductive Error.Marks (source : Text) (offset : Nat) : Error → Prop where
  | character {c : Char} (stands : source[offset]? = some c) :
      Error.Marks source offset (.unrecognizedCharacter offset [c])
  | literal {before digits after : Text} (split : source = before ++ digits ++ after)
      (start : before.length = offset) (run : Text.IsRun before digits after) :
      Error.Marks source offset (.integerLiteralOverflow offset digits (2 ^ 63 - 1))
  | token {error : Error} {tokens : List Token} {token : Token}
      (about : error.token? = some token) (scan : Token.tokenize source = .ok tokens)
      (mem : token ∈ tokens) (column : token.column = offset)
      (written : Text.slice source offset (offset + token.text.length) = token.text)
      (behind_iff : offset = source.length ↔ token.isEnd = true) :
      Error.Marks source offset error

section Marks

variable {source : Text} {tokens : List Token} {error : Error}

lemma Token.Fault.marks {i : Nat} (h : Token.Fault 0 source i error) : error.Marks source i := by
  cases h with
  | character split index blank digit operator =>
    obtain rfl : i = _ := index.trans (Nat.zero_add _)
    exact .character (by simp [split])
  | literal split index run great =>
    exact .literal split (index.trans (Nat.zero_add _)).symm run

lemma marks_of_tokenize_error (h : Token.tokenize source = .error error) :
    ∃ offset, error.Marks source offset := by
  have hright := Token.tokenizeFrom_rightAbout #[] 0 source
  rw [← Token.tokenize, h] at hright
  obtain ⟨i, hfault, -⟩ := hright
  exact ⟨i, hfault.marks⟩

/-- The end token stands behind the source, and every other token within it. -/
lemma Token.column_eq_length_iff (h : Token.tokenize source = .ok tokens) {token : Token}
    (ht : token ∈ tokens) : token.column = source.length ↔ token.isEnd = true := by
  obtain ⟨lexemes, rfl, hl⟩ := (Token.tokenize_eq_ok_iff.mp h).eq_append_endAt
  rcases List.mem_append.mp ht with hm | hm
  · have hlt : token.column < source.length :=
      Token.column_lt_of_mem_dropLast h (by rwa [List.dropLast_concat])
    exact iff_of_false (by omega) (by simp [(hl token hm).isEnd])
  · obtain rfl := List.mem_singleton.mp hm
    exact iff_of_true (by simp [Token.endAt]) rfl

/-- The only symbol that is ever missed is the closing parenthesis. -/
lemma Expectation.symbol_of_step {state : Expectation} {token got : Token} {symbol : Text}
    (h : state.step token = .error (.error (.expectedSymbol symbol got))) : symbol = ")" := by
  cases state with
  | operand depth =>
    simp only [step] at h
    split_ifs at h with hp hfull hk
    · cases h
    · split at h <;> cases h
    · cases h
  | operator depth =>
    cases depth with
    | zero =>
      simp only [step] at h
      split_ifs at h
      cases h
    | succ depth =>
      simp only [step] at h
      split_ifs at h
      cases h
      rfl
  | nothing => cases h

lemma symbol_of_parse_error (ht : Token.tokenize source = .ok tokens) {symbol : Text} {got : Token}
    (hp : Expr.parse tokens = .error (.error (.expectedSymbol symbol got))) : symbol = ")" := by
  have hend := (Token.tokenize_eq_ok_iff.mp ht).exists_last
  obtain ⟨_, _, _, _, -, -, hstep⟩ :=
    Expectation.exists_of_run_eq_error (Expr.run_of_parse_eq_error hend hp)
  exact Expectation.symbol_of_step hstep

lemma marks_of_parse_error (ht : Token.tokenize source = .ok tokens)
    (hp : Expr.parse tokens = .error (.error error)) : ∃ offset, error.Marks source offset := by
  have hs := Token.tokenize_eq_ok_iff.mp ht
  rcases Expr.parse_eq_error hs.exists_last hp with ⟨_, token, ⟨⟩, habout, hm⟩ | h
  · obtain ⟨before, after, hsplit, hcolumn, -⟩ := hs.exists_split hm
    rw [Int.natCast_zero, Int.zero_add] at hcolumn
    refine ⟨before.length, .token habout ht hm hcolumn ?_ ?_⟩
    · rw [hsplit]
      exact Text.slice_append before token.text after
    · rw [← Token.column_eq_length_iff ht hm, hcolumn]
      exact Int.natCast_inj.symm
  · obtain ⟨token, hm, hk, text, hv⟩ := h
    obtain ⟨n, hn, -⟩ := hs.value_of_integer hm hk
    cases hn.symm.trans hv

lemma Error.Marks.diagnostic? {offset : Nat} (h : error.Marks source offset) :
    ∃ kind message, error.diagnostic? = some ⟨kind, message, some offset⟩ := by
  cases h with
  | character stands => exact ⟨_, _, rfl⟩
  | literal split start run => exact ⟨_, _, rfl⟩
  | token about scan mem column written behind_iff =>
    obtain ⟨message, hd⟩ := Error.diagnostic?_of_token? about
    rw [column] at hd
    exact ⟨_, message, hd⟩

lemma Error.isPlain_message {diagnostic : Diagnostic} (h : error.diagnostic? = some diagnostic)
    (hsymbol : ∀ symbol got, error = .expectedSymbol symbol got → symbol.IsPlain) :
    diagnostic.message.IsPlain := by
  cases error <;> cases h
  case expectedSymbol symbol got =>
    have hfront : Text.IsPlain "not the expected symbol '" := by decide
    exact (hfront.append (hsymbol symbol got rfl)).append (by decide)
  all_goals
    dsimp only
    decide

end Marks

/-! ### The caret -/

section Caret

variable {target : Option Target} {layout : Layout} {traced : Bool} {source : Text} {error : Error}
  {diagnostic : Diagnostic}

lemma stage_of_diagnostic? (h : (compile target layout traced source).failure = some (.error error))
    (hd : error.diagnostic? = some diagnostic) :
    Token.tokenize source = .error error ∨ ∃ tokens, Token.tokenize source = .ok tokens ∧
      Expr.parse tokens = .error (.error error) := by
  rcases stage_of_failure h with ⟨_, ht, ⟨⟩⟩ | ⟨tokens, ht, hp⟩ | ⟨given, -, ⟨⟩⟩
  · exact .inl ht
  · exact .inr ⟨tokens, ht, hp⟩
  · cases hd

/-- **The caret marks the lexeme.** An error that compiling ends with is about a column of the
source, the one of its diagnostic, and it is told by what stands there. If the source is one line,
the diagnostic shows two lines, the source and one of plain ASCII, whose first caret is in that
column. -/
theorem caret_marks_lexeme
    (h : (compile target layout traced source).failure = some (.error error))
    (hd : error.diagnostic? = some diagnostic) :
    ∃ offset : Nat, diagnostic.offset = some offset ∧ error.Marks source offset ∧
      ('\n' ∉ source → ∃ text second, diagnostic.render source = .ok text ∧
        Text.splitOn '\n' text = [source, second, []] ∧ second.IsPlain ∧
        second.idxOf? '^' = some offset) := by
  have hmarks : ∃ offset, error.Marks source offset := by
    rcases stage_of_diagnostic? h hd with ht | ⟨tokens, ht, hp⟩
    · exact marks_of_tokenize_error ht
    · exact marks_of_parse_error ht hp
  have hsymbol : ∀ symbol got, error = .expectedSymbol symbol got → symbol.IsPlain := by
    rintro symbol got rfl
    rcases stage_of_diagnostic? h hd with ht | ⟨tokens, ht, hp⟩
    · obtain ⟨offset, -, -, ⟨c, he⟩ | ⟨digits, he⟩⟩ := Token.tokenizeFrom_error ht <;> cases he
    · rw [symbol_of_parse_error ht hp]
      decide
  obtain ⟨offset, hmarks⟩ := hmarks
  obtain ⟨kind, message, hd'⟩ := hmarks.diagnostic?
  obtain rfl := Option.some_inj.mp (hd.symm.trans hd')
  refine ⟨offset, rfl, hmarks, fun hline => ⟨_, _, Diagnostic.render_eq _ _ _ _, ?_, ?_,
    Diagnostic.idxOf?_caretLine offset message⟩⟩
  · have hplain := Diagnostic.isPlain_caretLine (Error.isPlain_message hd hsymbol) offset
    have hlines := @Text.splitOn_ofLines [source, Diagnostic.caretLine offset message] <| by
      simpa using ⟨hline, hplain.newline_not_mem⟩
    simpa [Text.ofLines] using hlines
  · exact Diagnostic.isPlain_caretLine (Error.isPlain_message hd hsymbol) offset

theorem caret_marks_lexeme_behind :
    (compile none {} false "(1+2 \t").failure =
        some (.error (.expectedSymbol ")" (Token.endAt 6))) ∧
      '\n' ∉ ("(1+2 \t" : Text) ∧
      Error.Marks "(1+2 \t" 6 (.expectedSymbol ")" (Token.endAt 6)) ∧ ∃ text second,
        Diagnostic.render ⟨.syntactic, "not the expected symbol ')'", some 6⟩ "(1+2 \t" = .ok text ∧
        Text.splitOn '\n' text = ["(1+2 \t".toList, second, []] ∧
        second.idxOf? '^' = some 6 := by
  have hfailure : (compile none {} false "(1+2 \t").failure =
      some (.error (.expectedSymbol ")" (Token.endAt 6))) := by decide +kernel
  have hline : '\n' ∉ ("(1+2 \t" : Text) := by decide
  obtain ⟨offset, hoffset, hmarks, hcaret⟩ := caret_marks_lexeme hfailure rfl
  obtain rfl : 6 = offset := Int.ofNat_inj.mp (Option.some_inj.mp hoffset)
  obtain ⟨text, second, hrender, hlines, -, hfirst⟩ := hcaret hline
  exact ⟨hfailure, hline, hmarks, text, second, hrender, hlines, hfirst⟩

end Caret

end ArithAsm
