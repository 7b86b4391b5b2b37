import ArithAsm.Proofs.Spacing

/-!
Texts put together. Where no run of digits reaches from one text into the next, the tokens of the
two together are those of the first without its end and then those of the second, further right by
the length of the first. What is wrong with the first text comes before what is wrong with the
second.
-/

namespace ArithAsm.Token

variable {found : Array Token} {column : Nat} {front back text : Text} {tokens : List Token}

/-! ### The tokens already found -/

lemma tokenizeFrom_append_found (before : Array Token) :
    tokenizeFrom (before ++ found) column text =
      (tokenizeFrom found column text).map (before.toList ++ ·) := by
  fun_induction tokenizeFrom found column text with
  | case1 found column =>
    rw [tokenizeFrom, ← Array.append_push, Array.toList_append]
    rfl
  | case2 found column c rest hc ih => rw [tokenizeFrom, if_pos hc, ih]
  | case3 found column c rest hc ho ih =>
    rw [tokenizeFrom, if_neg hc, if_pos ho, ← Array.append_push, ih]
  | case4 found column c rest hc ho hd digits error hl =>
    rw [tokenizeFrom, if_neg hc, if_neg ho, if_pos hd]
    simp only [show literal column (c :: rest.takeWhile Text.isDigit) = _ from hl]
    rfl
  | case5 found column c rest hc ho hd digits token hl ih =>
    rw [tokenizeFrom, if_neg hc, if_neg ho, if_pos hd]
    simp only [show literal column (c :: rest.takeWhile Text.isDigit) = _ from hl]
    rw [← Array.append_push]
    exact ih
  | case6 found column c rest hc ho hd =>
    rw [tokenizeFrom, if_neg hc, if_neg ho, if_neg hd]
    rfl

/-- A scan that starts further right, behind other tokens, is the scan of the text moved there. -/
lemma tokenizeFrom_eq_moved (before : List Token) (width : Nat) :
    tokenizeFrom before.toArray width text =
      ((tokenize text).map fun later => before ++ later.map (moved (· + width))).mapError
        (Error.moved (· + width)) := by
  have hcarries : Carries (· + (width : Int)) 0 width text.length := by
    intro i _
    show ((0 + i : Nat) : Int) + width = (width + i : Nat)
    omega
  have hmoved := @tokenizeFrom_moved _ #[] _ _ _ hcarries
  rw [Array.map_empty, ← tokenize] at hmoved
  have hfound := @tokenizeFrom_append_found #[] width text before.toArray
  rw [Array.append_empty, hmoved] at hfound
  rw [hfound]
  cases tokenize text <;> rfl

/-! ### Two texts -/

lemma exists_lexemes_of_tokenize (h : tokenize text = .ok tokens) :
    ∃ lexemes, tokens = lexemes ++ [endAt text.length] ∧
      ∀ token ∈ lexemes, token.isEnd = false := by
  obtain ⟨lexemes, htokens, hl⟩ := (tokenize_eq_ok_iff.mp h).eq_append_endAt
  rw [Int.natCast_zero, Int.zero_add] at htokens
  exact ⟨lexemes, htokens, fun token ht => (hl token ht).isEnd⟩

/-- **Tokens of texts put together.** If no run of digits reaches from the first text into the
second, then an error of the first is that of both, an error of the second comes from further right
by the length of the first, and without errors the tokens of the second stand behind the lexemes of
the first, further right by as much. -/
theorem tokenize_append (h : Text.IsBoundary front back) :
    (∀ error, tokenize front = .error error → tokenize (front ++ back) = .error error) ∧
      (∀ tokens error, tokenize front = .ok tokens → tokenize back = .error error →
        tokenize (front ++ back) = .error (error.moved (· + front.length))) ∧
      ∀ tokens later, tokenize front = .ok tokens → tokenize back = .ok later →
        ∃ lexemes, tokens = lexemes ++ [endAt front.length] ∧
          (∀ token ∈ lexemes, token.isEnd = false) ∧
          tokenize (front ++ back) = .ok (lexemes ++ later.map (moved (· + front.length))) := by
  have happend : tokenize (front ++ back) = _ := tokenizeFrom_append h
  have hfront : tokenizeFrom #[] 0 front = tokenize front := rfl
  rw [hfront, Nat.zero_add] at happend
  refine ⟨fun error hf => ?_, fun tokens error hf hb => ?_, fun tokens later hf hb => ?_⟩
  · rw [happend, hf]
  · rw [happend, hf]
    dsimp only
    rw [tokenizeFrom_eq_moved, hb]
    rfl
  · obtain ⟨lexemes, rfl, hlexemes⟩ := exists_lexemes_of_tokenize hf
    refine ⟨lexemes, rfl, hlexemes, ?_⟩
    rw [happend, hf]
    dsimp only
    rw [List.dropLast_concat, tokenizeFrom_eq_moved, hb]
    rfl

theorem tokenize_append_spaced :
    Text.IsBoundary "(2 " " 30" ∧ Text.IsBoundary "(2 " "\t+#" ∧
      tokenize ("(2 " ++ " 30" : Text) = .ok [operator 0 '(', ⟨.integer, "2", .number 2, 1⟩,
        ⟨.integer, "30", .number 30, 4⟩, endAt 6] ∧
      tokenize ("(2 " ++ "\t+#" : Text) = .error (.unrecognizedCharacter 5 "#") := by
  have hblank (back : Text) : Text.IsBoundary "(2 " back := by
    rintro c ⟨⟩ hc
    cases hc
  have hfront : tokenize "(2 " = .ok [operator 0 '(', ⟨.integer, "2", .number 2, 1⟩, endAt 3] := by
    decide +kernel
  have hback : tokenize " 30" = .ok [⟨.integer, "30", .number 30, 1⟩, endAt 3] := by
    decide +kernel
  have hfault : tokenize "\t+#" = .error (.unrecognizedCharacter 2 "#") := by decide +kernel
  refine ⟨hblank _, hblank _, ?_, ?_⟩
  · obtain ⟨-, -, htokens⟩ := @tokenize_append "(2 " " 30" (hblank _)
    obtain ⟨lexemes, hlexemes, -, happend⟩ := htokens _ _ hfront hback
    obtain rfl : [operator 0 '(', ⟨.integer, "2", .number 2, 1⟩] = lexemes :=
      List.append_cancel_right hlexemes
    exact happend
  · obtain ⟨-, herror, -⟩ := @tokenize_append "(2 " "\t+#" (hblank _)
    exact herror _ _ hfront hfault

end ArithAsm.Token
