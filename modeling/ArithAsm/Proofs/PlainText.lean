import ArithAsm.Cli.Elapsed
import ArithAsm.Proofs.Listing

/-!
Plain text: printable characters of ASCII. Nothing in a plain text ends a line, so lines that are
plain can be told apart again once they are written one under the other. Numbers are plain, and so
is the time that a clock shows.
-/

namespace ArithAsm

namespace Text

variable {text front back : Text}

/-- All characters are printable and of ASCII. -/
def IsPlain (text : Text) : Prop := ∀ c ∈ text, ' ' ≤ c ∧ c ≤ '~'

instance : DecidablePred IsPlain := List.decidableBAll _

lemma IsPlain.append (hf : front.IsPlain) (hb : back.IsPlain) : (front ++ back).IsPlain :=
  List.forall_mem_append.mpr ⟨hf, hb⟩

lemma isPlain_replicate {c : Char} (hc : ' ' ≤ c ∧ c ≤ '~') (n : Nat) :
    IsPlain (List.replicate n c) := by
  intro d hd
  obtain rfl := List.eq_of_mem_replicate hd
  exact hc

lemma IsPlain.newline_not_mem (h : text.IsPlain) : '\n' ∉ text :=
  fun hm => absurd (h _ hm).1 (by decide)

lemma isPlain_ofNat (n : Nat) : (ofNat n).IsPlain := by
  intro c hc
  obtain ⟨hlow, hhigh⟩ := isDigit_iff.mp (isDigit_of_mem_ofNat hc)
  have hspace : ' '.toNat ≤ '0'.toNat := by decide
  have htilde : '9'.toNat ≤ '~'.toNat := by decide
  exact ⟨Nat.le_trans hspace hlow, Nat.le_trans hhigh htilde⟩

lemma isPlain_ofInt (n : Int) : (ofInt n).IsPlain := by
  cases n with
  | ofNat n => exact isPlain_ofNat n
  | negSucc n => exact List.forall_mem_cons.mpr ⟨by decide, isPlain_ofNat (n + 1)⟩

end Text

lemma Dyadic.isPlain_fixed (places : Nat) (number : Dyadic) : (number.fixed places).IsPlain :=
  (((Text.isPlain_ofNat _).append (by decide)).append
    (Text.isPlain_replicate (by decide) _)).append (Text.isPlain_ofNat _)

lemma Clock.isPlain_seconds (clock : Clock) : clock.seconds.IsPlain := by
  unfold seconds
  dsimp only
  split
  · exact List.forall_mem_cons.mpr ⟨by decide, Dyadic.isPlain_fixed _ _⟩
  · exact Dyadic.isPlain_fixed _ _

/-! ### Tokens on lines -/

namespace Token

lemma Kind.isPlain_name (kind : Kind) : kind.name.IsPlain := by
  cases kind <;> decide

lemma IsLexeme.isPlain_shown {token : Token} (h : IsLexeme token) :
    token.value.shown.IsPlain := by
  cases h with
  | @operator column c mem =>
    have hall : operatorSymbols.all (fun c => decide (Text.quoted [c]).IsPlain) = true := by
      decide +kernel
    exact of_decide_eq_true (List.all_eq_true.mp hall c mem)
  | @literal column digits ne_nil isDigit fits => exact Text.isPlain_ofInt (Text.value digits)

variable {column : Nat} {text : Text} {tokens : List Token}

lemma Scans.isPlain_shown (h : Scans column text tokens) :
    ∀ token ∈ tokens, token.value.shown.IsPlain := by
  obtain ⟨lexemes, rfl, hl⟩ := h.eq_append_endAt
  rw [List.forall_mem_append, List.forall_mem_singleton]
  exact ⟨fun token ht => (hl token ht).isPlain_shown, Text.isPlain_ofInt 0⟩

lemma Scans.isPlain_traced (h : Scans column text tokens) :
    ∀ token ∈ tokens, token.traced.IsPlain := by
  intro token ht
  have hshown := h.isPlain_shown token ht
  have hlocation : (location token.column).IsPlain :=
    (Text.IsPlain.append (by decide) (Text.isPlain_ofInt _)).append (by decide)
  exact (((token.kind.isPlain_name.append (by decide)).append hshown).append (by decide)).append
    hlocation

/-- A token of a text is listed on one line. -/
lemma Scans.newline_not_mem_listed (h : Scans column text tokens) :
    ∀ token ∈ tokens, '\n' ∉ token.listed := by
  intro token ht
  have hcolumn := (Text.isPlain_ofInt token.column).newline_not_mem
  have hname := token.kind.isPlain_name.newline_not_mem
  have hshown := (h.isPlain_shown token ht).newline_not_mem
  simp only [listed, List.mem_append, hcolumn, hname, hshown, or_false, false_or]
  decide

end Token

end ArithAsm
