import ArithAsm.Proofs.Lexemes
import Mathlib.Algebra.Group.Int.Defs

/-!
What is wrong with a text. A fault is a character that no token starts with, or a run of digits
whose value is too great. A scan answers tokens just if there is no fault; otherwise its error is
the one of the leftmost fault.
-/

namespace ArithAsm

namespace Text

variable {before digits after : Text}

lemma IsRun.eq_takeWhile (h : IsRun before digits after) :
    digits = (digits ++ after).takeWhile Text.isDigit := by
  rw [List.takeWhile_append_of_pos h.isDigit, takeWhile_eq_nil h.right, List.append_nil]

lemma IsRun.isDigit_of_split (h : IsRun before digits after) {front back : Text} {c : Char}
    (hs : front ++ c :: back = before ++ digits ++ after) (hl : front.length = before.length) :
    Text.isDigit c = true := by
  rw [List.append_assoc] at hs
  obtain ⟨-, hback⟩ := List.append_inj hs hl
  obtain ⟨d, word, rfl⟩ := List.exists_cons_of_ne_nil h.ne_nil
  obtain ⟨rfl, -⟩ := List.cons_eq_cons.mp hback
  exact h.isDigit _ List.mem_cons_self

end Text

namespace Token

/-- The text, which starts at `column`, has a fault at `i`, and this error tells it. -/
inductive Fault (column : Nat) (text : Text) (i : Nat) : Error → Prop where
  | character {before after : Text} {c : Char} (split : text = before ++ c :: after)
      (index : i = column + before.length) (blank : Text.isBlank c = false)
      (digit : Text.isDigit c = false) (operator : c ∉ ("+-*/()" : Text)) :
      Fault column text i (.unrecognizedCharacter i [c])
  /-- A run of digits starts here, and its value is greater than that of any literal. -/
  | literal {before digits after : Text} (split : text = before ++ digits ++ after)
      (index : i = column + before.length) (run : Text.IsRun before digits after)
      (great : 2 ^ 63 - 1 < Text.value digits) :
      Fault column text i (.integerLiteralOverflow i digits (2 ^ 63 - 1))

variable {column i : Nat} {text front rest : Text} {error other : Error}

lemma Fault.le_index (h : Fault column text i error) : column ≤ i := by
  cases h <;> omega

/-- What stands at a fault: no blank and no operator, and if it is a digit then the first of its
run. -/
lemma Fault.of_getElem? (h : Fault column text i error) {c : Char}
    (hc : text[i - column]? = some c) :
    Text.isBlank c = false ∧ c ∉ operatorSymbols ∧
      (Text.isDigit c = true → ∀ k d, k + 1 = i - column → text[k]? = some d →
        Text.isDigit d = false) := by
  cases h with
  | @character before after b split index blank digit operator =>
    have hi : i - column = before.length := by omega
    obtain rfl : b = c := by simpa [split, hi] using hc
    exact ⟨blank, operator, fun hd => by simp [digit] at hd⟩
  | @literal before digits after split index run great =>
    have hi : i - column = before.length := by omega
    obtain ⟨b, word, rfl⟩ := List.exists_cons_of_ne_nil run.ne_nil
    obtain rfl : b = c := by simpa [split, hi] using hc
    have hb := run.isDigit b List.mem_cons_self
    refine ⟨?_, fun ho => ?_, fun _ k d hk hd => ?_⟩
    · exact Text.not_isBlank_of_isDigit hb
    · simp [not_isDigit_of_operator ho] at hb
    · exact run.not_isDigit (split ▸ hd) (.inl (by omega))

lemma Fault.unique (h : Fault column text i error) (h' : Fault column text i other) :
    error = other := by
  cases h with
  | character split index blank digit operator =>
    cases h' with
    | character split' index' blank' digit' operator' =>
      obtain ⟨-, hback⟩ := List.append_inj (split.symm.trans split') (by omega)
      obtain ⟨rfl, -⟩ := List.cons_eq_cons.mp hback
      rfl
    | literal split' index' run' great' =>
      simp [run'.isDigit_of_split (split.symm.trans split') (by omega)] at digit
  | literal split index run great =>
    cases h' with
    | character split' index' blank' digit' operator' =>
      simp [run.isDigit_of_split (split'.symm.trans split) (by omega)] at digit'
    | literal split' index' run' great' =>
      rw [split', List.append_assoc, List.append_assoc] at split
      obtain ⟨-, hback⟩ := List.append_inj split (by omega)
      rw [run.eq_takeWhile, run'.eq_takeWhile, hback]

/-- Where nothing is wrong with what stands in front, and no run is parted, the faults are those of
the rest. -/
lemma fault_append_iff
    (hclear : i < column + front.length → ¬ Fault column (front ++ rest) i error)
    (hparts : ∀ c ∈ front.getLast?, Text.isDigit c = true →
      ∀ d ∈ rest.head?, Text.isDigit d = false) :
    Fault column (front ++ rest) i error ↔ Fault (column + front.length) rest i error := by
  constructor
  · intro h
    have hi : column + front.length ≤ i := Nat.le_of_not_lt fun hlt => hclear hlt h
    cases h with
    | @character before after c split index blank digit operator =>
      obtain ⟨before, rfl⟩ : front <+: before := List.prefix_of_prefix_length_le
        (List.prefix_append front rest) (split ▸ List.prefix_append _ _) (by omega)
      rw [List.length_append] at index
      exact .character (by simpa using split) (by omega) blank digit operator
    | @literal before digits after split index run great =>
      obtain ⟨before, rfl⟩ : front <+: before := List.prefix_of_prefix_length_le
        (List.prefix_append front rest)
        (by rw [split, List.append_assoc]; exact List.prefix_append _ _) (by omega)
      rw [List.length_append] at index
      have hsplit : rest = before ++ digits ++ after := by simpa using split
      exact .literal hsplit (by omega) run.of_append_left great
  · intro h
    cases h with
    | character split index blank digit operator =>
      exact .character (by rw [split, List.append_assoc])
        (by rw [index, List.length_append]; omega) blank digit operator
    | @literal before digits after split index run great =>
      have hsplit : front ++ rest = (front ++ before) ++ digits ++ after := by
        rw [split]
        simp only [List.append_assoc]
      refine .literal hsplit (by rw [index, List.length_append]; omega)
        (run.append_left fun hb c hc => ?_) great
      by_contra hd
      refine run.before_ne_nil ?_ hb
      rw [← split]
      exact hparts c hc (eq_true_of_ne_false hd)

/-- A blank or an operator in front is no fault and hides none. -/
lemma fault_cons_iff {c : Char} (hc : Text.isBlank c = true ∨ c ∈ operatorSymbols) :
    Fault column (c :: rest) i error ↔ Fault (column + 1) rest i error := by
  refine @fault_append_iff column i [c] rest error (fun hi h => ?_) fun d hd hdigit => ?_
  · have hget : (c :: rest)[i - column]? = some c := by
      rw [List.length_singleton] at hi
      rw [show i - column = 0 by omega]
      rfl
    obtain ⟨hblank, hop, -⟩ := h.of_getElem? hget
    rcases hc with hc | hc
    · simp [hc] at hblank
    · exact hop hc
  · obtain rfl : c = d := by simpa using hd
    rcases hc with hc | hc
    · simp [Text.not_isDigit_of_isBlank hc] at hdigit
    · simp [not_isDigit_of_operator hc] at hdigit

/-- A run of digits in front is a fault if its value is too great, and it hides none. -/
lemma fault_digits_iff {digits : Text} (run : Text.IsRun [] digits rest) :
    Fault column (digits ++ rest) i error ↔
      (2 ^ 63 - 1 < Text.value digits ∧ i = column ∧
          error = .integerLiteralOverflow column digits (2 ^ 63 - 1)) ∨
        Fault (column + digits.length) rest i error := by
  have hpos : 0 < digits.length := List.length_pos_iff.mpr run.ne_nil
  by_cases hi : i = column
  · subst hi
    have hrest : ¬ Fault (i + digits.length) rest i error := fun h => by
      have := h.le_index
      omega
    constructor
    · intro h
      cases h with
      | @character before after c split index blank digit operator =>
        simp [run.isDigit_of_split split.symm (by rw [List.length_nil]; omega)] at digit
      | @literal before word after split index run' great =>
        obtain rfl : before = [] := List.length_eq_zero_iff.mp (by omega)
        obtain rfl : digits = word := by
          rw [run.eq_takeWhile, run'.eq_takeWhile, split, List.nil_append]
        exact .inl ⟨great, rfl, rfl⟩
    · rintro (⟨great, -, rfl⟩ | h)
      · exact .literal (List.nil_append _).symm rfl run great
      · exact absurd h hrest
  · rw [fault_append_iff (fun hlt h => ?_) fun c hc hd => run.right]
    · simp [hi]
    · -- a digit behind the first one has a digit on its left
      have hle := h.le_index
      have hget : (digits ++ rest)[i - column]? = some digits[i - column] := by
        rw [List.getElem?_append_left (by omega), List.getElem?_eq_getElem]
      obtain ⟨-, -, hleft⟩ := h.of_getElem? hget
      obtain ⟨k, hk⟩ : ∃ k, k + 1 = i - column := ⟨i - column - 1, by omega⟩
      have hprev := hleft (run.isDigit _ (List.getElem_mem _)) k digits[k] hk
        (by rw [List.getElem?_append_left (by omega), List.getElem?_eq_getElem (by omega)])
      simp [run.isDigit _ (List.getElem_mem _)] at hprev

/-! ### The leftmost fault -/

lemma greatestLiteral_lt_iff {n : Nat} : greatestLiteral < n ↔ 2 ^ 63 - 1 < n := by
  unfold greatestLiteral
  omega

/-- An answer of a scan is right about the faults: tokens say that there are none, and an error
tells the leftmost. -/
def RightAbout (column : Nat) (text : Text) : Except Error (List Token) → Prop
  | .ok _ => ∀ i error, ¬ Fault column text i error
  | .error error => ∃ i, Fault column text i error ∧ ∀ j other, Fault column text j other → i ≤ j

lemma rightAbout_congr {later : Nat} {answer : Except Error (List Token)}
    (h : ∀ i error, Fault column text i error ↔ Fault later rest i error) :
    RightAbout column text answer ↔ RightAbout later rest answer := by
  cases answer <;> simp only [RightAbout, h]

/-- The scan keeps right about the faults ahead of it. -/
lemma tokenizeFrom_rightAbout (found : Array Token) (column : Nat) (text : Text) :
    RightAbout column text (tokenizeFrom found column text) := by
  fun_induction tokenizeFrom found column text with
  | case1 found column =>
    intro i error h
    cases h with
    | character split index blank digit operator => simp at split
    | literal split index run great => simp [run.ne_nil] at split
  | case2 found column c rest hc ih =>
    exact (rightAbout_congr fun _ _ => fault_cons_iff (.inl hc)).mpr ih
  | case3 found column c rest hc ho ih =>
    have hmem : c ∈ operatorSymbols := List.contains_iff_mem.mp ho
    exact (rightAbout_congr fun _ _ => fault_cons_iff (.inr hmem)).mpr ih
  | case4 found column c rest hb ho hd digits error hl =>
    -- the run is at fault itself, and there is no place ahead of its first digit
    have hrun : Text.IsRun [] digits (rest.dropWhile Text.isDigit) := Text.isRun_takeWhile hd rest
    rw [literal_eq hrun.isDigit] at hl
    split at hl
    next hgreat =>
      cases hl
      rw [show c :: rest = digits ++ _ from Text.cons_eq_append_dropWhile c rest]
      exact ⟨column,
        (fault_digits_iff hrun).mpr (.inl ⟨greatestLiteral_lt_iff.mp hgreat, rfl, rfl⟩),
        fun j other h => h.le_index⟩
    next => cases hl
  | case5 found column c rest hb ho hd digits token hl ih =>
    have hrun : Text.IsRun [] digits (rest.dropWhile Text.isDigit) := Text.isRun_takeWhile hd rest
    rw [literal_eq hrun.isDigit] at hl
    split at hl
    next => cases hl
    next hfits =>
      rw [show c :: rest = digits ++ _ from Text.cons_eq_append_dropWhile c rest]
      refine (rightAbout_congr fun _ _ => ?_).mpr ih
      rw [fault_digits_iff hrun, or_iff_right]
      exact fun h => hfits (greatestLiteral_lt_iff.mpr h.1)
  | case6 found column c rest hb ho hd =>
    refine ⟨column, .character (List.nil_append _).symm rfl ?_ ?_ ?_, fun j other h => h.le_index⟩
    · simpa using hb
    · simpa using hd
    · exact fun hc => ho (List.contains_iff_mem.mpr hc)

/-- **The leftmost fault.** A text has tokens just if it has no fault, and the scan of any other
text ends with the error of the fault that is leftmost. -/
theorem tokenize_leftmost_fault (source : Text) :
    ((∃ tokens, tokenize source = .ok tokens) ↔ ∀ i error, ¬ Fault 0 source i error) ∧
      ∀ error, tokenize source = .error error ↔
        ∃ i, Fault 0 source i error ∧ ∀ j other, Fault 0 source j other → i ≤ j := by
  have hright := tokenizeFrom_rightAbout #[] 0 source
  rw [← tokenize] at hright
  cases ht : tokenize source with
  | ok tokens =>
    rw [ht] at hright
    refine ⟨iff_of_true ⟨tokens, rfl⟩ hright, fun error => iff_of_false (by simp) ?_⟩
    rintro ⟨i, h, -⟩
    exact hright i error h
  | error error =>
    rw [ht] at hright
    obtain ⟨i, h, hleast⟩ := hright
    refine ⟨iff_of_false (by simp) fun hnone => hnone i error h, fun other => ⟨?_, ?_⟩⟩
    · intro he
      cases he
      exact ⟨i, h, hleast⟩
    · rintro ⟨j, h', hleast'⟩
      obtain rfl : i = j := Nat.le_antisymm (hleast j other h') (hleast' i error h)
      rw [h.unique h']

end Token

end ArithAsm
