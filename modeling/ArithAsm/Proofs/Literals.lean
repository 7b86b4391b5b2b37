import ArithAsm.Proofs.Faults
import ArithAsm.Token.Scanner

/-!
Reading the literal at a cursor, wherever that stands. The whole run of digits is taken, and it is
refused just if its value is too great. The length is looked at before the value, so only the value
of a short word is ever needed, however long the run is.
-/

namespace ArithAsm

namespace Text

/-- The run of digits that starts at a column, empty if there is none. -/
def runAt (text : Text) (column : Nat) : Text := (text.drop column).takeWhile isDigit

lemma isDigit_of_mem_runAt (text : Text) (column : Nat) :
    ∀ c ∈ text.runAt column, isDigit c = true :=
  List.all_eq_true.mp List.all_takeWhile

lemma slice_add (text : Text) (column length : Nat) :
    slice text column (column + length) = (text.drop column).take length := by
  have hfirst : offset text column = column := if_neg (by omega)
  have hlast : offset text (column + length) = column + length := if_neg (by omega)
  have hlength : ((column : Int) + length).toNat - column = length := by omega
  simp only [slice, hfirst, hlast, Int.toNat_natCast, hlength]

lemma slice_runAt (text : Text) (column : Nat) :
    slice text column (column + (text.runAt column).length) = text.runAt column := by
  rw [slice_add]
  exact (List.prefix_iff_eq_take.mp (List.takeWhile_prefix _)).symm

end Text

namespace Token

lemma digitsEnd_eq (text : Text) (column : Nat) :
    digitsEnd text column = .ok (column + (text.runAt column).length) := by
  unfold digitsEnd walk
  split
  next hend =>
    have hnone : text.runAt column = [] := by
      rw [Text.runAt, List.drop_eq_nil_of_le (by omega), List.takeWhile_nil]
    rw [hnone]
    simp
  next hinside =>
    have honward : Text.onward? text column = some (text.drop column) := by
      rw [Text.onward?, if_pos (Int.natCast_nonneg column), Int.toNat_natCast]
    simp only [honward, Text.runAt]

namespace Scan

lemma run_ofDefect_ok {α : Type} (a : α) (scanner : Scanner) :
    (ofDefect (.ok a)).run scanner = .ok a scanner := rfl

/-! ### Only short words have their value told -/

lemma literalBy_congr {m : Type → Type} [Monad m] {convert other : Text → m Nat}
    (h : ∀ word : Text, word.length ≤ 19 → convert word = other word) (refuse : Error → m Token)
    (column : Int) (digits : Text) :
    literalBy refuse convert column digits = literalBy refuse other column digits := by
  rw [literalBy, literalBy, length_greatestLiteral]
  by_cases hlong : 19 < (significant digits).length
  · rw [if_pos hlong, if_pos hlong]
  · rw [if_neg hlong, if_neg hlong, h _ (Nat.le_of_not_lt hlong)]

lemma integerBy_of_short {convert : Text → Scan Nat}
    (h : ∀ word : Text, word.length ≤ 19 → convert word = pure (Text.value word)) :
    integerBy convert = integer := by
  simp only [integer, integerBy, literalBy_congr h]

/-! ### The whole run is taken -/

variable (source : Text) (column : Nat)

lemma run_integerBy (convert : Text → Scan Nat) :
    (integerBy convert).run ⟨source, column⟩ =
      match (literalBy (fun error => throw (.error error)) convert column
          (source.runAt column)).run ⟨source, column⟩ with
      | .error failure scanner => .error failure scanner
      | .ok token scanner =>
        .ok token { scanner with column := column + (source.runAt column).length } := by
  unfold integerBy
  rw [EStateM.run_bind, EStateM.run_get]
  dsimp only
  rw [EStateM.run_bind, digitsEnd_eq, run_ofDefect_ok]
  dsimp only
  rw [Text.slice_runAt, EStateM.run_bind]
  cases EStateM.run (literalBy _ convert column (source.runAt column)) ⟨source, column⟩ <;> rfl

lemma run_integer :
    integer.run ⟨source, column⟩ =
      if 2 ^ 63 - 1 < Text.value (source.runAt column) then
        .error (.error (.integerLiteralOverflow column (source.runAt column) (2 ^ 63 - 1)))
          ⟨source, column⟩
      else .ok ⟨.integer, source.runAt column, .number (Text.value (source.runAt column)), column⟩
        ⟨source, column + (source.runAt column).length⟩ := by
  rw [integer, run_integerBy, literalBy_pure]
  simp only [exceeds_iff (Text.isDigit_of_mem_runAt source column)]
  simp only [greatestLiteral_lt_iff]
  split_ifs <;> rfl

/-- **The literal at a cursor.** The step takes the run of digits that starts at the cursor, which
may be empty, and tells its value. It moves the cursor over the run, unless the value is greater than
that of any signed word of 64 bits: then it fails there, with the run, and leaves the cursor where it
is. So it does with any other conversion that is right about words of nineteen characters at most,
whatever that makes of longer ones; and the conversion is asked about the run, without the zeros in
front, if it is no longer than that. -/
theorem integer_takes_run :
    integer.run ⟨source, column⟩ =
      (if 2 ^ 63 - 1 < Text.value (source.runAt column) then
        .error (.error (.integerLiteralOverflow column (source.runAt column) (2 ^ 63 - 1)))
          ⟨source, column⟩
      else .ok ⟨.integer, source.runAt column, .number (Text.value (source.runAt column)), column⟩
        ⟨source, column + (source.runAt column).length⟩) ∧
    (∀ convert : Text → Scan Nat,
      (∀ word : Text, word.length ≤ 19 → convert word = pure (Text.value word)) →
        (integerBy convert).run ⟨source, column⟩ = integer.run ⟨source, column⟩) ∧
    ∀ failure, (significant (source.runAt column)).length ≤ 19 →
      (integerBy fun _ => throw failure).run ⟨source, column⟩ =
        .error failure ⟨source, column⟩ := by
  refine ⟨run_integer source column, fun convert hconvert => by rw [integerBy_of_short hconvert],
    fun failure hshort => ?_⟩
  rw [run_integerBy, literalBy, length_greatestLiteral, if_neg (Nat.not_lt.mpr hshort)]
  rfl

/-- A conversion that refuses every word longer than nineteen characters does as well. -/
theorem integer_takes_run_long :
    (integerBy fun word =>
        if word.length ≤ 19 then pure (Text.value word) else throw (.defect .cursorOutside)).run
        ⟨"1+0099999999999999999999*2", 2⟩ =
      .error (.error (.integerLiteralOverflow 2 "0099999999999999999999" (2 ^ 63 - 1)))
        ⟨"1+0099999999999999999999*2", 2⟩ := by
  obtain ⟨hrun, hconvert, -⟩ := integer_takes_run "1+0099999999999999999999*2" 2
  have hdigits : Text.runAt "1+0099999999999999999999*2" 2 = "0099999999999999999999" := by decide
  rw [hdigits, if_pos (by decide)] at hrun
  exact (hconvert _ fun word hshort => if_pos hshort).trans hrun

end Scan

end Token

end ArithAsm
