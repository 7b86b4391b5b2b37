import ArithAsm.Expr.Outline
import ArithAsm.Proofs.Listing

/-!
The outline of an expression. The trees that are pending are written one behind the other, so the
outline is the lines of the tree by recursion, two of them for each literal but one. Each line tells
what its node is, and the lines of one tree never begin with those of another; so an outline belongs
to one expression only.
-/

namespace ArithAsm

namespace Text

lemma splitOn_intercalate {lines : List Text} (hne : lines ≠ [])
    (h : ∀ line ∈ lines, '\n' ∉ line) :
    splitOn '\n' (List.intercalate ("\n" : Text) lines) = lines := by
  induction lines with
  | nil => exact absurd rfl hne
  | cons line lines ih =>
    obtain ⟨hline, hlines⟩ := List.forall_mem_cons.mp h
    cases lines with
    | nil =>
      rw [List.intercalate_singleton]
      exact splitOn_eq_singleton hline
    | cons next lines =>
      rw [List.intercalate_cons_cons, List.append_assoc]
      exact (splitOn_append hline _).trans (congrArg _ (ih (List.cons_ne_nil _ _) hlines))

lemma ofInt_injective {m n : Int} (h : ofInt m = ofInt n) : m = n := by
  have hread := congrArg readInt? h
  rw [readInt?_ofInt, readInt?_ofInt] at hread
  exact Option.some.inj hread

end Text

def Operation.label (operation : Operation) : Text :=
  operation.name ++ " (" ++ operation.symbol ++ ")"

lemma Operation.label_injective {operation other : Operation}
    (h : operation.label = other.label) : operation = other := by
  revert h
  cases operation <;> cases other <;> decide

namespace Expr

def literalLabel (value : Int) : Text := literalName ++ " " ++ Text.ofInt value

/-- The lines of a tree whose root is `depth` levels deep: that of the root, and behind it those of
its operands, one level deeper. A leaf that is no expression has none. -/
def linesFrom (depth : Nat) : Expr → List Text
  | .literal value => [outlineLine depth (literalLabel value)]
  | .binary operation left right =>
    outlineLine depth operation.label ::
      (left.linesFrom (depth + 1) ++ right.linesFrom (depth + 1))
  | .foreign _ => []

def Numeric : Expr → Prop
  | .literal _ => True
  | .binary _ left right => left.Numeric ∧ right.Numeric
  | .foreign _ => False

/-! ### Lines by recursion -/

/-- **Pending trees are recursion.** -/
theorem outlineFrom_eq (written : Array Text) (pending : List (Nat × Expr)) :
    (outlineFrom written pending).toList =
      written.toList ++ pending.flatMap fun (depth, expr) => expr.linesFrom depth := by
  fun_induction outlineFrom written pending with
  | case1 written => simp
  | case2 written depth value pending ih =>
    rw [ih, List.flatMap_cons, Array.toList_push, List.append_assoc]
    rfl
  | case3 written depth operation left right pending label ih =>
    rw [ih, List.flatMap_cons, List.flatMap_cons, List.flatMap_cons, Array.toList_push,
      List.append_assoc, ← List.append_assoc (left.linesFrom (depth + 1))]
    rfl
  | case4 written depth shown pending ih => exact ih

lemma outlineLines_eq (expr : Expr) : expr.outlineLines = expr.linesFrom 0 := by
  simp [outlineLines, outlineFrom_eq]

/-! ### Lines tell the tree -/

variable {expr other : Expr} {depth : Nat}

lemma outlineLine_injective {label otherLabel : Text}
    (h : outlineLine depth label = outlineLine depth otherLabel) : label = otherLabel :=
  List.append_cancel_left h

lemma literalLabel_injective {m n : Int} (h : literalLabel m = literalLabel n) : m = n :=
  Text.ofInt_injective (List.append_cancel_left h)

lemma literalLabel_ne (value : Int) (operation : Operation) :
    literalLabel value ≠ operation.label := by
  intro h
  have hhead := congrArg List.head? h
  cases operation <;> cases hhead

/-- The lines of one tree do not begin with those of another. -/
lemma linesFrom_append_inj (ht : expr.Numeric) (hu : other.Numeric) {rest otherRest : List Text}
    (h : expr.linesFrom depth ++ rest = other.linesFrom depth ++ otherRest) :
    expr = other ∧ rest = otherRest := by
  induction expr generalizing other depth rest otherRest with
  | foreign shown => exact ht.elim
  | literal value =>
    cases other with
    | foreign shown => exact hu.elim
    | literal otherValue =>
      obtain ⟨hline, hrest⟩ := List.cons_eq_cons.mp h
      rw [literalLabel_injective (outlineLine_injective hline)]
      exact ⟨rfl, hrest⟩
    | binary operation left right =>
      have hline := List.head_eq_of_cons_eq h
      exact absurd (outlineLine_injective hline) (literalLabel_ne value operation)
  | binary operation left right ihl ihr =>
    cases other with
    | foreign shown => exact hu.elim
    | literal otherValue =>
      have hline := List.head_eq_of_cons_eq h
      exact absurd (outlineLine_injective hline).symm (literalLabel_ne otherValue operation)
    | binary otherOperation otherLeft otherRight =>
      obtain ⟨hline, hlines⟩ := List.cons_eq_cons.mp h
      rw [List.append_eq, List.append_eq, List.append_assoc, List.append_assoc] at hlines
      obtain ⟨rfl, hbehind⟩ := ihl ht.1 hu.1 hlines
      obtain ⟨rfl, hrest⟩ := ihr ht.2 hu.2 hbehind
      rw [Operation.label_injective (outlineLine_injective hline)]
      exact ⟨rfl, hrest⟩

lemma newline_not_mem_outlineLine {label : Text} (h : '\n' ∉ label) :
    '\n' ∉ outlineLine depth label := by
  simpa [outlineLine] using h

lemma newline_not_mem_linesFrom : ∀ line ∈ expr.linesFrom depth, '\n' ∉ line := by
  induction expr generalizing depth with
  | foreign shown => simp [linesFrom]
  | literal value =>
    rw [linesFrom, List.forall_mem_singleton]
    refine newline_not_mem_outlineLine ?_
    rw [literalLabel, List.mem_append, not_or]
    exact ⟨by decide, (Text.isWord_ofInt value).newline_not_mem⟩
  | binary operation left right ihl ihr =>
    rw [linesFrom, List.forall_mem_cons, List.forall_mem_append]
    refine ⟨newline_not_mem_outlineLine ?_, ihl, ihr⟩
    cases operation <;> decide

lemma linesFrom_ne_nil (h : expr.Numeric) : expr.linesFrom depth ≠ [] := by
  cases expr with
  | foreign shown => exact h.elim
  | literal value => exact List.cons_ne_nil _ _
  | binary operation left right => exact List.cons_ne_nil _ _

lemma splitOn_outline (h : expr.Numeric) : Text.splitOn '\n' expr.outline = expr.linesFrom 0 := by
  rw [outline, outlineLines_eq,
    Text.splitOn_intercalate (linesFrom_ne_nil h) newline_not_mem_linesFrom]

/-- **An outline belongs to one expression** of literals. -/
theorem outline_injective (ht : expr.Numeric) (hu : other.Numeric)
    (h : expr.outline = other.outline) : expr = other := by
  have hlines : expr.linesFrom 0 = other.linesFrom 0 := by
    rw [← splitOn_outline ht, h, splitOn_outline hu]
  exact (linesFrom_append_inj ht hu (congrArg (· ++ []) hlines)).1

/-! ### The number of lines -/

def literalCount : Expr → Nat
  | .literal _ => 1
  | .binary _ left right => left.literalCount + right.literalCount
  | .foreign _ => 0

/-- Each operation joins two trees, so there is one operation less than there are literals. -/
lemma length_linesFrom (h : expr.Numeric) :
    (expr.linesFrom depth).length + 1 = 2 * expr.literalCount := by
  induction expr generalizing depth with
  | foreign shown => exact h.elim
  | literal value => rfl
  | binary operation left right ihl ihr =>
    have hleft := @ihl (depth + 1) h.1
    have hright := @ihr (depth + 1) h.2
    simp only [linesFrom, literalCount, List.length_cons, List.length_append]
    omega

/-- **An outline is the lines of the tree**, the root at the margin, with a line break between each
two. A tree of `n` literals has `2 n - 1` of them. -/
theorem outline_eq_lines (expr : Expr) :
    expr.outline = List.intercalate ("\n" : Text) (expr.linesFrom 0) ∧
      (expr.Numeric → Text.splitOn '\n' expr.outline = expr.linesFrom 0 ∧
        (Text.splitOn '\n' expr.outline).length = 2 * expr.literalCount - 1) := by
  refine ⟨congrArg _ expr.outlineLines_eq, fun h => ?_⟩
  have hlength := @length_linesFrom expr 0 h
  rw [splitOn_outline h]
  exact ⟨rfl, by omega⟩

theorem outline_eq_lines_differences :
    let expr := binary .subtract (.literal 7) (.binary .subtract (.literal (-12)) (.literal 0))
    expr.Numeric ∧ expr.linesFrom 0 = ["SUBTRACT (-)".toList, "  NUMBER_LITERAL 7".toList,
      "  SUBTRACT (-)".toList, "    NUMBER_LITERAL -12".toList, "    NUMBER_LITERAL 0".toList] ∧
    Text.splitOn '\n' expr.outline = expr.linesFrom 0 ∧
    (Text.splitOn '\n' expr.outline).length = 5 :=
  ⟨⟨trivial, trivial, trivial⟩, by decide +kernel,
    (outline_eq_lines _).2 ⟨trivial, trivial, trivial⟩⟩

end Expr

end ArithAsm
