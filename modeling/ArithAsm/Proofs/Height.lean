import ArithAsm.Proofs.Compilation
import ArithAsm.Proofs.Nesting

/-!
How high the stack of a program grows. A push lifts it by a cell and a pop lowers it again. The
code of an expression is as high as that of its left operand, or as that of its right operand over
the one cell of the left value; so a chain costs nothing however long it is, and each open
parenthesis costs two cells. With a hundred of these the stack is never higher than 203 cells.
-/

namespace ArithAsm

open Grammar

/-! ### Height -/

def Instruction.lift : Instruction → Int
  | .pushNumber _ | .push _ => 1
  | .pop _ => -1
  | .move .. | .add .. | .subtract .. | .multiply .. | .extendSign | .divide _ | .ret => 0

/-- By how many cells code lifts the stack. -/
def height : List Instruction → Int
  | [] => 0
  | instruction :: code => instruction.lift + height code

/-- On the way through the code the stack is never lower than `low` and never higher than `high`,
counted from where it starts. -/
def StaysWithin (low high : Int) (code : List Instruction) : Prop :=
  ∀ front, front <+: code → low ≤ height front ∧ height front ≤ high

section Height

variable {low high : Int} {instruction : Instruction} {code front back : List Instruction}

@[simp] lemma height_nil : height [] = 0 := rfl

@[simp] lemma height_cons : height (instruction :: code) = instruction.lift + height code := rfl

lemma height_append : height (front ++ back) = height front + height back := by
  induction front with
  | nil => simp
  | cons instruction front ih => simp [ih, Int.add_assoc]

@[simp] lemma staysWithin_nil : StaysWithin low high [] ↔ low ≤ 0 ∧ 0 ≤ high := by
  simp [StaysWithin]

@[simp] lemma staysWithin_cons : StaysWithin low high (instruction :: code) ↔
    (low ≤ 0 ∧ 0 ≤ high) ∧ StaysWithin (low - instruction.lift) (high - instruction.lift) code := by
  constructor
  · refine fun h => ⟨h [] List.nil_prefix, fun front hf => ?_⟩
    have := h (instruction :: front) (by simpa using hf)
    rw [height_cons] at this
    omega
  · rintro ⟨h0, h⟩ front hf
    rcases front with _ | ⟨head, front⟩
    · exact h0
    · obtain ⟨rfl, hfront⟩ := List.cons_prefix_cons.mp hf
      have := h front hfront
      rw [height_cons]
      omega

lemma staysWithin_append : StaysWithin low high (front ++ back) ↔
    StaysWithin low high front ∧ StaysWithin (low - height front) (high - height front) back := by
  induction front generalizing low high with
  | nil =>
    have h0 : StaysWithin low high back → low ≤ 0 ∧ 0 ≤ high := fun h => h [] List.nil_prefix
    simpa using h0
  | cons instruction front ih =>
    rw [List.cons_append, staysWithin_cons, staysWithin_cons, ih, height_cons, Int.sub_sub,
      Int.sub_sub]
    exact and_assoc.symm

end Height

namespace Machine

variable {machine next : Machine} {instruction : Instruction} {code : List Instruction}

/-- A step lifts the stack of the machine as the instruction says. -/
lemma length_of_step (h : step instruction machine = .running next) :
    (next.stack.length : Int) = machine.stack.length + instruction.lift := by
  unfold step at h
  split at h
  · cases h
  cases instruction with
  | pushNumber _ | push _ =>
    cases h
    simp [push, Instruction.lift]
  | pop register =>
    rcases hs : machine.stack with _ | ⟨word, stack⟩
    · rw [hs] at h
      cases h
    · rw [hs] at h
      cases h
      simp only [put, Instruction.lift, List.length_cons]
      omega
  | move _ _ | add _ _ | subtract _ _ | multiply _ _ | extendSign =>
    cases h
    simp [put, Instruction.lift]
  | divide register =>
    simp only [divide] at h
    split at h
    next => cases h
    next =>
      cases h
      simp [put, Instruction.lift]
  | ret => cases h

/-- **Height is what a run measures.** -/
theorem length_of_run (h : run code machine = .running next) :
    (next.stack.length : Int) = machine.stack.length + height code := by
  induction code generalizing machine with
  | nil =>
    cases h
    simp
  | cons instruction code ih =>
    rw [run] at h
    cases hs : step instruction machine with
    | running middle =>
      rw [hs] at h
      have hstep := length_of_step hs
      have hrest := ih h
      rw [height_cons]
      omega
    | returned _ | faulted | stuck =>
      rw [hs] at h
      cases h

end Machine

/-! ### The cells that an expression takes -/

namespace Expr

/-- The cells that the code of an expression takes at most. The right operand is computed over the
value of the left one. -/
def cells : Expr → Nat
  | .literal _ => 1
  | .binary _ left right => max left.cells (right.cells + 1)
  | .foreign _ => 0

lemma cells_pos {expr : Expr} (h : expr.Encodable) : 0 < expr.cells := by
  cases expr with
  | literal value => exact Nat.one_pos
  | binary operation left right => 
    have : 0 < right.cells + 1 := Nat.succ_pos _
    exact Nat.lt_of_lt_of_le this (Nat.le_max_right _ _)
  | foreign shown => exact h.elim

lemma height_pushCode (n : Int) : height (Emit.pushCode n) = 1 := by
  rw [Emit.pushCode]
  split <;> rfl

lemma height_performCode (operation : Operation) : height (Emit.performCode operation) = -1 := by
  cases operation <;> rfl

lemma height_code {expr : Expr} (h : expr.Encodable) : height expr.code = 1 := by
  induction expr with
  | literal value => exact height_pushCode value
  | foreign shown => exact h.elim
  | binary operation left right ihl ihr =>
    rw [code, height_append, height_append, ihl h.1, ihr h.2, height_performCode]
    rfl

variable {low high : Int}

lemma staysWithin_pushCode (n : Int) :
    StaysWithin low high (Emit.pushCode n) ↔ low ≤ 0 ∧ 1 ≤ high := by
  rw [Emit.pushCode]
  split <;>
  · simp only [staysWithin_cons, staysWithin_nil, Instruction.lift]
    omega

lemma staysWithin_performCode (operation : Operation) :
    StaysWithin low high (Emit.performCode operation) ↔ low ≤ -2 ∧ 0 ≤ high := by
  cases operation <;>
  · simp only [Emit.performCode, Emit.operationCode, List.cons_append, List.nil_append,
      staysWithin_cons, staysWithin_nil, Instruction.lift]
    omega

/-- **The code of an expression** stays between the height it starts at and the cells that it takes,
and it reaches both. -/
theorem staysWithin_code {expr : Expr} (h : expr.Encodable) :
    StaysWithin low high expr.code ↔ low ≤ 0 ∧ expr.cells ≤ high := by
  induction expr generalizing low high with
  | literal value => exact staysWithin_pushCode value
  | foreign shown => exact h.elim
  | binary operation left right ihl ihr =>
    have hright := cells_pos h.2
    rw [code, staysWithin_append, staysWithin_append, height_append, ihl h.1, ihr h.2,
      staysWithin_performCode, height_code h.1, height_code h.2, cells]
    omega

lemma staysWithin_programCode {expr : Expr} (h : expr.Encodable) :
    StaysWithin low high expr.programCode ↔ low ≤ 0 ∧ expr.cells ≤ high := by
  have hcells := cells_pos h
  rw [programCode, staysWithin_append, staysWithin_code h, height_code h]
  simp only [staysWithin_cons, staysWithin_nil, Instruction.lift]
  omega

end Expr

/-! ### The cells that a phrase takes -/

/-- The cells that a chain takes where no parenthesis may be opened: one for its operand, and one
for each level of operators whose left value may lie below. -/
def Level.cells : Level → Nat
  | .sum => 3
  | .product => 2

namespace Grammar

/-- With `limit` parentheses open at once, two cells for each are enough over those of the phrase;
and whatever is joined to a chain, the chain has enough with what its left part has. -/
def Phrase.FitsCells (limit : Int) : (phrase : Phrase) → phrase.Tree → Prop
  | .rest level, join => ∀ left : Expr, left.cells ≤ 2 * limit + level.cells →
      (join left).cells ≤ 2 * limit + level.cells
  | .primary, tree => (Expr.cells tree : Int) ≤ 2 * limit + 1
  | .operand level, tree => (Expr.cells tree : Int) + 1 ≤ 2 * limit + level.cells
  | .chain level, tree => (Expr.cells tree : Int) ≤ 2 * limit + level.cells

/-- **Parentheses bound the cells**, and the length of a chain does not. -/
theorem Derivation.fitsCells {phrase : Phrase} (d : Derivation phrase) {limit : Int}
    (h : OpensAtMost limit d.yield) : phrase.FitsCells limit d.tree := by
  induction d generalizing limit with
  | number token value hk hv =>
    have := opensAtMost_number.mp h
    simp only [Phrase.FitsCells, tree, Expr.cells]
    omega
  | group opening inner closing ho hc ih =>
    have hinner := ih (opensAtMost_group.mp h)
    simp only [Phrase.FitsCells, Level.cells] at hinner
    simp only [Phrase.FitsCells, tree]
    omega
  | product inner ih =>
    have hinner := ih h
    simp only [Phrase.FitsCells, Level.cells] at hinner
    simp only [Phrase.FitsCells, Level.cells, tree]
    omega
  | primary inner ih =>
    have hinner := ih h
    simp only [Phrase.FitsCells] at hinner
    simp only [Phrase.FitsCells, Level.cells, tree]
    omega
  | chain first rest ihf ihr =>
    -- the first operand is the left part that the rest of the chain is joined to
    obtain ⟨hfirst, hrest⟩ := opensAtMost_chain.mp h
    have hoperand := ihf hfirst
    simp only [Phrase.FitsCells] at hoperand
    exact ihr hrest first.tree (by omega)
  | done => exact fun left hl => hl
  | join operation sign operand rest mem hs iho ihr =>
    obtain ⟨hoperand, hrest⟩ := opensAtMost_join.mp h
    have hright := iho hoperand
    simp only [Phrase.FitsCells] at hright
    refine fun left hl => ihr hrest _ ?_
    simp only [Expr.cells]
    omega

end Grammar

lemma Expr.cells_le_of_parse {tokens : List Token} {expr : Expr}
    (hend : ∃ last ∈ tokens.getLast?, last.isEnd = true) (h : parse tokens = .ok expr) :
    expr.cells ≤ 203 := by
  obtain ⟨d, -, hopens, rfl⟩ := (parse_eq_ok_iff hend).mp h
  have hfits := d.fitsCells hopens
  simp only [Phrase.FitsCells, Level.cells, Reader.greatestDepth] at hfits
  omega

/-! ### The highest stack -/

namespace Grammar.Derivation

def one (column : Nat) : Derivation .primary :=
  .number ⟨.integer, "1", .number 1, column⟩ 1 rfl rfl

/-- A sum from this column on, whose last operand is a product that ends with `last`. -/
def sumWith (column : Nat) (last : Derivation .primary) : Derivation (.chain .sum) :=
  .chain (.product (.chain (.primary (one column)) .done))
    (.join .add (Token.operator (column + 1 : Nat) '+')
      (.product (.chain (.primary (one (column + 2)))
        (.join .multiply (Token.operator (column + 3 : Nat) '*') (.primary last) .done (by decide)
          rfl)))
      .done (by decide) rfl)

/-- Sums in parentheses, each the last primary of the one around it. -/
def nested : Nat → Nat → Derivation (.chain .sum)
  | 0, column => sumWith column (one (column + 4))
  | depth + 1, column =>
    sumWith column (.group (Token.operator (column + 4 : Nat) '(') (nested depth (column + 5))
      (Token.operator (column + 6 * depth + 10 : Nat) ')') rfl rfl)

lemma cells_sumWith (column : Nat) (last : Derivation .primary) :
    (sumWith column last).tree.cells = max 1 (max 1 (last.tree.cells + 1) + 1) := rfl

lemma cells_nested (depth column : Nat) :
    (nested depth column).tree.cells = 2 * depth + 3 := by
  induction depth generalizing column with
  | zero => rfl
  | succ depth ih =>
    have hgroup := ih (column + 5)
    rw [nested, cells_sumWith]
    simp only [tree, hgroup]
    omega

lemma opensAtMost_sumWith {limit : Int} {column : Nat} {last : Derivation .primary}
    (h : OpensAtMost limit last.yield) : OpensAtMost limit (sumWith column last).yield := by
  have hone (column : Nat) : OpensAtMost limit (one column).yield :=
    opensAtMost_number.mpr h.nonneg
  have hnil : OpensAtMost limit [] := opensAtMost_nil.mpr h.nonneg
  refine opensAtMost_chain.mpr ⟨opensAtMost_chain.mpr ⟨hone _, hnil⟩, ?_⟩
  refine opensAtMost_join.mpr ⟨opensAtMost_chain.mpr ⟨hone _, ?_⟩, hnil⟩
  exact opensAtMost_join.mpr ⟨h, hnil⟩

lemma opensAtMost_nested (depth column : Nat) :
    OpensAtMost depth (nested depth column).yield := by
  induction depth generalizing column with
  | zero => exact opensAtMost_sumWith (opensAtMost_number.mpr (Int.le_refl _))
  | succ depth ih =>
    refine opensAtMost_sumWith (opensAtMost_group.mpr ?_)
    rw [Int.natCast_succ, Int.add_sub_cancel]
    exact ih _

end Grammar.Derivation

def Text.nested : Nat → Text
  | 0 => "1+1*1"
  | depth + 1 => "1+1*(" ++ nested depth ++ ")"

namespace Token

variable {column : Nat} {text : Text} {tokens : List Token}

lemma Scans.not_isDigit_head? {c : Char} (h : Text.isDigit c = false) :
    ∀ d ∈ (c :: text).head?, Text.isDigit d = false := by
  simpa using h

lemma Scans.one (h : Scans (column + 1) text tokens)
    (hmax : ∀ c ∈ text.head?, Text.isDigit c = false) :
    Scans column ('1' :: text) ((Derivation.one column).yield ++ tokens) := by
  have hdigits : ∀ c ∈ ['1'], Text.isDigit c = true := List.forall_mem_singleton.mpr rfl
  exact @Scans.literal column ['1'] text tokens (List.cons_ne_nil _ _) hdigits hmax (by decide) h

lemma Scans.sumWith {last : Derivation .primary}
    (h : Scans (column + 4) text (last.yield ++ tokens)) :
    Scans column ('1' :: '+' :: '1' :: '*' :: text)
      ((Derivation.sumWith column last).yield ++ tokens) := by
  have hproduct : Scans (column + 2) ('1' :: '*' :: text)
      ((Derivation.one (column + 2)).yield ++
        Token.operator (column + 3 : Nat) '*' :: (last.yield ++ tokens)) :=
    .one (.operator (by decide) h) (not_isDigit_head? rfl)
  have hsum : Scans column ('1' :: '+' :: '1' :: '*' :: text) _ :=
    .one (.operator (by decide) hproduct) (not_isDigit_head? rfl)
  simpa [Derivation.sumWith, Derivation.yield] using hsum

lemma Scans.nested (depth : Nat) (h : Scans (column + 6 * depth + 5) text tokens)
    (hmax : ∀ c ∈ text.head?, Text.isDigit c = false) :
    Scans column (Text.nested depth ++ text) ((Derivation.nested depth column).yield ++ tokens) := by
  induction depth generalizing column text tokens with
  | zero => exact .sumWith (.one h hmax)
  | succ depth ih =>
    have hclose : Scans (column + 5 + 6 * depth + 5) (')' :: text)
        (Token.operator (column + 6 * depth + 10 : Nat) ')' :: tokens) := by
      have hcolumn : column + 6 * depth + 10 = column + 5 + 6 * depth + 5 := by omega
      rw [hcolumn]
      refine .operator (by decide) ?_
      rwa [show column + 5 + 6 * depth + 5 + 1 = column + 6 * (depth + 1) + 5 by omega]
    have hgroup : Scans (column + 4) ('(' :: (Text.nested depth ++ ')' :: text)) _ :=
      .operator (by decide) (ih hclose (not_isDigit_head? rfl))
    have hall := @Scans.sumWith column _ tokens (.group (Token.operator (column + 4 : Nat) '(')
      (.nested depth (column + 5)) (Token.operator (column + 6 * depth + 10 : Nat) ')') rfl rfl)
      (by simpa [Derivation.yield] using hgroup)
    have htext : Text.nested (depth + 1) ++ text =
        '1' :: '+' :: '1' :: '*' :: '(' :: (Text.nested depth ++ ')' :: text) := by
      show "1+1*(" ++ Text.nested depth ++ ")" ++ text = _
      rw [List.append_assoc, List.append_assoc]
      rfl
    rw [htext]
    exact hall

end Token

lemma parse_nested {depth : Nat} (h : depth ≤ Reader.greatestDepth) :
    ∃ tokens, Token.tokenize (Text.nested depth) = .ok tokens ∧
      Expr.parse tokens = .ok (Derivation.nested depth 0).tree := by
  have hscans := @Token.Scans.nested 0 [] _ depth (.finish _) (by simp)
  rw [List.append_nil] at hscans
  refine ⟨_, Token.tokenize_eq_ok_iff.mpr hscans, Expr.parse_of_opensAtMost _ rfl ?_⟩
  intro front hf
  have := Derivation.opensAtMost_nested depth 0 front hf
  omega

/-! ### Programs -/

/-- A program of nested sums reaches the bound. -/
lemma exists_height_eq : ∃ source code front,
    (compile none {} false source).failure = none ∧
      Text.readCode? (compile none {} false source).assembly = some code ∧
      front <+: code ∧ height front = 203 := by
  obtain ⟨tokens, ht, hp⟩ := @parse_nested 100 (Nat.le_refl _)
  have hcode := (spells_of_parse ht hp).encodable
  have hcells := Derivation.cells_nested 100 0
  have hcompile := @compile_of_supported none {} false _ _ _ ht hp (by simp)
  have hread := (readCode?_programLines hcode).1
  have hwithin : StaysWithin 0 203 (Derivation.nested 100 0).tree.programCode :=
    (Expr.staysWithin_programCode hcode).mpr (by omega)
  have hlower : ¬ StaysWithin 0 202 (Derivation.nested 100 0).tree.programCode := by
    rw [Expr.staysWithin_programCode hcode]
    omega
  -- some prefix is what keeps the program from staying one cell lower
  unfold StaysWithin at hlower
  push Not at hlower
  obtain ⟨front, hfront, hhigh⟩ := hlower
  have hbounds := hwithin front hfront
  have hheight := hhigh hbounds.1
  exact ⟨Text.nested 100, _, front, by rw [hcompile], by rw [hcompile, hread], hfront, by omega⟩

/-- **The stack of a program is bounded.** In a source that is accepted, of whatever length, the
code behind the three lines at the margin ends with the pop of the result into `rax` and the return.
On the way through it the stack is never lower than at the start, nor more than 203 cells higher,
and behind that pop it is as high as at the start; on a machine that is what its stack measures.
Some source needs all of the 203 cells. -/
theorem stack_height_bounded :
    (∀ (target : Option Target) (layout : Layout) (traced : Bool) (source : Text),
      (compile target layout traced source).failure = none →
        ∃ body code : List Instruction, code = body ++ [.pop .rax, .ret] ∧
          (compile target layout traced source).assembly =
            Line.program layout (Emit.header layout ++ code.map .instruction) ∧
          (layout = {} →
            Text.readCode? (compile target layout traced source).assembly = some code) ∧
          (∀ front, front <+: code → 0 ≤ height front ∧ height front ≤ 203) ∧
          height (body ++ [.pop .rax]) = 0 ∧
          ∀ (machine next : Machine) (front : List Instruction), front <+: code →
            Machine.run front machine = .running next →
              machine.stack.length ≤ next.stack.length ∧
                next.stack.length ≤ machine.stack.length + 203) ∧
      ∃ source code front, (compile none {} false source).failure = none ∧
        Text.readCode? (compile none {} false source).assembly = some code ∧
        front <+: code ∧ height front = 203 := by
  refine ⟨fun target layout traced source h => ?_, exists_height_eq⟩
  obtain ⟨tokens, expr, ht, hp, hassembly⟩ := exists_of_compiled h
  have hcode := (spells_of_parse ht hp).encodable
  have hcells := Expr.cells_le_of_parse (Token.tokenize_eq_ok_iff.mp ht).exists_last hp
  have hwithin : StaysWithin 0 203 expr.programCode :=
    (Expr.staysWithin_programCode hcode).mpr (by omega)
  refine ⟨expr.code, expr.programCode, rfl, hassembly, ?_, hwithin, ?_,
    fun machine next front hfront hrun => ?_⟩
  · rintro rfl
    rw [hassembly]
    exact (readCode?_programLines hcode).1
  · rw [height_append, Expr.height_code hcode]
    rfl
  · have hbounds := hwithin front hfront
    have hlength := Machine.length_of_run hrun
    omega

theorem stack_height_bounded_chain :
    (compile none {} false "1-2-3-4-5").failure = none ∧ ∃ code,
      Text.readCode? (compile none {} false "1-2-3-4-5").assembly = some code ∧
        ∀ front, front <+: code → 0 ≤ height front ∧ height front ≤ 203 := by
  have haccepted : (compile none {} false "1-2-3-4-5").failure = none := by decide +kernel
  obtain ⟨-, code, -, -, hread, hwithin, -⟩ := stack_height_bounded.1 none {} false _ haccepted
  exact ⟨haccepted, code, hread rfl, hwithin⟩

end ArithAsm
