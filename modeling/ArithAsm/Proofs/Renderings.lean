import ArithAsm.Proofs.Automaton
import ArithAsm.Proofs.Outlines
import ArithAsm.Proofs.Sessions

/-!
Programs as renderings of expressions. Instructions that are carried out on expressions in place of
words put the tree together again that they were written for, and a program text is read as one
list of instructions only. So a program belongs to one expression, as an outline does, and two
sources have the same outline just if they have the same program.
-/

namespace ArithAsm

/-! ### The tree of a program -/

/-- Registers and a stack that hold expressions. -/
structure Builder where
  registers : Register → Expr
  stack : List Expr

namespace Builder

def put (builder : Builder) (register : Register) (expr : Expr) : Builder :=
  { builder with registers := Function.update builder.registers register expr }

def push (builder : Builder) (expr : Expr) : Builder :=
  { builder with stack := expr :: builder.stack }

def join (builder : Builder) (operation : Operation) (register operand : Register) : Builder :=
  builder.put register
    (.binary operation (builder.registers register) (builder.registers operand))

/-- Carries out an instruction. The sign of a dividend adds nothing to the tree. -/
def step (builder : Builder) : Instruction → Builder
  | .pushNumber n => builder.push (.literal n)
  | .push register => builder.push (builder.registers register)
  | .pop register =>
    match builder.stack with
    | [] => builder
    | expr :: stack => { builder with stack }.put register expr
  | .move register n => builder.put register (.literal n)
  | .add register operand => builder.join .add register operand
  | .subtract register operand => builder.join .subtract register operand
  | .multiply register operand => builder.join .multiply register operand
  | .divide register => builder.join .divide .rax register
  | .extendSign | .ret => builder

def run (builder : Builder) (code : List Instruction) : Builder :=
  code.foldl step builder

variable {builder : Builder}

lemma run_append (front behind : List Instruction) :
    builder.run (front ++ behind) = (builder.run front).run behind :=
  List.foldl_append

lemma run_pushCode (n : Int) :
    ∃ registers, builder.run (Emit.pushCode n) = ⟨registers, .literal n :: builder.stack⟩ := by
  unfold Emit.pushCode
  split
  · exact ⟨_, rfl⟩
  · exact ⟨_, rfl⟩

lemma run_performCode (operation : Operation) {left right : Expr} {stack : List Expr}
    (h : builder.stack = right :: left :: stack) :
    ∃ registers, builder.run (Emit.performCode operation) =
      ⟨registers, .binary operation left right :: stack⟩ := by
  obtain ⟨registers, held⟩ := builder
  subst h
  cases operation <;> exact ⟨_, rfl⟩

/-- **The code of an expression** puts it on top of the stack, whatever lies there. -/
theorem run_code {expr : Expr} (h : expr.Numeric) (builder : Builder) :
    ∃ registers, builder.run expr.code = ⟨registers, expr :: builder.stack⟩ := by
  induction expr generalizing builder with
  | literal value => exact run_pushCode value
  | foreign shown => exact h.elim
  | binary operation left right ihl ihr =>
    obtain ⟨_, hl⟩ := ihl h.1 builder
    obtain ⟨_, hr⟩ := ihr h.2 (builder.run left.code)
    rw [Expr.code, run_append, run_append]
    rw [hl] at hr ⊢
    rw [hr]
    exact run_performCode operation rfl

end Builder

namespace Expr

lemma Encodable.numeric {expr : Expr} (h : expr.Encodable) : expr.Numeric := by
  induction expr with
  | literal value => trivial
  | binary operation left right ihl ihr => exact ⟨ihl h.1, ihr h.2⟩
  | foreign shown => exact h

variable {expr other : Expr}

lemma code_injective (ht : expr.Numeric) (hu : other.Numeric) (h : expr.code = other.code) :
    expr = other := by
  let empty : Builder := ⟨fun _ => .literal 0, []⟩
  obtain ⟨_, hrun⟩ := empty.run_code ht
  obtain ⟨_, hrun'⟩ := empty.run_code hu
  rw [h, hrun'] at hrun
  have hstack := congrArg Builder.stack hrun
  exact (List.head_eq_of_cons_eq hstack).symm

end Expr

/-! ### The instructions of a text -/

lemma Instruction.text_injective {instruction other : Instruction} (hi : instruction.Known)
    (ho : other.Known) (h : instruction.text = other.text) : instruction = other := by
  have hread := read?_text hi
  rw [h, read?_text ho] at hread
  exact (Option.some.inj hread).symm

lemma Text.append_break_inj {line other rest otherRest : Text} (hl : '\n' ∉ line)
    (ho : '\n' ∉ other) (h : line ++ '\n' :: rest = other ++ '\n' :: otherRest) :
    line = other ∧ rest = otherRest := by
  have hsplit := congrArg (splitOn '\n') h
  rw [splitOn_append hl, splitOn_append ho] at hsplit
  obtain rfl := List.head_eq_of_cons_eq hsplit
  have hbehind := List.append_cancel_left h
  exact ⟨rfl, List.tail_eq_of_cons_eq hbehind⟩

lemma Line.program_cons (layout : Layout) (instruction : Instruction) (code : List Instruction) :
    program layout ((instruction :: code).map .instruction) =
      layout.indentation ++
        (instruction.text ++ '\n' :: program layout (code.map .instruction)) := by
  simp [program, Line.text]

lemma Line.program_cons_ne_nil (layout : Layout) (instruction : Instruction)
    (code : List Instruction) :
    program layout ((instruction :: code).map .instruction) ≠ [] := by
  rw [program_cons]
  simp

/-- **Instructions are told from their text**, whatever stands in front of each. -/
theorem Line.program_injective {layout : Layout} {code other : List Instruction}
    (hc : ∀ instruction ∈ code, instruction.Known) (ho : ∀ instruction ∈ other, instruction.Known)
    (h : program layout (code.map .instruction) = program layout (other.map .instruction)) :
    code = other := by
  induction code generalizing other with
  | nil =>
    cases other with
    | nil => rfl
    | cons instruction other => exact absurd h.symm (program_cons_ne_nil layout instruction other)
  | cons instruction code ih =>
    cases other with
    | nil => exact absurd h (program_cons_ne_nil layout instruction code)
    | cons otherInstruction other =>
      rw [List.forall_mem_cons] at hc ho
      rw [program_cons, program_cons] at h
      obtain ⟨htext, hrest⟩ := Text.append_break_inj (Instruction.newline_not_mem_text hc.1)
        (Instruction.newline_not_mem_text ho.1) (List.append_cancel_left h)
      rw [Instruction.text_injective hc.1 ho.1 htext, ih hc.2 ho.2 hrest]

/-- **A program belongs to one expression.** -/
theorem Expr.program_injective {layout : Layout} {expr other : Expr} (ht : expr.Encodable)
    (hu : other.Encodable)
    (h : Line.program layout (expr.programLines layout) =
      Line.program layout (other.programLines layout)) : expr = other := by
  unfold programLines Line.program at h
  rw [List.flatMap_append, List.flatMap_append] at h
  have hcode := Line.program_injective (known_programCode ht) (known_programCode hu)
    (List.append_cancel_left h)
  exact code_injective ht.numeric hu.numeric (List.append_cancel_right hcode)

/-! ### Sources that are compiled -/

section Sources

variable {source : Text} {tokens : List Token} {expr : Expr}

lemma head?_ne_of_parse (ht : Token.tokenize source = .ok tokens)
    (hp : Expr.parse tokens = .ok expr) : source.head? ≠ some '-' := by
  intro hhead
  obtain ⟨rest, rfl⟩ := List.head?_eq_some_iff.mp hhead
  rw [Token.tokenize, Token.tokenizeFrom, if_neg (by decide), if_pos (by decide)] at ht
  obtain ⟨behind, rfl, -⟩ := Token.tokenizeFrom_sound ht
  have hrun : Expectation.run (.operand 0) (Token.operator 0 '-' :: behind) = .ok .nothing :=
    (Expr.run_of_parse_eq_ok hp).2
  rw [Expectation.run_cons_of_error rfl] at hrun
  cases hrun

lemma asks_tree (h : source.head? ≠ some '-') : Asks .tree source [.tree] ["--ast", source] where
  goal_ne := nofun
  head_ne := h
  goal_mem := by decide
  flags_mem := by decide
  mixes := .flag (by decide) (.operand source .nil)

lemma run_tree (ht : Token.tokenize source = .ok tokens) (hp : Expr.parse tokens = .ok expr)
    (program : Text) (host : Host) (clock : Clock) :
    ∃ streams, EStateM.run (Session.run program host clock ["--ast", source]) {} =
        .error (.exit 0) streams ∧ streams.out = expr.outline ++ "\n" :=
  ⟨_, (asks_tree (head?_ne_of_parse ht hp)).run_of_writes program host clock (.tree ht hp), rfl⟩

end Sources

/-- **Both renderings determine the tree.** Trees of literals that have the same outline are the
same, and so are those that the same program is written for, in whatever layout. So two sources
that are compiled have the same program just if the command line shows the same outline of them. -/
theorem renderings_determine_tree :
    (∀ expr other : Expr, expr.Numeric → other.Numeric → expr.outline = other.outline →
        expr = other) ∧
      (∀ (layout : Layout) (expr other : Expr), expr.Encodable → other.Encodable →
        (Emit.run layout (Emit.program layout expr)).1 =
          (Emit.run layout (Emit.program layout other)).1 → expr = other) ∧
      ∀ (program : Text) (host : Host) (clock : Clock) (target : Option Target) (layout : Layout)
        (traced : Bool) (source other : Text),
        (compile target layout traced source).failure = none →
        (compile target layout traced other).failure = none →
        ∃ streams otherStreams,
          EStateM.run (Session.run program host clock ["--ast", source]) {} =
            .error (.exit 0) streams ∧
          EStateM.run (Session.run program host clock ["--ast", other]) {} =
            .error (.exit 0) otherStreams ∧
          (streams.out = otherStreams.out ↔
            (compile target layout traced source).assembly =
              (compile target layout traced other).assembly) := by
  refine ⟨fun expr other ht hu h => Expr.outline_injective ht hu h,
    fun layout expr other ht hu h => ?_,
    fun program host clock target layout traced source other hs ho => ?_⟩
  · rw [Emit.run_program ht, Emit.run_program hu] at h
    exact Expr.program_injective ht hu h
  · obtain ⟨tokens, expr, ht, hp, hassembly⟩ := exists_of_compiled hs
    obtain ⟨otherTokens, otherExpr, ht', hp', hassembly'⟩ := exists_of_compiled ho
    have hcode := (spells_of_parse ht hp).encodable
    have hcode' := (spells_of_parse ht' hp').encodable
    obtain ⟨streams, hrun, hout⟩ := run_tree ht hp program host clock
    obtain ⟨otherStreams, hrun', hout'⟩ := run_tree ht' hp' program host clock
    refine ⟨streams, otherStreams, hrun, hrun', ?_⟩
    rw [hout, hout', hassembly, hassembly']
    constructor
    · intro h
      rw [Expr.outline_injective hcode.numeric hcode'.numeric (List.append_cancel_right h)]
    · intro h
      rw [Expr.program_injective hcode hcode' h]

/-- Two ways to put parentheses differ in both renderings; parentheses that change nothing do not
show in either. -/
theorem renderings_determine_tree_parentheses :
    let first : Expr :=
      .binary .subtract (.binary .subtract (.literal 1) (.literal (-2))) (.literal 3)
    let last : Expr :=
      .binary .subtract (.literal 1) (.binary .subtract (.literal (-2)) (.literal 3))
    let layout : Layout := ⟨"start", "\t"⟩
    first.outline ≠ last.outline ∧
      (Emit.run layout (Emit.program layout first)).1 ≠
        (Emit.run layout (Emit.program layout last)).1 ∧
      ∃ streams otherStreams,
        EStateM.run (Session.run "exprc" ⟨none, "Linux", "CPython", "3.11"⟩ {}
          ["--ast", "1-2-3"]) {} = .error (.exit 0) streams ∧
        EStateM.run (Session.run "exprc" ⟨none, "Linux", "CPython", "3.11"⟩ {}
          ["--ast", "(1 - 2) - 3"]) {} = .error (.exit 0) otherStreams ∧
        streams.out = otherStreams.out := by
  intro first last layout
  have hne : first ≠ last := by decide
  have hfirst : first.Encodable := by simp [first, Expr.Encodable, Emit.wordMagnitude]
  have hlast : last.Encodable := by simp [last, Expr.Encodable, Emit.wordMagnitude]
  obtain ⟨houtlines, hprograms, hsources⟩ := renderings_determine_tree
  refine ⟨mt (houtlines first last hfirst.numeric hlast.numeric) hne,
    mt (hprograms layout first last hfirst hlast) hne, ?_⟩
  obtain ⟨streams, otherStreams, hrun, hrun', hiff⟩ :=
    hsources "exprc" ⟨none, "Linux", "CPython", "3.11"⟩ {} none {} false "1-2-3" "(1 - 2) - 3"
      (by decide +kernel) (by decide +kernel)
  exact ⟨streams, otherStreams, hrun, hrun', hiff.mpr (by decide +kernel)⟩

end ArithAsm
