import ArithAsm.Proofs.Emission

/-!
What is written where a leaf has no code. The lines of an expression are those of its nodes, each
behind its operands. They are written up to the first leaf that has none, and its defect is the
failure; where every leaf has code they are written in full.
-/

namespace ArithAsm

namespace Expr

/-- The nodes of a tree, each behind its operands, the left one first. -/
def postorder : Expr → List Expr
  | .literal value => [.literal value]
  | .binary operation left right =>
    left.postorder ++ right.postorder ++ [.binary operation left right]
  | .foreign shown => [.foreign shown]

def ownCode : Expr → List Instruction
  | .literal value => Emit.pushCode value
  | .binary operation _ _ => Emit.performCode operation
  | .foreign _ => []

/-- What keeps a node from having code: a leaf can be too wide, or be no literal. -/
def defect? : Expr → Option Defect
  | .literal value => if value.natAbs < Emit.wordMagnitude then none else some .literalTooWide
  | .binary .. => none
  | .foreign shown => some (.leafForeign shown)

def emitOwn : Expr → Emit Unit
  | .literal value => Emit.pushNumber value
  | .binary operation _ _ => Emit.perform (.operation operation)
  | .foreign shown => throw (.defect (.leafForeign shown))

def emitAll : List Expr → Emit Unit
  | [] => pure ()
  | node :: nodes => do
    node.emitOwn
    emitAll nodes

/-! ### A tree is its nodes -/

lemma code_eq_flatMap (expr : Expr) : expr.code = expr.postorder.flatMap ownCode := by
  induction expr with
  | literal value => simp [code, postorder, ownCode]
  | foreign shown => simp [code, postorder, ownCode]
  | binary operation left right ihl ihr => simp [code, postorder, ownCode, ihl, ihr]

lemma encodable_iff {expr : Expr} :
    expr.Encodable ↔ ∀ node ∈ expr.postorder, node.defect? = none := by
  induction expr with
  | literal value => simp [Encodable, postorder, defect?]
  | foreign shown => simp [Encodable, postorder, defect?]
  | binary operation left right ihl ihr =>
    simp only [Encodable, ihl, ihr, postorder, List.forall_mem_append, List.forall_mem_singleton]
    exact (and_iff_left rfl).symm

lemma emitAll_append (front back : List Expr) :
    emitAll (front ++ back) = (emitAll front >>= fun _ => emitAll back) := by
  induction front with
  | nil => rfl
  | cons node front ih => simp only [List.cons_append, emitAll, ih, bind_assoc]

/-- **A tree is written node by node.** -/
theorem emit_eq_emitAll (expr : Expr) : expr.emit = emitAll expr.postorder := by
  induction expr with
  | literal value => exact bind_pure_unit.symm
  | foreign shown => rfl
  | binary operation left right ihl ihr =>
    simp only [emit, postorder, emitAll_append, ihl, ihr, bind_assoc]
    rfl

/-! ### Nodes are written up to the first defect -/

variable {node : Expr} {nodes before after : List Expr} {defect : Defect}

def ownLines (nodes : List Expr) : List Line := (nodes.flatMap ownCode).map .instruction

lemma run_emitOwn (h : node.defect? = none) (lines : Array Line) :
    EStateM.run node.emitOwn lines =
      .ok () (lines ++ (node.ownCode.map Line.instruction).toArray) := by
  cases node with
  | literal value =>
    have hfits : value.natAbs < Emit.wordMagnitude := by simpa [defect?] using h
    rw [emitOwn, Emit.pushNumber, if_pos hfits, Emit.run_instructions, ownCode]
  | binary operation left right => exact Emit.run_perform operation lines
  | foreign shown => cases h

lemma run_emitOwn_of_defect (h : node.defect? = some defect) (lines : Array Line) :
    EStateM.run node.emitOwn lines = .error (.defect defect) lines := by
  cases node with
  | literal value =>
    rw [defect?] at h
    split at h
    next => cases h
    next hwide =>
      obtain rfl := Option.some_inj.mp h
      rw [emitOwn, Emit.pushNumber, if_neg hwide]
      rfl
  | binary operation left right => cases h
  | foreign shown =>
    obtain rfl := Option.some_inj.mp h
    rfl

lemma run_emitAll (h : ∀ node ∈ nodes, node.defect? = none) (lines : Array Line) :
    EStateM.run (emitAll nodes) lines = .ok () (lines ++ (ownLines nodes).toArray) := by
  induction nodes generalizing lines with
  | nil => simp [emitAll, ownLines]
  | cons node nodes ih =>
    obtain ⟨hnode, hnodes⟩ := List.forall_mem_cons.mp h
    simp only [emitAll, EStateM.run_bind, run_emitOwn hnode, ih hnodes]
    simp [ownLines]

lemma run_emitAll_of_defect (hbefore : ∀ node ∈ before, node.defect? = none)
    (hbad : node.defect? = some defect) (lines : Array Line) :
    EStateM.run (emitAll (before ++ node :: after)) lines =
      .error (.defect defect) (lines ++ (ownLines before).toArray) := by
  simp only [emitAll_append, emitAll, EStateM.run_bind, run_emitAll hbefore,
    run_emitOwn_of_defect hbad]

/-- The first node with a defect, if not every leaf has code. -/
lemma exists_first_defect {expr : Expr} (h : ¬ expr.Encodable) :
    ∃ before node after defect, expr.postorder = before ++ node :: after ∧
      (∀ node ∈ before, node.defect? = none) ∧ node.defect? = some defect := by
  rw [encodable_iff] at h
  push Not at h
  obtain ⟨bad, hmem, hbad⟩ := h
  cases hfind : expr.postorder.find? fun node => node.defect?.isSome with
  | none =>
    have := List.find?_eq_none.mp hfind bad hmem
    simp [Option.isSome_iff_ne_none, hbad] at this
  | some node =>
    obtain ⟨hnode, before, after, hsplit, hbefore⟩ := List.find?_eq_some_iff_append.mp hfind
    obtain ⟨defect, hdefect⟩ := Option.isSome_iff_exists.mp hnode
    exact ⟨before, node, after, defect, hsplit, fun other ho => by simpa using hbefore other ho,
      hdefect⟩

end Expr

/-- **A program is written in full or up to its first defect.** The code of a tree by recursion is
that of its nodes, each behind its operands. If every leaf has code the lines are the header, the
code, and the two that return. Otherwise the defect of the leftmost leaf without code is the
failure, and the lines are the header and those of the nodes in front of that leaf. -/
theorem program_written_or_fails (layout : Layout) (expr : Expr) :
    expr.code = expr.postorder.flatMap Expr.ownCode ∧
      (expr.Encodable ∧
          Emit.run layout (Emit.program layout expr) =
            (Line.program layout (Emit.header layout ++ expr.code.map .instruction ++
              [.instruction (.pop .primary), .instruction .ret]), none) ∨
        ¬ expr.Encodable ∧ ∃ before leaf after defect,
          expr.postorder = before ++ leaf :: after ∧
            (∀ node ∈ before, node.defect? = none) ∧ leaf.defect? = some defect ∧
            Emit.run layout (Emit.program layout expr) =
              (Line.program layout (Emit.header layout ++
                (before.flatMap Expr.ownCode).map .instruction), some (.defect defect))) := by
  refine ⟨expr.code_eq_flatMap, ?_⟩
  by_cases h : expr.Encodable
  · left
    refine ⟨h, ?_⟩
    rw [Emit.run_program h, Expr.programLines, Expr.programCode, List.map_append,
      ← List.append_assoc]
    rfl
  · right
    refine ⟨h, ?_⟩
    obtain ⟨before, leaf, after, defect, hsplit, hbefore, hbad⟩ := Expr.exists_first_defect h
    refine ⟨before, leaf, after, defect, hsplit, hbefore, hbad, ?_⟩
    have hrun : EStateM.run (Emit.program layout expr) #[] =
        .error (.defect defect) (Emit.header layout ++ Expr.ownLines before).toArray := by
      simp only [Emit.program, EStateM.run_bind, Emit.run_prologue, Emit.expression,
        Emit.tasks_compile, Expr.emit_eq_emitAll, hsplit, Expr.run_emitAll_of_defect hbefore hbad]
      simp
    rw [Emit.run, show Emit.program layout expr #[] = _ from hrun]
    rfl

/-- The left operand is written; of the product, whose leaves have no code, nothing is. -/
theorem program_written_or_fails_wide :
    let product : Expr := .binary .multiply (.literal 9223372036854775808) (.foreign "None")
    Emit.run {} (Emit.program {} (.binary .add (.literal 1) product)) =
      ((".intel_syntax noprefix\n.global main\nmain:\n  push 1\n" : Text),
        some (Failure.defect .literalTooWide)) := by
  intro product
  obtain ⟨-, ⟨h, -⟩ | ⟨-, before, leaf, after, defect, hsplit, hbefore, hbad, hrun⟩⟩ :=
    program_written_or_fails {} (.binary .add (.literal 1) product)
  · exact h.2.2.elim
  · -- the first leaf has code and the second one has not
    match before, hsplit with
    | [], hsplit =>
      obtain ⟨rfl, -⟩ := List.cons_eq_cons.mp hsplit
      cases hbad
    | [first], hsplit =>
      obtain ⟨rfl, hrest⟩ := List.cons_eq_cons.mp hsplit
      obtain ⟨rfl, -⟩ := List.cons_eq_cons.mp hrest
      cases hbad
      rw [hrun]
      decide
    | first :: second :: before, hsplit =>
      obtain ⟨rfl, hrest⟩ := List.cons_eq_cons.mp hsplit
      obtain ⟨rfl, -⟩ := List.cons_eq_cons.mp hrest
      cases hbefore _ (.tail _ List.mem_cons_self)

end ArithAsm
