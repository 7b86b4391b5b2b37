import ArithAsm.Backend
import Mathlib.Tactic.Common

/-!
What is written for an expression. The list of tasks does the same as recursion over the tree, and
where every leaf is a literal that fits a word the code of the tree is written in full, between
the lines that open a program and those that close it.
-/

namespace ArithAsm

/-! ### Code by recursion -/

def Emit.performCode (operation : Operation) : List Instruction :=
  [.pop .secondary, .pop .primary] ++ Emit.operationCode operation ++ [.push .primary]

def Emit.header (layout : Layout) : List Line :=
  [.directive ".intel_syntax noprefix", .directive (".global " ++ layout.entryPoint),
    .directive (layout.entryPoint ++ ":")]

namespace Expr

/-- The code of an expression, which stands behind that of its operands. -/
def code : Expr → List Instruction
  | .literal value => Emit.pushCode value
  | .binary operation left right => left.code ++ right.code ++ Emit.performCode operation
  | .foreign _ => []

/-- Writes the code of an expression, and fails where a leaf has none. -/
def emit : Expr → Emit Unit
  | .literal value => Emit.pushNumber value
  | .binary operation left right => do
    left.emit
    right.emit
    Emit.perform (.operation operation)
  | .foreign shown => throw (.defect (.leafForeign shown))

/-- Every leaf is a literal of less than 64 bits. -/
def Encodable : Expr → Prop
  | .literal value => value.natAbs < Emit.wordMagnitude
  | .binary _ left right => left.Encodable ∧ right.Encodable
  | .foreign _ => False

def programCode (expr : Expr) : List Instruction := expr.code ++ [.pop .primary, .ret]

def programLines (layout : Layout) (expr : Expr) : List Line :=
  Emit.header layout ++ expr.programCode.map .instruction

end Expr

namespace Emit

lemma run_instructions (code : List Instruction) (lines : Array Line) :
    EStateM.run (instructions code) lines =
      .ok () (lines ++ (code.map Line.instruction).toArray) := by
  rw [instructions, List.map_toArray]
  rfl

/-- **Tasks are recursion.** A tree that is to be compiled is compiled first of all, and then the
rest of the tasks is carried out. -/
theorem tasks_compile (expr : Expr) (rest : List Task) :
    tasks (.compile expr :: rest) = (expr.emit >>= fun _ => tasks rest) := by
  induction expr generalizing rest with
  | literal value => rw [tasks, Expr.emit]
  | binary operation left right ihl ihr =>
    rw [tasks, ihl, ihr, tasks, Expr.emit]
    simp only [bind_assoc]
  | foreign shown =>
    rw [tasks, Expr.emit]
    rfl

lemma run_popInto {registers : List Register} (h : registers ≠ []) (lines : Array Line) :
    EStateM.run (popInto registers) lines =
      .ok () (lines ++ (registers.map (Line.instruction ∘ .pop)).toArray) := by
  rw [popInto, if_neg (by simpa using h), run_instructions, List.map_map]

lemma run_perform (operation : Operation) (lines : Array Line) :
    EStateM.run (perform (.operation operation)) lines =
      .ok () (lines ++ ((performCode operation).map Line.instruction).toArray) := by
  simp only [perform, pushRegister, EStateM.run_bind, run_popInto (List.cons_ne_nil _ _),
    run_instructions]
  simp [performCode]

lemma run_emit {expr : Expr} (h : expr.Encodable) (lines : Array Line) :
    EStateM.run expr.emit lines = .ok () (lines ++ (expr.code.map Line.instruction).toArray) := by
  induction expr generalizing lines with
  | literal value =>
    rw [Expr.emit, pushNumber, if_pos (show value.natAbs < wordMagnitude from h),
      run_instructions, Expr.code]
  | binary operation left right ihl ihr =>
    simp only [Expr.emit, EStateM.run_bind, ihl h.1, ihr h.2, run_perform]
    simp [Expr.code]
  | foreign shown => exact h.elim

lemma run_expression {expr : Expr} (h : expr.Encodable) (lines : Array Line) :
    EStateM.run (expression expr) lines =
      .ok () (lines ++ (expr.code.map Line.instruction).toArray) := by
  simp only [expression, tasks_compile, EStateM.run_bind, run_emit h, tasks]
  rfl

lemma run_write (line : Line) (lines : Array Line) :
    EStateM.run (write line) lines = .ok () (lines ++ #[line]) := by
  rw [Array.append_singleton]
  rfl

lemma run_prologue (layout : Layout) (lines : Array Line) :
    EStateM.run (prologue layout) lines = .ok () (lines ++ (header layout).toArray) := by
  simp only [prologue, EStateM.run_bind, run_write, Array.append_assoc]
  rfl

section Texts

variable {emit : Emit Unit} {lines : Array Line}

lemma run_of_ok (h : EStateM.run emit #[] = .ok () lines) (layout : Layout) :
    run layout emit = (Line.program layout lines.toList, none) := by
  rw [run, show emit #[] = _ from h]

lemma run_of_error {failure : Failure} (h : EStateM.run emit #[] = .error failure lines)
    (layout : Layout) :
    run layout emit = (Line.program layout lines.toList, some failure) := by
  rw [run, show emit #[] = _ from h]

end Texts

/-- **A program is written whole** for an expression whose leaves all have code. -/
theorem run_program {expr : Expr} (h : expr.Encodable) (layout : Layout) :
    run layout (program layout expr) = (Line.program layout (expr.programLines layout), none) := by
  have hrun : EStateM.run (program layout expr) #[] = .ok () (expr.programLines layout).toArray := by
    simp only [program, epilogue, EStateM.run_bind, run_prologue, run_expression h,
      run_popInto (List.cons_ne_nil _ _), run_instructions]
    simp [Expr.programLines, Expr.programCode]
  exact run_of_ok hrun layout

end Emit

/-! ### Targets -/

def Target.Unsupported (target : Target) : Prop := target.architecture ≠ Target.amd64

namespace Expr

lemma generate_of_unsupported {target : Target} (h : target.Unsupported) (layout : Layout)
    (expr : Expr) :
    (expr.generate (some target) layout).run layout =
      ([], some (.error (.unsupportedTarget target))) := by
  simp only [generate, Option.getD_some, Backend.ofTarget, if_neg h]
  rfl

lemma generate_of_supported {target : Option Target}
    (h : ∀ given ∈ target, ¬ given.Unsupported) (layout : Layout) (expr : Expr) :
    expr.generate target layout = Emit.program layout expr := by
  have harch : (target.getD .standard).architecture = Target.amd64 := by
    cases target with
    | none => rfl
    | some given => simpa [Target.Unsupported] using h given rfl
  simp only [generate, Backend.ofTarget, if_pos harch, Backend.program, Target.required]

end Expr

end ArithAsm
