import ArithAsm.Compile
import ArithAsm.Proofs.Evaluation
import ArithAsm.Proofs.Listing
import ArithAsm.Proofs.Parsing

/-!
Compilation from end to end. A text spells an expression if its tokens have a derivation of which
the expression is the tree. Compiling either fails, and then no assembly is written and the error
is about a column of the text, or it writes a whole program. Read back from its text and run, the
program returns the value of the expression that the source spells.
-/

namespace ArithAsm

open Grammar

/-- The tokens of the text have a derivation, and the expression is its tree. -/
def Spells (source : Text) (expr : Expr) : Prop :=
  ∃ d : Derivation (.chain .sum),
    Token.Scans 0 source (d.yield ++ [Token.endAt source.length]) ∧ d.tree = expr

/-- **A text spells one expression at most.** -/
theorem Spells.unique {source : Text} {expr other : Expr} (h : Spells source expr)
    (h' : Spells source other) : expr = other := by
  obtain ⟨d, hs, rfl⟩ := h
  obtain ⟨d', hs', rfl⟩ := h'
  have htokens := (Token.tokenize_eq_ok_iff.mpr hs).symm.trans (Token.tokenize_eq_ok_iff.mpr hs')
  have hyield : d.yield = d'.yield := by simpa using htokens
  rw [Derivation.yield_injective hyield]

/-! ### The literals of a text -/

namespace Grammar

/-- A tree has code; a rest of a chain joins operands that have code. -/
def Phrase.Encodable : (phrase : Phrase) → phrase.Tree → Prop
  | .rest _, join => ∀ left : Expr, left.Encodable → (join left).Encodable
  | .primary, tree | .operand _, tree | .chain _, tree => Expr.Encodable tree

lemma Derivation.encodable {phrase : Phrase} (d : Derivation phrase)
    (h : ∀ token ∈ d.yield, token.kind = .integer →
      ∃ n : Nat, token.value = .number n ∧ n < Emit.wordMagnitude) :
    phrase.Encodable d.tree := by
  induction d with
  | number token value hk hv =>
    obtain ⟨n, hn, hlt⟩ := h token List.mem_cons_self hk
    obtain rfl : value = n := by simpa [hv] using hn
    simpa [Phrase.Encodable, tree, Expr.Encodable] using hlt
  | group opening inner closing ho hc ih =>
    exact ih fun token hm => h token (.tail _ (List.mem_append_left _ hm))
  | product inner ih => exact ih h
  | primary inner ih => exact ih h
  | chain first rest ihf ihr =>
    exact ihr (fun token hm => h token (List.mem_append_right _ hm)) _
      (ihf fun token hm => h token (List.mem_append_left _ hm))
  | done => exact fun left hl => hl
  | join operation sign operand rest mem hs iho ihr =>
    refine fun left hl => ihr (fun token hm => h token (.tail _ (List.mem_append_right _ hm))) _ ?_
    exact ⟨hl, iho fun token hm => h token (.tail _ (List.mem_append_left _ hm))⟩

end Grammar

lemma Spells.encodable {source : Text} {expr : Expr} (h : Spells source expr) :
    expr.Encodable := by
  obtain ⟨d, hs, rfl⟩ := h
  refine d.encodable fun token hm hk => ?_
  obtain ⟨n, hn, hle⟩ := hs.value_of_integer (List.mem_append_left _ hm) hk
  refine ⟨n, hn, ?_⟩
  unfold Token.greatestLiteral at hle
  unfold Emit.wordMagnitude
  omega

/-! ### The lines of a program -/

/-- The lines of the text of a program: three at the margin, and behind them one for each
instruction. -/
def Expr.assemblyLines (layout : Layout) (expr : Expr) : List Text :=
  let opening : List Text :=
    [".intel_syntax noprefix", ".global " ++ layout.entryPoint, layout.entryPoint ++ ":"]
  opening ++ expr.programCode.map (Instruction.line layout)

lemma Expr.program_programLines (layout : Layout) (expr : Expr) :
    Line.program layout (expr.programLines layout) = Text.ofLines (expr.assemblyLines layout) :=
  Line.program_eq_ofLines layout
    [".intel_syntax noprefix", ".global " ++ layout.entryPoint, layout.entryPoint ++ ":"]
    expr.programCode

/-! ### Compiling in stages -/

section Stages

variable {target : Option Target} {layout : Layout} {traced : Bool} {source : Text}
  {tokens : List Token} {expr : Expr}

lemma spells_of_parse (ht : Token.tokenize source = .ok tokens)
    (hp : Expr.parse tokens = .ok expr) : Spells source expr := by
  have hs := Token.tokenize_eq_ok_iff.mp ht
  have hsplit := hs.eq_takeWhile_append
  rw [Int.natCast_zero, Int.zero_add] at hsplit
  obtain ⟨d, hyield, -, rfl⟩ := (Expr.parse_eq_ok_iff hs.exists_last).mp hp
  refine ⟨d, ?_, rfl⟩
  rw [hyield, ← hsplit]
  exact hs

lemma compile_of_tokenize_error {error : Error} (h : Token.tokenize source = .error error) :
    compile target layout traced source = ⟨[], [], some (.error error)⟩ := by
  simp only [compile, tokenizeTraced, h]

lemma compile_of_parse_error {failure : Failure} (ht : Token.tokenize source = .ok tokens)
    (hp : Expr.parse tokens = .error failure) :
    compile target layout traced source =
      ⟨if traced then Token.trace tokens else [], [], some failure⟩ := by
  simp only [compile, tokenizeTraced, ht, hp]

lemma compile_of_unsupported {given : Target} (ht : Token.tokenize source = .ok tokens)
    (hp : Expr.parse tokens = .ok expr) (h : given.Unsupported) :
    compile (some given) layout traced source =
      ⟨if traced then Token.trace tokens else [], [],
        some (.error (.unsupportedTarget given))⟩ := by
  simp only [compile, tokenizeTraced, ht, hp, Expr.generate_of_unsupported h]

lemma compile_of_supported (ht : Token.tokenize source = .ok tokens)
    (hp : Expr.parse tokens = .ok expr) (h : ∀ given ∈ target, ¬ given.Unsupported) :
    compile target layout traced source =
      ⟨if traced then Token.trace tokens else [], Line.program layout (expr.programLines layout),
        none⟩ := by
  have hcode := (spells_of_parse ht hp).encodable
  simp only [compile, tokenizeTraced, ht, hp, Expr.generate_of_supported h, Emit.run_program hcode]

/-- Where nothing fails a program is written, for any layout. -/
lemma exists_of_compiled (h : (compile target layout traced source).failure = none) :
    ∃ tokens expr, Token.tokenize source = .ok tokens ∧ Expr.parse tokens = .ok expr ∧
      (compile target layout traced source).assembly =
        Line.program layout (expr.programLines layout) := by
  cases ht : Token.tokenize source with
  | error error => simp [compile_of_tokenize_error ht] at h
  | ok tokens =>
    cases hp : Expr.parse tokens with
    | error failure => simp [compile_of_parse_error ht hp] at h
    | ok expr =>
      by_cases hsupported : ∀ given ∈ target, ¬ given.Unsupported
      · exact ⟨tokens, expr, rfl, hp, by rw [compile_of_supported ht hp hsupported]⟩
      · push Not at hsupported
        obtain ⟨given, rfl, hu⟩ := hsupported
        simp [compile_of_unsupported ht hp hu] at h

/-- A failure is that of the scan, of the parser, or of a target that has no code. -/
lemma stage_of_failure {failure : Failure}
    (h : (compile target layout traced source).failure = some failure) :
    (∃ error, Token.tokenize source = .error error ∧ failure = .error error) ∨
      (∃ tokens, Token.tokenize source = .ok tokens ∧ Expr.parse tokens = .error failure) ∨
      ∃ given ∈ target, failure = .error (.unsupportedTarget given) := by
  cases ht : Token.tokenize source with
  | error error =>
    rw [compile_of_tokenize_error ht] at h
    exact .inl ⟨error, rfl, (Option.some.inj h).symm⟩
  | ok tokens =>
    cases hp : Expr.parse tokens with
    | error cause =>
      rw [compile_of_parse_error ht hp] at h
      exact .inr (.inl ⟨tokens, rfl, by rw [hp, Option.some.inj h]⟩)
    | ok expr =>
      by_cases hsupported : ∀ given ∈ target, ¬ given.Unsupported
      · rw [compile_of_supported ht hp hsupported] at h
        cases h
      · push Not at hsupported
        obtain ⟨given, rfl, hu⟩ := hsupported
        rw [compile_of_unsupported ht hp hu] at h
        exact .inr (.inr ⟨given, rfl, (Option.some.inj h).symm⟩)

end Stages

/-! ### Errors and their columns -/

section Errors

variable {source : Text} {tokens : List Token}

lemma Diagnostic.render_of_column (kind : Diagnostic.Kind) (message : Text) (offset : Nat) :
    Diagnostic.render ⟨kind, message, some offset⟩ source =
      .ok (source ++ "\n" ++ List.replicate offset ' ' ++ "^ " ++ message ++ "\n") := by
  have hoffset : ¬ (offset : Int) < 0 := by omega
  simp only [Diagnostic.render, Diagnostic.renderAt, if_neg hoffset, Int.toNat_natCast]

/-- The diagnostic of the error is of this kind and about a column of the text, or the one behind
it. -/
def Error.PointsInto (error : Error) (kind : Diagnostic.Kind) (source : Text) : Prop :=
  ∃ message offset, error.diagnostic? = some ⟨kind, message, some offset⟩ ∧
    0 ≤ offset ∧ offset ≤ source.length

lemma tokenize_error_pointsInto {error : Error} (h : Token.tokenize source = .error error) :
    error.PointsInto .lex source := by
  obtain ⟨offset, -, hhigh, he⟩ := Token.tokenizeFrom_error h
  have hle : (offset : Int) ≤ source.length := by omega
  rcases he with ⟨c, rfl⟩ | ⟨digits, rfl⟩
  · exact ⟨_, offset, rfl, by omega, hle⟩
  · exact ⟨_, offset, rfl, by omega, hle⟩

lemma Error.diagnostic?_of_token? {error : Error} {token : Token}
    (h : error.token? = some token) :
    ∃ message, error.diagnostic? = some ⟨.syntactic, message, some token.column⟩ := by
  cases error <;> cases h <;> exact ⟨_, rfl⟩

lemma parse_error_pointsInto (ht : Token.tokenize source = .ok tokens) {failure : Failure}
    (hp : Expr.parse tokens = .error failure) :
    ∃ error, failure = .error error ∧ error.PointsInto .syntactic source := by
  have hs := Token.tokenize_eq_ok_iff.mp ht
  rcases Expr.parse_eq_error hs.exists_last hp with ⟨error, token, rfl, hq, hm⟩ | h
  · have hbounds := hs.column_bounds hm
    obtain ⟨message, hd⟩ := Error.diagnostic?_of_token? hq
    exact ⟨error, rfl, message, _, hd, by omega, by omega⟩
  · obtain ⟨token, hm, hk, text, hv⟩ := h
    obtain ⟨n, hn, -⟩ := hs.value_of_integer hm hk
    cases hn.symm.trans hv

end Errors

/-- **All or nothing.** Compiling does one of four things, and which of them the stages decide in
order. The scan fails, the parser fails, or the target has no code, each with an error and no
assembly; or there is no failure and the assembly is a whole program, line by line. The trace, if it
is wanted, has a line for each token as soon as the scan is through. -/
theorem compile_all_or_nothing (target : Option Target) (layout : Layout) (traced : Bool)
    (source : Text) :
    (∃ error, Token.tokenize source = .error error ∧ error.PointsInto .lex source ∧
        compile target layout traced source = ⟨[], [], some (.error error)⟩) ∨
      ∃ tokens, Token.tokenize source = .ok tokens ∧
        let trace := if traced then Text.ofLines (tokens.map Token.traced) else []
        ((∃ error, Expr.parse tokens = .error (.error error) ∧ error.PointsInto .syntactic source ∧
            compile target layout traced source = ⟨trace, [], some (.error error)⟩) ∨
          ∃ expr, Expr.parse tokens = .ok expr ∧
            ((∃ given ∈ target, given.architecture ≠ "AMD64" ∧
                compile target layout traced source =
                  ⟨trace, [], some (.error (.unsupportedTarget given))⟩) ∨
              (∀ given ∈ target, given.architecture = "AMD64") ∧
                compile target layout traced source =
                  ⟨trace, Text.ofLines (expr.assemblyLines layout), none⟩)) := by
  cases ht : Token.tokenize source with
  | error error =>
    exact .inl ⟨error, rfl, tokenize_error_pointsInto ht, compile_of_tokenize_error ht⟩
  | ok tokens =>
    refine .inr ⟨tokens, rfl, ?_⟩
    rw [← Token.trace_eq_ofLines]
    cases hp : Expr.parse tokens with
    | error failure =>
      obtain ⟨error, rfl, hpoints⟩ := parse_error_pointsInto ht hp
      exact .inl ⟨error, rfl, hpoints, compile_of_parse_error ht hp⟩
    | ok expr =>
      refine .inr ⟨expr, rfl, ?_⟩
      by_cases hsupported : ∀ given ∈ target, ¬ given.Unsupported
      · refine .inr ⟨fun given hg => ?_, ?_⟩
        · exact not_not.mp (hsupported given hg)
        · rw [compile_of_supported ht hp hsupported, Expr.program_programLines]
      · push Not at hsupported
        obtain ⟨given, rfl, hu⟩ := hsupported
        exact .inl ⟨given, rfl, hu, compile_of_unsupported ht hp hu⟩

/-- A difference is compiled whole, or not at all for a target that has no code. -/
theorem compile_all_or_nothing_difference :
    compile none {} false "7-2" = ⟨[], Text.ofLines [".intel_syntax noprefix", ".global main",
      "main:", "  push 7", "  push 2", "  pop rdi", "  pop rax", "  sub rax, rdi", "  push rax",
      "  pop rax", "  ret"], none⟩ ∧
    compile (some .arm64Darwin) {} true "7-2" =
      ⟨Text.ofLines ["INTEGER 7 '(command-line-interface):1'",
        "OPERATOR '-' '(command-line-interface):2'", "INTEGER 2 '(command-line-interface):3'",
        "EOF 0 '(command-line-interface):4'"],
      [], some (.error (.unsupportedTarget .arm64Darwin))⟩ := by
  have htokens : Token.tokenize "7-2" = .ok [⟨.integer, "7", .number 7, 0⟩, .operator 1 '-',
      ⟨.integer, "2", .number 2, 2⟩, .endAt 3] := by decide +kernel
  constructor
  · obtain ⟨_, hscan, -⟩ | ⟨tokens, hscan, hstages⟩ := compile_all_or_nothing none {} false "7-2"
    · cases htokens.symm.trans hscan
    · cases htokens.symm.trans hscan
      obtain ⟨_, hparse, -⟩ | ⟨expr, hparse, ⟨_, hgiven, -⟩ | ⟨-, hcompile⟩⟩ := hstages
      · cases hparse
      · cases hgiven
      · cases hparse
        exact hcompile.trans (by decide +kernel)
  · obtain ⟨_, hscan, -⟩ | ⟨tokens, hscan, hstages⟩ :=
      compile_all_or_nothing (some .arm64Darwin) {} true "7-2"
    · cases htokens.symm.trans hscan
    · cases htokens.symm.trans hscan
      obtain ⟨_, hparse, -⟩ | ⟨expr, hparse, ⟨given, hgiven, -, hcompile⟩ | ⟨hall, -⟩⟩ := hstages
      · cases hparse
      · cases hgiven
        exact hcompile.trans (by decide +kernel)
      · exact absurd (hall _ rfl) (by decide)

/-! ### Programs run -/

namespace Expr

lemma known_programCode {expr : Expr} (h : expr.Encodable) :
    ∀ instruction ∈ expr.programCode, instruction.Known := by
  have hpush (n : Int) : ∀ instruction ∈ Emit.pushCode n, instruction.Known := by
    rw [Emit.pushCode]
    split
    next => simp [Instruction.Known, Instruction.registers]
    next =>
      have hmove : (Instruction.move .primary n).Known := by
        simpa [Instruction.Known, Instruction.registers] using by decide
      exact List.forall_mem_cons.mpr ⟨hmove, by decide⟩
  rw [programCode, List.forall_mem_append]
  refine ⟨forall_mem_code (fun n _ => hpush n) (fun operation => ?_) h, by decide⟩
  cases operation <;> decide

end Expr

lemma readCode?_programLines {expr : Expr} (h : expr.Encodable) :
    Text.readCode? (Line.program {} (expr.programLines {})) = some expr.programCode ∧
      Text.margin (Line.program {} (expr.programLines {})) =
        ([".intel_syntax noprefix", ".global main", "main:"] : List Text) :=
  @Text.readCode?_program [".intel_syntax noprefix", ".global main", "main:"] _ (by decide)
    (Expr.known_programCode h)

lemma exists_of_accepted {traced : Bool} {source : Text}
    (h : (compile none {} traced source).failure = none) :
    ∃ expr, Spells source expr ∧
      (compile none {} traced source).assembly = Line.program {} (expr.programLines {}) := by
  obtain ⟨tokens, expr, ht, hp, hassembly⟩ := exists_of_compiled h
  exact ⟨expr, spells_of_parse ht hp, hassembly⟩

/-- **End to end.** What is written for a source that is accepted is legal code behind three lines
at the margin, and the source spells one expression. On any machine the code pops no cell that it
found. If the expression has a value the code returns it in `rax`, with the stack as it was, and
it faults just if there is none. -/
theorem program_returns_value {traced : Bool} {source : Text}
    (h : (compile none {} traced source).failure = none) :
    ∃ expr, Spells source expr ∧ (∀ other, Spells source other → other = expr) ∧
      ∃ code, Text.readCode? (compile none {} traced source).assembly = some code ∧
        Text.margin (compile none {} traced source).assembly =
          ([".intel_syntax noprefix", ".global main", "main:"] : List Text) ∧
        (∀ instruction ∈ code, instruction.Legal) ∧
        ∀ machine : Machine, Machine.Spares machine.stack code machine ∧
          (∀ word, expr.value? = some word →
            ∃ final, Machine.run code machine = .returned final ∧
              final.registers .rax = word ∧ final.stack = machine.stack) ∧
          (Machine.run code machine = .faulted ↔ expr.value? = none) := by
  obtain ⟨expr, hspells, hassembly⟩ := exists_of_accepted h
  have hcode := hspells.encodable
  obtain ⟨hread, hmargin⟩ := readCode?_programLines hcode
  rw [hassembly]
  refine ⟨expr, hspells, fun other ho => ho.unique hspells, expr.programCode, hread, hmargin,
    Expr.legal_programCode hcode, fun machine =>
      ⟨Machine.spares_programCode hcode machine, Machine.run_programCode hcode machine⟩⟩

theorem program_returns_value_difference :
    (compile none {} false "7-2*3").failure = none ∧
      ∃ code, Text.readCode? (compile none {} false "7-2*3").assembly = some code ∧
        ∀ machine : Machine, ∃ final, Machine.run code machine = .returned final ∧
          final.registers .rax = 1 ∧ final.stack = machine.stack := by
  have haccepted : (compile none {} false "7-2*3").failure = none := by decide +kernel
  have hspells : Spells "7-2*3"
      (.binary .subtract (.literal 7) (.binary .multiply (.literal 2) (.literal 3))) :=
    @spells_of_parse _
      [⟨.integer, "7", .number 7, 0⟩, .operator 1 '-', ⟨.integer, "2", .number 2, 2⟩,
        .operator 3 '*', ⟨.integer, "3", .number 3, 4⟩, .endAt 5] _
      (by decide +kernel) rfl
  obtain ⟨expr, -, hunique, code, hread, -, -, hrun⟩ := program_returns_value haccepted
  obtain rfl := hunique _ hspells
  exact ⟨haccepted, code, hread, fun machine => (hrun machine).2.1 1 (by decide)⟩

/-- **The one other fault.** Where arithmetic that wraps gives a value, the program returns it,
unless the least word is divided by minus one on the way; then the program faults. A division by
zero is a fault in any case. -/
theorem program_faults_iff_quotientOverflows {traced : Bool} {source : Text}
    (h : (compile none {} traced source).failure = none) :
    ∃ expr, Spells source expr ∧
      ∃ code, Text.readCode? (compile none {} traced source).assembly = some code ∧
        ∀ machine : Machine,
          (∀ word, expr.wrapped? = some word →
            ((∃ final, Machine.run code machine = .returned final ∧ final.registers .rax = word) ↔
                ¬ expr.QuotientOverflows) ∧
              (Machine.run code machine = .faulted ↔ expr.QuotientOverflows)) ∧
          (expr.wrapped? = none → Machine.run code machine = .faulted) := by
  obtain ⟨expr, hspells, hassembly⟩ := exists_of_accepted h
  have hcode := hspells.encodable
  obtain ⟨hread, -⟩ := readCode?_programLines hcode
  rw [hassembly]
  refine ⟨expr, hspells, expr.programCode, hread, fun machine => ?_⟩
  obtain ⟨hreturns, hfaults⟩ := Machine.run_programCode hcode machine
  refine ⟨fun word hw => ?_, fun hw => ?_⟩
  · by_cases ho : expr.QuotientOverflows
    · have hf := hfaults.mpr (Expr.value?_eq_none_iff.mpr fun _ _ => ho)
      refine ⟨⟨?_, fun hn => absurd ho hn⟩, iff_of_true hf ho⟩
      rintro ⟨final, hr, -⟩
      cases hf.symm.trans hr
    · obtain ⟨final, hr, hrax, -⟩ := hreturns word (Expr.value?_eq_some_iff.mpr ⟨hw, ho⟩)
      refine ⟨iff_of_true ⟨final, hr, hrax⟩ ho, iff_of_false (fun hf => ?_) ho⟩
      cases hf.symm.trans hr
  · exact hfaults.mpr (Expr.value?_eq_none_iff.mpr fun word hs => by cases hw.symm.trans hs)

theorem program_faults_iff_quotientOverflows_least :
    (compile none {} false "(0-9223372036854775807-1)/(0-1)").failure = none ∧
      ∃ expr, Spells "(0-9223372036854775807-1)/(0-1)" expr ∧ expr.wrapped? = some Word.least ∧
        ∃ code, Text.readCode? (compile none {} false "(0-9223372036854775807-1)/(0-1)").assembly =
            some code ∧
          ∀ machine : Machine, Machine.run code machine = .faulted := by
  have haccepted : (compile none {} false "(0-9223372036854775807-1)/(0-1)").failure = none := by
    decide +kernel
  have hspells : Spells "(0-9223372036854775807-1)/(0-1)"
      (.binary .divide
        (.binary .subtract (.binary .subtract (.literal 0) (.literal 9223372036854775807))
          (.literal 1))
        (.binary .subtract (.literal 0) (.literal 1))) :=
    @spells_of_parse _
      [.operator 0 '(', ⟨.integer, "0", .number 0, 1⟩, .operator 2 '-',
        ⟨.integer, "9223372036854775807", .number 9223372036854775807, 3⟩, .operator 22 '-',
        ⟨.integer, "1", .number 1, 23⟩, .operator 24 ')', .operator 25 '/', .operator 26 '(',
        ⟨.integer, "0", .number 0, 27⟩, .operator 28 '-', ⟨.integer, "1", .number 1, 29⟩,
        .operator 30 ')', .endAt 31] _
      (by decide +kernel) (by decide +kernel)
  obtain ⟨expr, hexpr, code, hread, hrun⟩ := program_faults_iff_quotientOverflows haccepted
  obtain rfl := hspells.unique hexpr
  refine ⟨haccepted, _, hspells, by decide +kernel, code, hread, fun machine => ?_⟩
  exact ((hrun machine).1 Word.least (by decide)).2.mpr (.inr (.inr (by decide)))

end ArithAsm
