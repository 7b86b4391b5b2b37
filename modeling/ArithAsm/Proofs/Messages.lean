import ArithAsm.Proofs.PlainText
import ArithAsm.Proofs.Sessions

/-!
Messages beside the result. The flags that ask for messages change nothing of what a session comes
to: its exit status and standard output are those of the session without them. The error stream
has more lines: in front the announcement and a line for each token, and behind them the error as
it was or, where there is none, the time that the goal took.
-/

namespace ArithAsm

/-! ### The lines of a session -/

namespace Session

/-- The lines that a session with these flags says before its goal comes to a result: for which
target it compiles, and the tokens of the source if it has any. -/
def heralds (goal : Goal) (flags : List Flag) (source : Text) : List Text :=
  let announced : List Text :=
    if goal = .compile ∧ .verbose ∈ flags then
      ["[INFO] Compiling expression for target 'amd64-unknown-linux'..."]
    else []
  let traced :=
    if .traceTokens ∈ flags then
      match Token.tokenize source with
      | .ok tokens => tokens.map Token.traced
      | .error _ => []
    else []
  announced ++ traced

/-- The line that a session with these flags says behind a result: the time that the goal took. -/
def timings (flags : List Flag) (clock : Clock) : List Text :=
  if .verbose ∈ flags then ["[INFO] Performing an goal took " ++ clock.seconds ++ " seconds!"]
  else []

variable (goal : Goal) (flags : List Flag) (source : Text) (clock : Clock)

lemma preface_ofFlags :
    preface goal (Switches.ofFlags flags) source = Text.ofLines (heralds goal flags source) := by
  rw [preface, announcement, Switches.ofFlags_eq_occurring, heralds, Text.ofLines_append]
  dsimp only [Switches.occurring]
  congr 1
  · by_cases hgoal : goal = .compile <;> by_cases hmem : Flag.verbose ∈ flags <;>
      simp only [hgoal, hmem, decide_true, decide_false] <;> rfl
  · by_cases hmem : Flag.traceTokens ∈ flags
    · simp only [hmem, decide_true, if_true]
      cases Token.tokenize source with
      | ok tokens => exact Token.trace_eq_ofLines tokens
      | error error => rfl
    · simp only [hmem, decide_false, if_false, Bool.false_eq_true]
      cases Token.tokenize source <;> rfl

lemma timing_ofFlags :
    timing (Switches.ofFlags flags) clock = Text.ofLines (timings flags clock) := by
  rw [timing, timings, info, Switches.ofFlags_eq_occurring]
  dsimp only [Switches.occurring]
  by_cases hmem : Flag.verbose ∈ flags
  · simp only [hmem, decide_true, if_true, Text.ofLines, List.flatMap_singleton,
      List.append_assoc]
    rfl
  · simp only [hmem, decide_false, if_false, Bool.false_eq_true, Text.ofLines, List.flatMap_nil]

lemma isPlain_heralds : ∀ line ∈ heralds goal flags source, line.IsPlain := by
  rw [heralds, List.forall_mem_append]
  constructor
  · split_ifs
    · exact List.forall_mem_singleton.mpr (by decide)
    · exact List.forall_mem_nil _
  · split_ifs
    · cases hscan : Token.tokenize source with
      | ok tokens =>
        rw [List.forall_mem_map]
        exact (Token.tokenize_eq_ok_iff.mp hscan).isPlain_traced
      | error error => exact List.forall_mem_nil _
    · exact List.forall_mem_nil _

lemma isPlain_timings : ∀ line ∈ timings flags clock, line.IsPlain := by
  rw [timings]
  split_ifs
  · refine List.forall_mem_singleton.mpr ?_
    exact (Text.IsPlain.append (by decide) clock.isPlain_seconds).append (by decide)
  · exact List.forall_mem_nil _

variable {flags}

lemma heralds_eq_nil (hverbose : .verbose ∉ flags) (htrace : .traceTokens ∉ flags) :
    heralds goal flags source = [] := by
  rw [heralds, if_neg (fun h => hverbose h.2), if_neg htrace, List.append_nil]

end Session

/-! ### Sessions beside one another -/

/-- **Messages leave the result alone.** Take a session and one that is asked for the same goal
about the same source, but not for messages; their clocks may differ. Both exit with the same
status, which is zero just if the stages of the goal succeed, and with the same text on standard
output. On the error stream the first has lines of its own, each a single one: in front those that
its flags ask for, and behind them what the other session has there if it fails, or else the
time. -/
theorem Session.run_beside_quiet {goal : Goal} {source : Text} {flags quiet : List Flag}
    {texts quietTexts : List Text} (h : Asks goal source flags texts)
    (hq : Asks goal source quiet quietTexts) (hverbose : .verbose ∉ quiet)
    (htrace : .traceTokens ∉ quiet) (program : Text) (host : Host) (clock quietClock : Clock) :
    ∃ status streams,
      EStateM.run (Session.run program host quietClock quietTexts) {} =
        .error (.exit status) streams ∧
      EStateM.run (Session.run program host clock texts) {} = .error (.exit status)
        ⟨streams.out, Text.ofLines (Session.heralds goal flags source) ++
          if status = 0 then Text.ofLines (Session.timings flags clock) else streams.err⟩ ∧
      (status = 0 ∨ status = 1) ∧ (status = 0 ↔ ∃ out, goal.Writes source out) ∧
      ∀ line ∈ Session.heralds goal flags source ++ Session.timings flags clock, line.IsPlain := by
  have hlines : ∀ line ∈ Session.heralds goal flags source ++ Session.timings flags clock,
      line.IsPlain :=
    List.forall_mem_append.mpr
      ⟨Session.isPlain_heralds goal flags source, Session.isPlain_timings flags clock⟩
  rcases Goal.writes_or_fails h.goal_ne with ⟨out, hw⟩ | ⟨error, hf⟩
  · refine ⟨0, _, hq.run_of_writes program host quietClock hw, ?_, .inl rfl,
      iff_of_true rfl ⟨out, hw⟩, hlines⟩
    rw [h.run_of_writes program host clock hw, Session.preface_ofFlags, Session.timing_ofFlags,
      if_pos rfl]
  · obtain ⟨kind, message, offset, hd⟩ := hf.diagnostic?
    refine ⟨1, _, hq.run_of_fails program host quietClock hf hd, ?_, .inr rfl,
      iff_of_false nofun fun ⟨out, hw⟩ => hw.not_fails hf, hlines⟩
    rw [h.run_of_fails program host clock hf hd, Session.preface_ofFlags, Session.preface_ofFlags,
      Session.heralds_eq_nil goal source hverbose htrace, if_neg (by decide)]
    rfl

theorem Session.run_beside_quiet_unclosed :
    Asks .compile "2*(" [.verbose, .traceTokens] ["-v", "2*(", "--debug-emit-lexemes"] ∧
      Asks .compile "2*(" [] ["2*("] ∧ ∃ streams,
        EStateM.run (Session.run "exprc" ⟨none, "Linux", "CPython", "3.11"⟩ {} ["2*("]) {} =
          .error (.exit 1) streams ∧
        EStateM.run (Session.run "exprc" ⟨none, "Linux", "CPython", "3.11"⟩ ⟨0, 2500000⟩
          ["-v", "2*(", "--debug-emit-lexemes"]) {} = .error (.exit 1) ⟨streams.out,
            Text.ofLines ["[INFO] Compiling expression for target 'amd64-unknown-linux'...",
              "INTEGER 2 '(command-line-interface):1'", "OPERATOR '*' '(command-line-interface):2'",
              "OPERATOR '(' '(command-line-interface):3'",
              "EOF 0 '(command-line-interface):4'"] ++ streams.err⟩ := by
  have hloud : Asks .compile "2*(" [.verbose, .traceTokens]
      ["-v", "2*(", "--debug-emit-lexemes"] :=
    { goal_ne := nofun
      head_ne := by decide
      goal_mem := by decide
      flags_mem := by decide
      mixes := .flag (by decide) (.operand _ (.flag (by decide) .nil)) }
  have hquiet : Asks .compile "2*(" [] ["2*("] :=
    { goal_ne := nofun
      head_ne := by decide
      goal_mem := by decide
      flags_mem := by decide
      mixes := .operand _ .nil }
  have hfails : Goal.Fails "2*(" .compile (.expectedNumber (.endAt 3)) :=
    @Goal.Fails.parse _ _
      [⟨.integer, "2", .number 2, 0⟩, .operator 1 '*', .operator 2 '(', .endAt 3]
      _ nofun (by decide +kernel) rfl
  have hheralds : Session.heralds .compile [.verbose, .traceTokens] "2*(" =
      ["[INFO] Compiling expression for target 'amd64-unknown-linux'...",
        "INTEGER 2 '(command-line-interface):1'", "OPERATOR '*' '(command-line-interface):2'",
        "OPERATOR '(' '(command-line-interface):3'", "EOF 0 '(command-line-interface):4'"] := by
    decide +kernel
  obtain ⟨status, streams, hrun, hrun', hstatus, hzero, -⟩ :=
    Session.run_beside_quiet hloud hquiet (by decide) (by decide) "exprc"
      ⟨none, "Linux", "CPython", "3.11"⟩ ⟨0, 2500000⟩ {}
  obtain rfl : status = 1 := hstatus.resolve_left fun h =>
    let ⟨_, hwrites⟩ := hzero.mp h
    hwrites.not_fails hfails
  rw [hheralds, if_neg (by decide)] at hrun'
  exact ⟨hloud, hquiet, streams, hrun, hrun'⟩

end ArithAsm
