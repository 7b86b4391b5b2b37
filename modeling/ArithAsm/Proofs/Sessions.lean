import ArithAsm.Cli.Run
import ArithAsm.Proofs.CommandLine
import ArithAsm.Proofs.Compilation
import ArithAsm.Proofs.PlainText

/-!
How sessions end. The stages of a goal write its result or fail with an error. A session that is
asked for the goal ends the program in both cases: with the result on standard output, or with
nothing there and the error shown under the source. What it says besides goes to the error stream,
and stands in front of the error.
-/

namespace ArithAsm

/-! ### What a goal comes to -/

/-- The stages of the goal succeed on the source, and this is what the goal writes about it. -/
inductive Goal.Writes (source : Text) : Goal → Text → Prop where
  | tokens {tokens : List Token} (scan : Token.tokenize source = .ok tokens) :
      Goal.Writes source .tokens (Text.ofLines (tokens.map Token.listed))
  | tree {tokens : List Token} {expr : Expr} (scan : Token.tokenize source = .ok tokens)
      (parse : Expr.parse tokens = .ok expr) : Goal.Writes source .tree (expr.outline ++ "\n")
  | compile {tokens : List Token} {expr : Expr} (scan : Token.tokenize source = .ok tokens)
      (parse : Expr.parse tokens = .ok expr) :
      Goal.Writes source .compile (ArithAsm.compile (some .standard) {} false source).assembly

/-- The first stage of the goal that fails on the source has this error. -/
inductive Goal.Fails (source : Text) : Goal → Error → Prop where
  | scan {goal : Goal} {error : Error} (scan : Token.tokenize source = .error error) :
      Goal.Fails source goal error
  | parse {goal : Goal} {tokens : List Token} {error : Error} (parses : goal ≠ .tokens)
      (scan : Token.tokenize source = .ok tokens)
      (parse : Expr.parse tokens = .error (.error error)) : Goal.Fails source goal error

section Stages

variable {goal other : Goal} {source : Text}

lemma Goal.writes_or_fails (h : goal ≠ .version) :
    (∃ out, goal.Writes source out) ∨ ∃ error, goal.Fails source error := by
  cases hscan : Token.tokenize source with
  | error error => exact .inr ⟨error, .scan hscan⟩
  | ok tokens =>
    by_cases hgoal : goal = .tokens
    · subst hgoal
      exact .inl ⟨_, .tokens hscan⟩
    · cases hparse : Expr.parse tokens with
      | error failure =>
        obtain ⟨error, rfl, -⟩ := parse_error_pointsInto hscan hparse
        exact .inr ⟨error, .parse hgoal hscan hparse⟩
      | ok expr =>
        cases goal with
        | version => exact absurd rfl h
        | tokens => exact absurd rfl hgoal
        | tree => exact .inl ⟨_, .tree hscan hparse⟩
        | compile => exact .inl ⟨_, .compile hscan hparse⟩

lemma Goal.Writes.unique {out out' : Text} (h : goal.Writes source out)
    (h' : goal.Writes source out') : out = out' := by
  cases h with
  | tokens scan =>
    obtain ⟨scan'⟩ := h'
    cases scan.symm.trans scan'
    rfl
  | tree scan parse =>
    obtain - | ⟨scan', parse'⟩ := h'
    cases scan.symm.trans scan'
    cases parse.symm.trans parse'
    rfl
  | compile scan parse =>
    cases h'
    rfl

lemma Goal.Writes.not_fails {out : Text} {error : Error} (h : goal.Writes source out) :
    ¬ goal.Fails source error := by
  rintro (hscan | ⟨hgoal, hscan, hparse⟩)
  · rcases h with ⟨h⟩ | ⟨h, -⟩ | ⟨h, -⟩ <;> cases h.symm.trans hscan
  · rcases h with - | ⟨h, h'⟩ | ⟨h, h'⟩
    · exact hgoal rfl
    all_goals
      cases h.symm.trans hscan
      cases h'.symm.trans hparse

lemma Goal.Fails.unique {error error' : Error} (h : goal.Fails source error)
    (h' : goal.Fails source error') : error = error' := by
  rcases h with scan | ⟨-, scan, parse⟩ <;> rcases h' with scan' | ⟨-, scan', parse'⟩
  · exact Except.error.inj (scan.symm.trans scan')
  · cases scan.symm.trans scan'
  · cases scan.symm.trans scan'
  · cases scan.symm.trans scan'
    exact Failure.error.inj (Except.error.inj (parse.symm.trans parse'))

/-- A goal that parses fails like any other that does, and the scan fails for all alike. -/
lemma Goal.Fails.of_parses {error : Error} (h : goal.Fails source error)
    (hgoal : goal ≠ .tokens → other ≠ .tokens) : other.Fails source error := by
  cases h with
  | scan scan => exact .scan scan
  | parse parses scan parse => exact .parse (hgoal parses) scan parse

lemma Goal.Fails.diagnostic? {error : Error} (h : goal.Fails source error) :
    ∃ kind message, ∃ offset : Nat, error.diagnostic? = some ⟨kind, message, some offset⟩ := by
  have hpoints : ∃ kind, error.PointsInto kind source := by
    cases h with
    | scan scan => exact ⟨_, tokenize_error_pointsInto scan⟩
    | parse parses scan parse =>
      obtain ⟨_, he, hpoints⟩ := parse_error_pointsInto scan parse
      cases he
      exact ⟨_, hpoints⟩
  obtain ⟨kind, message, offset, hd, hlow, -⟩ := hpoints
  exact ⟨kind, message, offset.toNat, by rw [hd, Int.toNat_of_nonneg hlow]⟩

end Stages

/-! ### The steps of a session -/

namespace Session

section Steps

variable (streams : Streams)

lemma run_note (text : Text) :
    EStateM.run (note text) streams = .ok () { streams with err := streams.err ++ text } := rfl

lemma run_exit {α : Type} (status : Nat) :
    EStateM.run (exit status : Session α) streams = .error (.exit status) streams := rfl

def info (verbose : Bool) (text : Text) : Text :=
  if verbose then "[INFO] " ++ text ++ "\n" else []

def announcement (switches : Switches) : Text :=
  info switches.verbose ("Compiling expression for target '" ++ Target.standard.triplet ++ "'...")

lemma run_message_info (text : Text) (verbose : Bool) :
    EStateM.run (message infoLevel text verbose) streams =
      .ok () { streams with err := streams.err ++ info verbose text } := by
  cases verbose
  · simp [message, info, EStateM.run_pure]
  · rfl

/-- What the body wrote before its error stays written. -/
lemma run_tryCatch (body : Session Unit) (handle : Ending → Session Unit) :
    EStateM.run (tryCatch body handle) streams =
      match EStateM.run body streams with
      | .ok _ later => .ok () later
      | .error ending later => EStateM.run (handle ending) later := by
  show EStateM.tryCatch body handle streams = _
  unfold EStateM.tryCatch EStateM.run
  cases body streams <;> rfl

lemma run_tokens (request : Request) :
    EStateM.run (tokens request) streams =
      match Token.tokenize request.expression with
      | .ok tokens =>
        .ok tokens { streams with err := streams.err ++
          if request.switches.traceTokens then Token.trace tokens else [] }
      | .error error => .error (.failed (.error error)) streams := by
  unfold tokens tokenizeTraced
  cases Token.tokenize request.expression <;> rfl

lemma run_tokensGoal {source : Text} {switches : Switches} (h : switches.tokens = true) :
    EStateM.run (tokensGoal ⟨source, switches, some .standard, {}⟩) streams =
      match Token.tokenize source with
      | .ok tokens => .error (.exit 0) ⟨streams.out ++ Token.listing tokens,
          streams.err ++ if switches.traceTokens then Token.trace tokens else []⟩
      | .error error => .error (.failed (.error error)) streams := by
  simp only [tokensGoal, h, Bool.not_true, Bool.false_eq_true, if_false, EStateM.run_bind,
    run_tokens]
  cases Token.tokenize source <;> rfl

lemma run_treeGoal {source : Text} {switches : Switches} (h : switches.tree = true) :
    EStateM.run (treeGoal ⟨source, switches, some .standard, {}⟩) streams =
      match Token.tokenize source with
      | .ok tokens =>
        match Expr.parse tokens with
        | .ok expr => .error (.exit 0) ⟨streams.out ++ (expr.outline ++ "\n"),
            streams.err ++ if switches.traceTokens then Token.trace tokens else []⟩
        | .error failure => .error (.failed failure) ⟨streams.out,
            streams.err ++ if switches.traceTokens then Token.trace tokens else []⟩
      | .error error => .error (.failed (.error error)) streams := by
  simp only [treeGoal, h, Bool.not_true, Bool.false_eq_true, if_false, EStateM.run_bind,
    run_tokens]
  cases Token.tokenize source with
  | error error => rfl
  | ok tokens =>
    dsimp only
    cases Expr.parse tokens <;> rfl

lemma run_compileGoal (source : Text) (switches : Switches) :
    EStateM.run (compileGoal ⟨source, switches, some .standard, {}⟩) streams =
      match compile (some .standard) {} switches.traceTokens source with
      | ⟨trace, assembly, none⟩ => .error (.exit 0) ⟨streams.out ++ assembly,
          streams.err ++ announcement switches ++ trace⟩
      | ⟨trace, _, some failure⟩ => .error (.failed failure) ⟨streams.out,
          streams.err ++ announcement switches ++ trace⟩ := by
  simp only [compileGoal, target, Target.required, EStateM.run_bind, EStateM.run_pure,
    run_message_info, run_note]
  rcases compile (some .standard) {} switches.traceTokens source with ⟨trace, assembly, _ | failure⟩
  · rfl
  · rfl

/-- The source with a message under it, behind a caret that `offset` spaces put in its place. -/
def display (source : Text) (offset : Nat) (message : Text) : Text :=
  source ++ "\n" ++ List.replicate offset ' ' ++ "^ " ++ message ++ "\n"

lemma run_refuse (kind : Diagnostic.Kind) (message : Text) (offset : Nat) (source : Text) :
    EStateM.run (refuse ⟨kind, message, some offset⟩ source : Session Unit) streams =
      .error (.exit 1) { streams with err := streams.err ++ display source offset message } := by
  simp only [refuse, Diagnostic.render_of_column]
  rfl

end Steps

/-! ### From the goal to the whole session -/

/-- What a goal says before it comes to its result: for which target it compiles, and the trace
of the tokens. -/
def preface (goal : Goal) (switches : Switches) (source : Text) : Text :=
  (if goal = .compile then announcement switches else []) ++
    match Token.tokenize source with
    | .ok tokens => if switches.traceTokens then Token.trace tokens else []
    | .error _ => []

lemma tokens_of_goal {switches : Switches} (h : switches.goal = .tokens) :
    switches.tokens = true := by
  unfold Switches.goal at h
  split_ifs at h with hversion htokens
  exact htokens

lemma tree_of_goal {switches : Switches} (h : switches.goal = .tree) : switches.tree = true := by
  unfold Switches.goal at h
  split_ifs at h with hversion htokens htree
  exact htree

lemma standard_supported : ∀ given ∈ some Target.standard, ¬ given.Unsupported := by
  rintro given hgiven hunsupported
  cases hgiven
  exact hunsupported rfl

section Runs

variable {host : Host} {clock : Clock} {source out : Text} {switches : Switches} {goal : Goal}
  {error : Error}

lemma run_goal_of_writes (h : goal.Writes source out) (hg : switches.goal = goal) :
    EStateM.run (Session.goal host ⟨source, switches, some .standard, {}⟩ goal) {} =
      .error (.exit 0) ⟨out, preface goal switches source⟩ := by
  cases h with
  | tokens scan =>
    rw [Session.goal, run_tokensGoal _ (tokens_of_goal hg)]
    simp [preface, scan, Token.listing_eq_ofLines]
  | tree scan parse =>
    rw [Session.goal, run_treeGoal _ (tree_of_goal hg)]
    simp [preface, scan, parse]
  | compile scan parse =>
    have hcompile (traced : Bool) :=
      @compile_of_supported _ {} traced _ _ _ scan parse standard_supported
    rw [Session.goal, run_compileGoal, hcompile, hcompile]
    simp [preface, scan]

lemma run_goal_of_fails (h : goal.Fails source error) (hg : switches.goal = goal)
    (hv : goal ≠ .version) :
    EStateM.run (Session.goal host ⟨source, switches, some .standard, {}⟩ goal) {} =
      .error (.failed (.error error)) ⟨[], preface goal switches source⟩ := by
  cases goal with
  | version => exact absurd rfl hv
  | tokens =>
    rw [Session.goal, run_tokensGoal _ (tokens_of_goal hg)]
    cases h with
    | scan scan => simp [preface, scan]
    | parse parses scan parse => exact absurd rfl parses
  | tree =>
    rw [Session.goal, run_treeGoal _ (tree_of_goal hg)]
    cases h with
    | scan scan => simp [preface, scan]
    | parse parses scan parse => simp [preface, scan, parse]
  | compile =>
    rw [Session.goal, run_compileGoal]
    cases h with
    | scan scan =>
      rw [compile_of_tokenize_error scan]
      simp [preface, scan]
    | parse parses scan parse =>
      rw [compile_of_parse_error scan parse]
      simp [preface, scan]

def timing (switches : Switches) (clock : Clock) : Text :=
  info switches.verbose ("Performing an goal took " ++ clock.seconds ++ " seconds!")

lemma run_perform_of_writes (h : goal.Writes source out) (hg : switches.goal = goal) :
    EStateM.run (perform host clock ⟨source, switches, some .standard, {}⟩) {} =
      .error (.exit 0) ⟨out, preface goal switches source ++ timing switches clock⟩ := by
  subst hg
  simp only [perform, run_tryCatch, run_goal_of_writes h rfl, EStateM.run_bind, run_message_info,
    run_exit]
  rfl

lemma run_perform_of_fails (h : goal.Fails source error) (hg : switches.goal = goal)
    (hv : goal ≠ .version) :
    EStateM.run (perform host clock ⟨source, switches, some .standard, {}⟩) {} =
      .error (.failed (.error error)) ⟨[], preface goal switches source⟩ := by
  subst hg
  simp only [perform, run_tryCatch, run_goal_of_fails h rfl hv]
  rfl

section Guarded

variable {body : Session Unit} {streams later : Streams}

lemma run_guarded_of_exit {friendly : Bool} {status : Nat}
    (h : EStateM.run body streams = .error (.exit status) later) :
    EStateM.run (guarded source friendly body) streams = .error (.exit status) later := by
  simp only [guarded, EStateM.run_bind, run_tryCatch, h]
  rfl

lemma run_guarded_of_error {kind : Diagnostic.Kind} {message : Text} {offset : Nat}
    (h : EStateM.run body streams = .error (.failed (.error error)) later)
    (hd : error.diagnostic? = some ⟨kind, message, some offset⟩) :
    EStateM.run (guarded source true body) streams =
      .error (.exit 1) { later with err := later.err ++ display source offset message } := by
  simp only [guarded, EStateM.run_bind, run_tryCatch, h, hd, Bool.not_true, Bool.false_eq_true,
    if_false, run_refuse]

end Guarded

end Runs

end Session

namespace Asks

variable {goal : Goal} {source : Text} {flags : List Flag} {texts : List Text}
  (h : Asks goal source flags texts) (program : Text) (host : Host) (clock : Clock)
include h

lemma run_arguments (streams : Streams) :
    EStateM.run (Session.arguments program texts) streams =
      .ok ⟨[source], Switches.ofFlags flags⟩ streams := by
  simp only [Session.arguments, h.read]
  rfl

lemma run_ofArguments (streams : Streams) :
    EStateM.run (Request.ofArguments program ⟨[source], Switches.ofFlags flags⟩) streams =
      .ok ⟨source, Switches.ofFlags flags, some .standard, {}⟩ streams := by
  have hcount : ¬ 1 < (Switches.ofFlags flags).goalCount := Nat.not_lt.mpr h.switches.2.1
  simp only [Request.ofArguments, if_neg hcount]
  rfl

lemma run_of_writes {out : Text} (hw : goal.Writes source out) :
    EStateM.run (Session.run program host clock texts) {} =
      .error (.exit 0) ⟨out, Session.preface goal (Switches.ofFlags flags) source ++
        Session.timing (Switches.ofFlags flags) clock⟩ := by
  simp only [Session.run, EStateM.run_bind, h.run_arguments, h.run_ofArguments,
    Session.run_guarded_of_exit (Session.run_perform_of_writes hw h.switches.1)]

lemma run_of_fails {error : Error} {kind : Diagnostic.Kind} {message : Text} {offset : Nat}
    (hf : goal.Fails source error) (hd : error.diagnostic? = some ⟨kind, message, some offset⟩) :
    EStateM.run (Session.run program host clock texts) {} =
      .error (.exit 1) ⟨[], Session.preface goal (Switches.ofFlags flags) source ++
        Session.display source offset message⟩ := by
  have hperform := @Session.run_perform_of_fails host clock _ _ _ _ hf h.switches.1 h.goal_ne
  simp only [Session.run, EStateM.run_bind, h.run_arguments, h.run_ofArguments, h.switches.2.2,
    Bool.not_false, Session.run_guarded_of_error hperform hd]

end Asks

/-! ### How sessions end -/

/-- What the error stream would end with if a goal came back without ending the session: the
handler of errors and the session itself both take that for a bug. -/
def Session.bugMessages : List Text :=
  ["[ERROR] Bug in a CLI: error handler must has no-return\n",
    "[ERROR] Bug in an CLI: toolchain must perform at least one goal!\n"]

/-- The error stream does not end with the message of a bug. -/
def Streams.NoBug (streams : Streams) : Prop :=
  ∀ bug ∈ Session.bugMessages, ¬ bug <:+ streams.err

lemma Streams.noBug_of_isSuffix {streams : Streams} {tail : Text} (h : tail <:+ streams.err)
    (htail : ∀ bug ∈ Session.bugMessages, tail.length ≤ bug.length ∧ ¬ tail <:+ bug) :
    streams.NoBug := fun bug hbug hsuffix =>
  (htail bug hbug).2 (List.suffix_of_suffix_length_le h hsuffix (htail bug hbug).1)

lemma Streams.noBug_of_err_eq_nil {streams : Streams} (h : streams.err = []) :
    streams.NoBug := by
  intro bug hbug hsuffix
  rw [h, List.suffix_nil] at hsuffix
  subst hsuffix
  revert hbug
  decide

lemma Token.isSuffix_traceLine (token : Token) : ("'\n" : Text) <:+ token.traceLine := by
  have hquote (front place : Text) : ("'\n" : Text) <:+ front ++ (place ++ "'") ++ "\n" :=
    ⟨front ++ place, by rw [← List.append_assoc, List.append_assoc _ "'".toList]; rfl⟩
  exact hquote _ _

/-- Traced tokens, if there are any, end with a place in quotes. -/
lemma Token.trace_eq_nil_or_isSuffix (tokens : List Token) :
    Token.trace tokens = [] ∨ ("'\n" : Text) <:+ Token.trace tokens := by
  rcases List.eq_nil_or_concat tokens with rfl | ⟨front, last, rfl⟩
  · exact .inl rfl
  · refine .inr (last.isSuffix_traceLine.trans ?_)
    rw [trace, List.concat_eq_append, List.flatMap_append, List.flatMap_singleton]
    exact List.suffix_append _ _

namespace Session

lemma preface_eq_nil_or_isSuffix (goal : Goal) {switches : Switches} (source : Text)
    (h : switches.verbose = false) :
    preface goal switches source = [] ∨ ("'\n" : Text) <:+ preface goal switches source := by
  have hnone : announcement switches = [] := by rw [announcement, h]; rfl
  rw [preface, hnone, ite_self, List.nil_append]
  split
  next tokens scan =>
    split
    · exact Token.trace_eq_nil_or_isSuffix tokens
    · exact .inl rfl
  next error scan => exact .inl rfl

lemma noBug_of_success (goal : Goal) (switches : Switches) (source out : Text) (clock : Clock) :
    Streams.NoBug ⟨out, preface goal switches source ++ timing switches clock⟩ := by
  cases hverbose : switches.verbose with
  | true =>
    have htiming : (" seconds!\n" : Text) <:+ timing switches clock := by
      refine ⟨"[INFO] Performing an goal took " ++ clock.seconds, ?_⟩
      simp [timing, info, hverbose]
    exact Streams.noBug_of_isSuffix (htiming.trans (List.suffix_append _ _)) (by decide)
  | false =>
    have htiming : timing switches clock = [] := by rw [timing, hverbose]; rfl
    rw [htiming, List.append_nil]
    rcases preface_eq_nil_or_isSuffix goal source hverbose with h | h
    · exact Streams.noBug_of_err_eq_nil h
    · exact Streams.noBug_of_isSuffix h (by decide)

lemma noBug_of_diagnostic? {error : Error} {kind : Diagnostic.Kind} {message : Text}
    {place : Option Int} (h : error.diagnostic? = some ⟨kind, message, place⟩)
    (out front source : Text) (offset : Nat) :
    Streams.NoBug ⟨out, front ++ display source offset message⟩ := by
  have hend {tail : Text} (ht : tail <:+ message ++ "\n") :
      tail <:+ front ++ display source offset message := by
    rw [display, List.append_assoc _ message]
    exact ht.trans ((List.suffix_append _ _).trans (List.suffix_append _ _))
  cases error <;> cases h
  -- the source may hold anything, so only how the message ends tells the two apart
  case expectedSymbol symbol got =>
    have hquote : ("'\n" : Text) <:+ "not the expected symbol '" ++ symbol ++ "'" ++ "\n" :=
      ⟨"not the expected symbol '" ++ symbol, by simp⟩
    exact Streams.noBug_of_isSuffix (hend hquote) (by decide)
  all_goals exact Streams.noBug_of_isSuffix (hend List.suffix_rfl) (by decide)

end Session

/-- **Every session that is asked for a goal exits.** The status is zero just if the stages of the
goal succeed, and then their result and nothing else is on standard output; where that is a listing,
each token has a single line in it. Otherwise the status is one, nothing is there, and the error of
the first stage that fails is shown under the source; a goal that fails at the same stage shows the
same. No session ends with the message of a bug. -/
theorem Session.run_exits {goal : Goal} {source : Text} {flags : List Flag} {texts : List Text}
    (h : Asks goal source flags texts) (program : Text) (host : Host) (clock : Clock) :
    ∃ status streams,
      EStateM.run (Session.run program host clock texts) {} = .error (.exit status) streams ∧
      (status = 0 ∨ status = 1) ∧
      (status = 0 ↔ ∃ out, goal.Writes source out) ∧
      (status = 0 → goal.Writes source streams.out) ∧
      (∀ tokens, Token.tokenize source = .ok tokens → ∀ token ∈ tokens, '\n' ∉ token.listed) ∧
      (status = 1 → streams.out = [] ∧ ∃ error kind message, ∃ offset : Nat,
        goal.Fails source error ∧ error.diagnostic? = some ⟨kind, message, some offset⟩ ∧
        Session.display source offset message <:+ streams.err ∧
        ∀ other otherFlags otherTexts, Asks other source otherFlags otherTexts →
          (goal ≠ .tokens → other ≠ .tokens) → ∃ otherStreams,
            EStateM.run (Session.run program host clock otherTexts) {} =
              .error (.exit 1) otherStreams ∧ otherStreams.out = [] ∧
            Session.display source offset message <:+ otherStreams.err) ∧
      streams.NoBug := by
  have hlisted (tokens : List Token) (hscan : Token.tokenize source = .ok tokens) :
      ∀ token ∈ tokens, '\n' ∉ token.listed :=
    (Token.tokenize_eq_ok_iff.mp hscan).newline_not_mem_listed
  rcases Goal.writes_or_fails h.goal_ne with ⟨out, hw⟩ | ⟨error, hf⟩
  · refine ⟨0, _, h.run_of_writes program host clock hw, .inl rfl, ?_, fun _ => hw, hlisted, nofun,
      ?_⟩
    · exact iff_of_true rfl ⟨out, hw⟩
    · exact Session.noBug_of_success _ _ _ _ _
  · obtain ⟨kind, message, offset, hd⟩ := hf.diagnostic?
    refine ⟨1, _, h.run_of_fails program host clock hf hd, .inr rfl, ?_, nofun, hlisted, fun _ =>
      ⟨rfl, error, kind, message, offset, hf, hd, List.suffix_append _ _, ?_⟩, ?_⟩
    · exact iff_of_false nofun fun ⟨out, hw⟩ => hw.not_fails hf
    · intro other otherFlags otherTexts hother hparses
      exact ⟨_, hother.run_of_fails program host clock (hf.of_parses hparses) hd, rfl,
        List.suffix_append _ _⟩
    · exact Session.noBug_of_diagnostic? hd _ _ _ _

/-- A parenthesis that is not closed has no tree, but its tokens are listed. Closed, it has a tree
and a program as well. -/
theorem Session.run_exits_unclosed :
    let run (texts : List Text) :=
      EStateM.run (Session.run "exprc" ⟨none, "Linux", "CPython", "3.11"⟩ {} texts) {}
    (Asks .tree "2*(3-" [.tree, .verbose] ["--ast", "2*(3-", "-v"] ∧
        Asks .tokens "2*(3-" [.tokens] ["2*(3-", "--tokens"] ∧
        Asks .tree "2*(3-1)" [.tree] ["2*(3-1)", "--ast"] ∧
        Asks .compile "2*(3-1)" [] ["2*(3-1)"]) ∧
      (∃ streams, run ["--ast", "2*(3-", "-v"] = .error (.exit 1) streams ∧ streams.out = [] ∧
        ("2*(3-\n     ^ not a digit\n" : Text) <:+ streams.err) ∧
      (∃ streams, run ["2*(3-", "--tokens"] = .error (.exit 0) streams ∧
        streams.out = Text.ofLines ["0\tINTEGER\t2", "1\tOPERATOR\t'*'", "2\tOPERATOR\t'('",
          "3\tINTEGER\t3", "4\tOPERATOR\t'-'", "5\tEOF\t0"]) ∧
      (∃ streams, run ["2*(3-1)", "--ast"] = .error (.exit 0) streams ∧
        streams.out = Text.ofLines ["MULTIPLY (*)", "  NUMBER_LITERAL 2", "  SUBTRACT (-)",
          "    NUMBER_LITERAL 3", "    NUMBER_LITERAL 1"]) ∧
      ∃ streams, run ["2*(3-1)"] = .error (.exit 0) streams ∧
        streams.out = Text.ofLines [".intel_syntax noprefix", ".global main", "main:", "  push 2",
          "  push 3", "  push 1", "  pop rdi", "  pop rax", "  sub rax, rdi", "  push rax",
          "  pop rdi", "  pop rax", "  imul rax, rdi", "  push rax", "  pop rax", "  ret"] := by
  intro run
  have hunclosed : Asks .tree "2*(3-" [.tree, .verbose] ["--ast", "2*(3-", "-v"] :=
    { goal_ne := nofun
      head_ne := by decide
      goal_mem := by decide
      flags_mem := by decide
      mixes := .flag (by decide) (.operand _ (.flag (by decide) .nil)) }
  have htokens : Asks .tokens "2*(3-" [.tokens] ["2*(3-", "--tokens"] :=
    { goal_ne := nofun
      head_ne := by decide
      goal_mem := by decide
      flags_mem := by decide
      mixes := .operand _ (.flag (by decide) .nil) }
  have htree : Asks .tree "2*(3-1)" [.tree] ["2*(3-1)", "--ast"] :=
    { goal_ne := nofun
      head_ne := by decide
      goal_mem := by decide
      flags_mem := by decide
      mixes := .operand _ (.flag (by decide) .nil) }
  have hcompile : Asks .compile "2*(3-1)" [] ["2*(3-1)"] :=
    { goal_ne := nofun
      head_ne := by decide
      goal_mem := by decide
      flags_mem := by decide
      mixes := .operand _ .nil }
  have hscan : Token.tokenize "2*(3-" = .ok [⟨.integer, "2", .number 2, 0⟩, .operator 1 '*',
      .operator 2 '(', ⟨.integer, "3", .number 3, 3⟩, .operator 4 '-', .endAt 5] := by
    decide +kernel
  have hclosed : Token.tokenize "2*(3-1)" = .ok [⟨.integer, "2", .number 2, 0⟩, .operator 1 '*',
      .operator 2 '(', ⟨.integer, "3", .number 3, 3⟩, .operator 4 '-',
      ⟨.integer, "1", .number 1, 5⟩, .operator 6 ')', .endAt 7] := by
    decide +kernel
  have hfails : Goal.Fails "2*(3-" .tree (.expectedNumber (.endAt 5)) :=
    .parse nofun hscan rfl
  have hsucceeds {goal : Goal} {source out : Text} {flags : List Flag} {texts : List Text}
      (h : Asks goal source flags texts) (hw : goal.Writes source out) :
      ∃ streams, run texts = .error (.exit 0) streams ∧ streams.out = out := by
    obtain ⟨status, streams, hrun, -, hzero, hwrites, -⟩ :=
      Session.run_exits h "exprc" ⟨none, "Linux", "CPython", "3.11"⟩ {}
    obtain rfl : status = 0 := hzero.mpr ⟨out, hw⟩
    exact ⟨streams, hrun, (hwrites rfl).unique hw⟩
  refine ⟨⟨hunclosed, htokens, htree, hcompile⟩, ?_, ?_, ?_, ?_⟩
  · obtain ⟨status, streams, hrun, hstatus, hzero, -, -, hone, -⟩ :=
      Session.run_exits hunclosed "exprc" ⟨none, "Linux", "CPython", "3.11"⟩ {}
    obtain rfl : status = 1 := hstatus.resolve_left fun h =>
      let ⟨_, hwrites⟩ := hzero.mp h
      hwrites.not_fails hfails
    obtain ⟨hout, error, kind, message, offset, herror, hdiagnostic, herr, -⟩ := hone rfl
    obtain rfl := herror.unique hfails
    cases hdiagnostic
    exact ⟨streams, hrun, hout, herr⟩
  · obtain ⟨streams, hrun, hout⟩ := hsucceeds htokens (.tokens hscan)
    exact ⟨streams, hrun, hout.trans (congrArg Text.ofLines (by decide +kernel))⟩
  · obtain ⟨streams, hrun, hout⟩ := hsucceeds htree (.tree hclosed rfl)
    exact ⟨streams, hrun, hout.trans (by decide +kernel)⟩
  · obtain ⟨streams, hrun, hout⟩ := hsucceeds hcompile (.compile hclosed rfl)
    exact ⟨streams, hrun, hout.trans (by decide +kernel)⟩

end ArithAsm
