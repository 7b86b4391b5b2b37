import ArithAsm.Proofs.Requests

/-!
The separator of a command line. Behind it every text is an operand, however it looks, and the
separator itself is dropped if the first run of operands goes on up to it. A flag that stands behind
an operand ends the run before that; then the separator is taken for one more operand, and so the
command line is refused.
-/

namespace ArithAsm

/-- No flag stands behind an operand, where the flags are the texts with a dash in front. -/
def FlagsLead (texts : List Text) : Prop :=
  texts.Pairwise fun first second => second.head? = some '-' → first.head? = some '-'

instance (texts : List Text) : Decidable (FlagsLead texts) :=
  inferInstanceAs (Decidable (List.Pairwise _ _))

/-! ### Flags in front of operands -/

lemma Flag.head?_of_mem_spellings {flag : Flag} :
    ∀ spelling ∈ flag.spellings, spelling.head? = some '-' := by
  cases flag <;> decide

variable {texts : List Text}

lemma flagsLead_cons_of_flag {text : Text} (h : text.head? = some '-') :
    FlagsLead (text :: texts) ↔ FlagsLead texts := by
  rw [FlagsLead, List.pairwise_cons]
  exact and_iff_right fun _ _ _ => h

lemma flagsLead_cons_of_operand {text : Text} (h : text.head? ≠ some '-') :
    FlagsLead (text :: texts) ↔ (∀ other ∈ texts, other.head? ≠ some '-') ∧ FlagsLead texts := by
  rw [FlagsLead, List.pairwise_cons]
  exact and_congr_left' (forall₂_congr fun _ _ => ⟨fun hlead hdash => h (hlead hdash),
    fun hdash hother => absurd hother hdash⟩)

lemma Mixes.flags_eq_nil_iff {flags : List Flag} {operands : List Text}
    (h : Mixes flags operands texts)
    (ho : ∀ operand ∈ operands, operand.head? ≠ some '-') :
    flags = [] ↔ ∀ text ∈ texts, text.head? ≠ some '-' := by
  induction h with
  | nil => simp
  | flag mem rest ih => simp [Flag.head?_of_mem_spellings _ mem]
  | operand text rest ih =>
    rw [List.forall_mem_cons] at ho
    rw [ih ho.2, List.forall_mem_cons]
    exact (and_iff_right ho.1).symm

lemma Mixes.operands_ne_nil {flags : List Flag} {operands : List Text}
    (h : Mixes flags operands texts) (hlead : ¬ FlagsLead texts) : operands ≠ [] := by
  induction h with
  | nil => exact absurd List.Pairwise.nil hlead
  | flag mem rest ih =>
    exact ih (mt (flagsLead_cons_of_flag (Flag.head?_of_mem_spellings _ mem)).mpr hlead)
  | operand text rest ih => exact List.cons_ne_nil _ _

/-! ### The tally, with operands in order -/

namespace Arguments

namespace Tally

@[simp] lemma operand_ended (tally : Tally) (text : Text) :
    (tally.operand text).ended = tally.ended := by
  unfold operand
  split <;> rfl

@[simp] lemma operand_switches (tally : Tally) (text : Text) :
    (tally.operand text).switches = tally.switches := by
  unfold operand
  split <;> rfl

lemma operand_of_ended {tally : Tally} (h : tally.ended = true) (text : Text) :
    tally.operand text = { tally with behind := tally.behind ++ [text] } := by
  rw [operand, if_pos h]

lemma operand_of_not_ended {tally : Tally} (h : tally.ended = false) (text : Text) :
    tally.operand text = { tally with run := tally.run ++ [text] } := by
  rw [operand, if_neg (Bool.eq_false_iff.mp h)]

lemma take_ofText_of_head? (tally : Tally) {text : Text} (h : text.head? ≠ some '-') :
    tally.take (Argument.ofText text) = .ok (tally.operand text) := by
  rw [Argument.ofText, if_pos h]
  rfl

/-- Nothing is behind the run as long as that goes on. -/
def Orderly (tally : Tally) : Prop := tally.ended = false → tally.behind = []

/-- A tally becomes another one when flags and operands are read. The operands keep their order, and
a flag ends the run if there is one. -/
structure Becomes (flags : List Flag) (operands texts : List Text) (tally later : Tally) :
    Prop where
  operands_eq : later.operands = tally.operands ++ operands
  switches_eq : later.switches = flags.foldl Switches.set tally.switches
  orderly : later.Orderly
  ended_iff : later.ended = false ↔
    tally.ended = false ∧ (tally.run = [] ∨ flags = []) ∧ FlagsLead texts

variable {flags : List Flag} {operands texts : List Text} {tally later : Tally} {text : Text}

lemma Becomes.flag {flag : Flag} (hdash : text.head? = some '-')
    (h : Becomes flags operands texts { tally.endRun with switches := tally.switches.set flag }
      later) : Becomes (flag :: flags) operands (text :: texts) tally later where
  operands_eq := h.operands_eq
  switches_eq := h.switches_eq
  orderly := h.orderly
  ended_iff := by
    rw [h.ended_iff, flagsLead_cons_of_flag hdash]
    by_cases hrun : tally.run = [] <;> simp [endRun, hrun]

lemma Orderly.operand (h : tally.Orderly) (text : Text) : (tally.operand text).Orderly := by
  intro hended
  rw [operand_ended] at hended
  rw [operand_of_not_ended hended]
  exact h hended

lemma Orderly.operands_operand (h : tally.Orderly) (text : Text) :
    (tally.operand text).operands = tally.operands ++ [text] := by
  cases hended : tally.ended with
  | true => rw [operand_of_ended hended, operands, operands, List.append_assoc]
  | false =>
    rw [operand_of_not_ended hended]
    simp only [operands, h hended, List.append_nil]

lemma Becomes.operand (horderly : tally.Orderly) (hdash : text.head? ≠ some '-')
    (hflags : flags = [] ↔ ∀ other ∈ texts, other.head? ≠ some '-')
    (h : Becomes flags operands texts (tally.operand text) later) :
    Becomes flags (text :: operands) (text :: texts) tally later where
  operands_eq := by
    rw [h.operands_eq, horderly.operands_operand, List.append_assoc, List.singleton_append]
  switches_eq := by rw [h.switches_eq, operand_switches]
  orderly := h.orderly
  ended_iff := by
    rw [h.ended_iff, operand_ended, flagsLead_cons_of_operand hdash, ← hflags]
    refine and_congr_right fun hended => ?_
    -- the run now holds the operand, so a flag to come ends it
    have hrun : (tally.operand text).run ≠ [] := by simp [operand_of_not_ended hended]
    simp only [hrun, false_or]
    exact ⟨fun hlead => ⟨.inr hlead.1, hlead⟩, And.right⟩

lemma exists_becomes (h : Mixes flags operands texts) (hhelp : .help ∉ flags)
    (ho : ∀ operand ∈ operands, operand.head? ≠ some '-') (horderly : tally.Orderly) :
    ∃ later, (texts.map Argument.ofText).foldlM Tally.take tally = .ok later ∧
      Becomes flags operands texts tally later := by
  induction h generalizing tally with
  | nil => exact ⟨tally, rfl, by simp, rfl, horderly, by simp [FlagsLead]⟩
  | @flag flags operands texts flag spelling mem rest ih =>
    rw [List.mem_cons, not_or] at hhelp
    have hread := tally.take_of_mem_spellings (Ne.symm hhelp.1) mem
    have hended : tally.endRun.Orderly := fun hended => horderly (Bool.or_eq_false_iff.mp hended).1
    obtain ⟨later, hlater, hbecomes⟩ :=
      @ih { tally.endRun with switches := tally.switches.set flag } hhelp.2 ho hended
    refine ⟨later, ?_, hbecomes.flag (Flag.head?_of_mem_spellings _ mem)⟩
    rw [foldlM_take_cons hread]
    exact hlater
  | @operand flags operands texts text rest ih =>
    rw [List.forall_mem_cons] at ho
    obtain ⟨later, hlater, hbecomes⟩ := ih hhelp ho.2 (horderly.operand text)
    refine ⟨later, ?_, hbecomes.operand horderly ho.1 (rest.flags_eq_nil_iff ho.2)⟩
    rw [foldlM_take_cons (tally.take_ofText_of_head? ho.1)]
    exact hlater

lemma foldlM_take_append {front : List Argument}
    (h : front.foldlM take tally = .ok later) (rear : List Argument) :
    (front ++ rear).foldlM take tally = rear.foldlM take later := by
  rw [List.foldlM_append, h]
  rfl

lemma foldlM_take_operand (texts : List Text) (tally : Tally) :
    (texts.map Argument.operand).foldlM Tally.take tally =
      .ok (if tally.ended then { tally with behind := tally.behind ++ texts }
        else { tally with run := tally.run ++ texts }) := by
  induction texts generalizing tally with
  | nil =>
    obtain ⟨run, ended, behind, switches⟩ := tally
    cases ended <;> simp [pure, Except.pure]
  | cons text texts ih =>
    rw [List.map_cons, List.foldlM_cons]
    show List.foldlM Tally.take (tally.operand text) _ = _
    rw [ih, operand_ended]
    cases hended : tally.ended with
    | true => simp [operand_of_ended hended]
    | false => simp [operand_of_not_ended hended]

end Tally

/-! ### Reading up to the separator and on -/

lemma ofTexts_append_separator {front : List Text} (h : ∀ text ∈ front, text ≠ "--")
    (behind : List Text) :
    Argument.ofTexts (front ++ ("--" : Text) :: behind) =
      front.map Argument.ofText ++ (("--" : Text) :: behind).map Argument.operand := by
  induction front with
  | nil => rfl
  | cons text front ih =>
    rw [List.forall_mem_cons] at h
    rw [List.cons_append, Argument.ofTexts, if_neg h.1, ih h.2]
    rfl

variable {flags : List Flag} {operands front : List Text}

/-- The operands on both sides are read in order, and the separator among them unless the flags stand
in front of all operands. -/
lemma read_separated (h : Mixes flags operands front) (hhelp : .help ∉ flags)
    (ho : ∀ operand ∈ operands, operand.head? ≠ some '-') (behind : List Text) :
    read (front ++ ("--" : Text) :: behind) =
      .ok ⟨operands ++ (if FlagsLead front then behind else "--" :: behind), .occurring flags⟩ := by
  obtain ⟨later, hread, hbecomes⟩ := Tally.exists_becomes h hhelp ho
    (show Tally.Orderly {} from fun _ => rfl)
  have hoperands : later.operands = operands := hbecomes.operands_eq
  have hswitches : later.switches = Switches.occurring flags :=
    hbecomes.switches_eq.trans (Switches.ofFlags_eq_occurring flags)
  have hended : later.ended = false ↔ FlagsLead front := by
    rw [hbecomes.ended_iff]
    simp
  have hseparator : "--".toList ∉ operands := fun hm => ho _ hm rfl
  have htally := Tally.foldlM_take_operand (("--" : Text) :: behind) later
  rw [← Tally.foldlM_take_append hread, ← ofTexts_append_separator (h.ne_separator fun operand hm =>
    Argument.isOperand_of_head? (ho operand hm))] at htally
  rw [read_of_foldlM htally]
  by_cases hlead : FlagsLead front
  · have hgoing := hended.mpr hlead
    have hrun : later.run = operands := by
      rw [← hoperands, Tally.operands, hbecomes.orderly hgoing, List.append_nil]
    simp only [hgoing, hrun, hlead, hbecomes.orderly hgoing, hswitches, Bool.false_eq_true, if_false,
      if_true, List.append_nil, List.erase_append_right _ hseparator, List.erase_cons_head]
  · have hover : later.ended = true := by simpa [hlead] using hended
    have hrun : "--".toList ∉ later.run := fun hm =>
      hseparator (hoperands ▸ List.mem_append_left _ hm)
    simp only [hover, if_true, hlead, if_false, hswitches, List.erase_of_not_mem hrun, ← hoperands,
      Tally.operands, List.append_assoc]

end Arguments

/-! ### What is asked for -/

namespace Request

variable {program : Text} {streams : Streams} {flags : List Flag} {operands : List Text}

lemma run_ofArguments_singleton (h : ¬ GoalsClash flags) (operand : Text) :
    EStateM.run (ofArguments program ⟨[operand], .occurring flags⟩) streams =
      .ok ⟨operand, .occurring flags, some .standard, {}⟩ streams := by
  rw [ofArguments_eq h]
  rfl

/-- Only the version can be asked for with another number of operands than one. -/
lemma run_ofArguments_of_length_ne (h : ¬ GoalsClash flags) (hversion : .version ∉ flags)
    (hlength : operands.length ≠ 1) :
    EStateM.run (ofArguments program ⟨operands, .occurring flags⟩) streams =
      .error (.exit 1) { streams with
        err := streams.err ++ (program ++ ": invalid number of arguments" ++ "\n") } := by
  rw [ofArguments_eq h]
  split
  · exact absurd rfl hlength
  · rw [if_neg fun hnone => hversion hnone.2]
    rfl

end Request

lemma Session.run_of_asked_error {program : Text} {texts : List Text} {host : Host} {clock : Clock}
    {streams later : Streams} {ending : Ending}
    (h : EStateM.run (Request.asked program texts) streams = .error ending later) :
    EStateM.run (run program host clock texts) streams = .error ending later := by
  have hasked : run program host clock texts = (Request.asked program texts >>= fun request => do
      guarded request.expression (!request.switches.rawErrors) (perform host clock request)
      abort "Bug in an CLI: toolchain must perform at least one goal!") := by
    rw [Request.asked, bind_assoc]
    rfl
  simp only [hasked, EStateM.run_bind, h]

/-- **The separator counts where a flag stands behind an operand.** Take a command line with a
separator: in front of it flags, with no two goals that clash and none of them for help or the
version, and operands that begin with no dash, in any order; behind it any texts. If no flag stands
behind an operand, the operands are those in front of the separator and all texts behind it.
Otherwise the separator is one more operand, between the others. So the session is refused for the
number of operands where they are not just one, and also wherever a flag stands behind an operand.
-/
theorem Request.asked_with_separator {flags : List Flag} {operands front : List Text}
    (h : Mixes flags operands front) (hhelp : .help ∉ flags) (hversion : .version ∉ flags)
    (hgoals : ¬ GoalsClash flags) (ho : ∀ operand ∈ operands, operand.head? ≠ some '-')
    (behind : List Text) (program : Text) (streams : Streams) :
    (FlagsLead front → Arguments.read (front ++ ("--" : Text) :: behind) =
      .ok ⟨operands ++ behind, .occurring flags⟩) ∧
    (¬ FlagsLead front → Arguments.read (front ++ ("--" : Text) :: behind) =
      .ok ⟨operands ++ ("--" : Text) :: behind, .occurring flags⟩) ∧
    (EStateM.run (asked program (front ++ ("--" : Text) :: behind)) streams = .error (.exit 1)
        { streams with
          err := streams.err ++ (program ++ ": invalid number of arguments" ++ "\n") } ↔
      (operands ++ behind).length ≠ 1 ∨ ¬ FlagsLead front) ∧
    (∀ host clock, (operands ++ behind).length ≠ 1 ∨ ¬ FlagsLead front →
      EStateM.run (Session.run program host clock (front ++ ("--" : Text) :: behind)) streams =
        .error (.exit 1) { streams with
          err := streams.err ++ (program ++ ": invalid number of arguments" ++ "\n") }) ∧
    (∀ operand, operands ++ behind = [operand] → FlagsLead front →
      EStateM.run (asked program (front ++ ("--" : Text) :: behind)) streams =
        .ok ⟨operand, .occurring flags, some .standard, {}⟩ streams) := by
  have hread := Arguments.read_separated h hhelp ho behind
  have hasked := asked_of_read program hread
  have hrefused (hcount : (operands ++ behind).length ≠ 1 ∨ ¬ FlagsLead front) :
      EStateM.run (asked program (front ++ ("--" : Text) :: behind)) streams = .error (.exit 1)
        { streams with
          err := streams.err ++ (program ++ ": invalid number of arguments" ++ "\n") } := by
    rw [hasked, run_ofArguments_of_length_ne hgoals hversion]
    split
    next hlead => exact hcount.resolve_right (not_not.mpr hlead)
    next hlead =>
      -- a flag stands behind an operand, which makes two with the separator
      have hsome : 0 < operands.length := List.length_pos_iff.mpr (h.operands_ne_nil hlead)
      simp only [List.length_append, List.length_cons]
      omega
  have hone (operand : Text) (hone : operands ++ behind = [operand]) (hlead : FlagsLead front) :
      EStateM.run (asked program (front ++ ("--" : Text) :: behind)) streams =
        .ok ⟨operand, .occurring flags, some .standard, {}⟩ streams := by
    rw [hasked, if_pos hlead, hone, run_ofArguments_singleton hgoals]
  refine ⟨fun hlead => ?_, fun hlead => ?_, ⟨fun hrun => ?_, hrefused⟩,
    fun host clock hcount => Session.run_of_asked_error (hrefused hcount), hone⟩
  · rw [hread, if_pos hlead]
  · rw [hread, if_neg hlead]
  · by_contra hcount
    rw [not_or, not_not, not_not] at hcount
    obtain ⟨operand, hoperand⟩ := List.length_eq_one_iff.mp hcount.1
    cases hrun.symm.trans (hone operand hoperand hcount.2)

/-- The flag behind the operand makes two operands of this one; in front of it, it does not. -/
theorem Request.asked_with_separator_behind :
    Arguments.read ["1", "--ast", "--"] = .ok ⟨["1", "--"], { tree := true }⟩ ∧
      EStateM.run (asked "exprc" ["1", "--ast", "--"]) {} =
        .error (.exit 1) ⟨[], "exprc: invalid number of arguments\n"⟩ ∧
      EStateM.run (asked "exprc" ["--ast", "--", "--tokens"]) {} =
        .ok ⟨"--tokens", { tree := true }, some .standard, {}⟩ {} := by
  have hgoals : ¬ GoalsClash [.tree] := by
    rw [← Switches.one_lt_goalCount_iff]
    decide
  have hbehind : Mixes [.tree] ["1"] ["1", "--ast"] := .operand _ (.flag (by decide) .nil)
  have hfront : Mixes [.tree] [] ["--ast"] := .flag (by decide) .nil
  obtain ⟨-, hread, hrefused, -, -⟩ := Request.asked_with_separator hbehind (by decide) (by decide)
    hgoals (by decide) [] "exprc" {}
  obtain ⟨-, -, -, -, hasked⟩ := Request.asked_with_separator hfront (by decide) (by decide) hgoals
    (by decide) ["--tokens"] "exprc" {}
  exact ⟨hread (by decide), hrefused.mpr (.inr (by decide)), hasked _ rfl (by decide)⟩

end ArithAsm
