import ArithAsm.Cli.Request
import Mathlib.Data.List.Basic
import Mathlib.Tactic.Common

/-!
Reading command lines. Flags and operands may be mixed in any order: the flags that are set are
those that occur, and every operand is taken, wherever it stands.
-/

namespace ArithAsm

/-- The command line has these flags, each in one of its spellings, and these operands. Flags keep
their order, and so do operands, but the two may be mixed. -/
inductive Mixes : List Flag → List Text → List Text → Prop where
  | nil : Mixes [] [] []
  | flag {flags operands texts} {flag : Flag} {spelling : Text} (mem : spelling ∈ flag.spellings)
      (rest : Mixes flags operands texts) : Mixes (flag :: flags) operands (spelling :: texts)
  | operand {flags operands texts} (operand : Text) (rest : Mixes flags operands texts) :
      Mixes flags (operand :: operands) (operand :: texts)

/-! ### Switches as sets of flags -/

namespace Switches

/-- A flag is among the switches; the one for help never is. -/
def has (switches : Switches) : Flag → Bool
  | .help => false
  | .version => switches.version
  | .tokens => switches.tokens
  | .tree => switches.tree
  | .verbose => switches.verbose
  | .traceTokens => switches.traceTokens
  | .rawErrors => switches.rawErrors

lemma has_set (switches : Switches) (flag : Flag) {other : Flag} (h : other ≠ .help) :
    (switches.set flag).has other = (switches.has other || decide (other = flag)) := by
  cases flag <;> cases other <;> simp [set, has] at h ⊢

/-- Whatever the order of the flags and however often each is given, those that occur are set. -/
lemma has_foldl_set (flags : List Flag) (switches : Switches) {other : Flag}
    (h : other ≠ .help) :
    (flags.foldl set switches).has other = (switches.has other || decide (other ∈ flags)) := by
  induction flags generalizing switches with
  | nil => simp
  | cons flag flags ih =>
    rw [List.foldl_cons, ih, has_set _ _ h, Bool.or_assoc]
    simp

def ofFlags (flags : List Flag) : Switches := flags.foldl set {}

lemma has_ofFlags (flags : List Flag) {other : Flag} (h : other ≠ .help) :
    (ofFlags flags).has other = decide (other ∈ flags) := by
  rw [ofFlags, has_foldl_set flags {} h]
  cases other <;> rfl

/-- Each switch is set just if its flag occurs. -/
def occurring (flags : List Flag) : Switches where
  version := .version ∈ flags
  tokens := .tokens ∈ flags
  tree := .tree ∈ flags
  verbose := .verbose ∈ flags
  traceTokens := .traceTokens ∈ flags
  rawErrors := .rawErrors ∈ flags

lemma eq_of_has {switches other : Switches}
    (h : ∀ flag ≠ Flag.help, switches.has flag = other.has flag) : switches = other := by
  obtain ⟨version, tokens, tree, verbose, traceTokens, rawErrors⟩ := switches
  obtain rfl : version = _ := h .version (by decide)
  obtain rfl : tokens = _ := h .tokens (by decide)
  obtain rfl : tree = _ := h .tree (by decide)
  obtain rfl : verbose = _ := h .verbose (by decide)
  obtain rfl : traceTokens = _ := h .traceTokens (by decide)
  obtain rfl : rawErrors = _ := h .rawErrors (by decide)
  rfl

lemma ofFlags_eq_occurring (flags : List Flag) : ofFlags flags = occurring flags := by
  refine eq_of_has fun flag hflag => ?_
  rw [has_ofFlags flags hflag]
  cases flag with
  | help => exact absurd rfl hflag
  | _ => rfl

lemma occurring_congr {flags others : List Flag} (h : ∀ flag, flag ∈ flags ↔ flag ∈ others) :
    occurring flags = occurring others := by
  simp only [occurring, h]

end Switches

/-! ### Arguments one by one -/

namespace Argument

def operand? : Argument → Option Text
  | .operand text | .unknown text => some text
  | _ => none

/-- The text is an operand of a command line without a separator. -/
def IsOperand (text : Text) : Prop := text ≠ "--" ∧ (ofText text).operand? = some text

lemma isOperand_of_head? {text : Text} (h : text.head? ≠ some '-') : IsOperand text := by
  refine ⟨?_, by simp [ofText, h, operand?]⟩
  rintro rfl
  exact h rfl

lemma ofText_of_mem_spellings {flag : Flag} :
    ∀ text ∈ flag.spellings, ofText text = .bare flag := by
  cases flag <;> decide

lemma ne_separator_of_mem_spellings {flag : Flag} : ∀ text ∈ flag.spellings, text ≠ "--" := by
  cases flag <;> decide

lemma ofTexts_eq_map {texts : List Text} (h : ∀ text ∈ texts, text ≠ "--") :
    ofTexts texts = texts.map ofText := by
  induction texts with
  | nil => rfl
  | cons text texts ih =>
    rw [ofTexts, if_neg (h text List.mem_cons_self), ih fun text hm => h text (.tail _ hm),
      List.map_cons]

end Argument

lemma Mixes.ne_separator {flags : List Flag} {operands texts : List Text}
    (h : Mixes flags operands texts) (ho : ∀ text ∈ operands, Argument.IsOperand text) :
    ∀ text ∈ texts, text ≠ "--" := by
  induction h with
  | nil => simp
  | flag mem rest ih =>
    exact List.forall_mem_cons.mpr ⟨Argument.ne_separator_of_mem_spellings _ mem, ih ho⟩
  | operand text rest ih =>
    rw [List.forall_mem_cons] at ho
    exact List.forall_mem_cons.mpr ⟨ho.1.1, ih ho.2⟩

/-! ### The tally -/

namespace Arguments

def Tally.operands (tally : Tally) : List Text := tally.run ++ tally.behind

lemma Tally.take_of_mem_spellings (tally : Tally) {flag : Flag} (h : flag ≠ .help) {text : Text}
    (mem : text ∈ flag.spellings) :
    tally.take (Argument.ofText text) =
      .ok { tally.endRun with switches := tally.switches.set flag } := by
  rw [Argument.ofText_of_mem_spellings text mem]
  simp [take, flags, h.symm]

lemma Tally.foldlM_take_cons {tally between : Tally} {text : Text}
    (h : tally.take (Argument.ofText text) = .ok between) (texts : List Text) :
    ((text :: texts).map Argument.ofText).foldlM take tally =
      (texts.map Argument.ofText).foldlM take between := by
  rw [List.map_cons, List.foldlM_cons, h]
  rfl

/-- An operand is taken, in the run or behind it, and nothing else changes. -/
lemma Tally.take_of_operand? (tally : Tally) {argument : Argument} {text : Text}
    (h : argument.operand? = some text) :
    ∃ later, tally.take argument = .ok later ∧
      later.operands.Perm (tally.operands ++ [text]) ∧ later.switches = tally.switches := by
  have hbehind : (tally.run ++ (tally.behind ++ [text])).Perm (tally.operands ++ [text]) := by
    rw [operands, List.append_assoc]
  cases argument with
  | operand other =>
    obtain rfl := Option.some_inj.mp h
    refine ⟨_, rfl, ?_⟩
    unfold Tally.operand
    split
    · exact ⟨hbehind, rfl⟩
    · -- the run grows in front of what stands behind it already
      refine ⟨?_, rfl⟩
      simp only [operands, List.append_assoc]
      exact List.perm_append_comm.append_left tally.run
  | unknown other =>
    obtain rfl := Option.some_inj.mp h
    exact ⟨_, rfl, hbehind, rfl⟩
  | bare flag => cases h
  | attached flag letter other => cases h

lemma Tally.foldlM_take {flags : List Flag} {operands texts : List Text}
    (h : Mixes flags operands texts) (hhelp : Flag.help ∉ flags)
    (ho : ∀ text ∈ operands, Argument.IsOperand text) (tally : Tally) :
    ∃ later, (texts.map Argument.ofText).foldlM Tally.take tally = .ok later ∧
      later.operands.Perm (tally.operands ++ operands) ∧
      later.switches = flags.foldl Switches.set tally.switches := by
  induction h generalizing tally with
  | nil => exact ⟨tally, rfl, by simp, rfl⟩
  | flag mem rest ih =>
    rw [List.mem_cons, not_or] at hhelp
    obtain ⟨later, hread, hperm, hset⟩ :=
      ih hhelp.2 ho { tally.endRun with switches := tally.switches.set _ }
    refine ⟨later, ?_, hperm, hset⟩
    rw [foldlM_take_cons (tally.take_of_mem_spellings (Ne.symm hhelp.1) mem)]
    exact hread
  | operand text rest ih =>
    rw [List.forall_mem_cons] at ho
    obtain ⟨between, htake, hone, hsame⟩ := tally.take_of_operand? ho.1.2
    obtain ⟨later, hread, hperm, hset⟩ := ih hhelp ho.2 between
    refine ⟨later, ?_, ?_, by rw [hset, hsame]⟩
    · rw [foldlM_take_cons htake]
      exact hread
    · rw [List.append_cons]
      exact hperm.trans (hone.append_right _)

lemma read_of_foldlM {texts : List Text} {tally : Tally}
    (h : (Argument.ofTexts texts).foldlM Tally.take {} = .ok tally) :
    read texts = .ok ⟨tally.run.erase "--" ++ tally.behind, tally.switches⟩ := by
  rw [read, h]

/-- A mixed command line is read as its operands, in some order, and the switches of its flags. -/
lemma read_of_mixes {flags : List Flag} {operands texts : List Text}
    (h : Mixes flags operands texts) (hhelp : Flag.help ∉ flags)
    (ho : ∀ text ∈ operands, Argument.IsOperand text) :
    ∃ taken, read texts = .ok ⟨taken, Switches.ofFlags flags⟩ ∧ taken.Perm operands := by
  obtain ⟨tally, hread, hperm, hset⟩ := Tally.foldlM_take h hhelp ho {}
  have hperm : (tally.run ++ tally.behind).Perm operands := hperm
  have hseparator : "--".toList ∉ tally.run := fun hm =>
    (ho _ (hperm.subset (List.mem_append_left _ hm))).1 rfl
  rw [← Argument.ofTexts_eq_map (h.ne_separator ho)] at hread
  refine ⟨tally.run ++ tally.behind, ?_, hperm⟩
  rw [read_of_foldlM hread, List.erase_of_not_mem hseparator, hset]
  rfl

end Arguments

/-! ### Asking for a goal -/

def Goal.flag? : Goal → Option Flag
  | .version => some .version
  | .tokens => some .tokens
  | .tree => some .tree
  | .compile => none

/-- The command line asks for this goal about a source that does not look like a flag. It may also
ask for more messages, and for nothing else. -/
structure Asks (goal : Goal) (source : Text) (flags : List Flag) (texts : List Text) : Prop where
  goal_ne : goal ≠ .version
  head_ne : source.head? ≠ some '-'
  goal_mem : ∀ flag ∈ goal.flag?, flag ∈ flags
  flags_mem : ∀ flag ∈ flags, flag ∈ goal.flag? ∨ flag = .verbose ∨ flag = .traceTokens
  mixes : Mixes flags [source] texts

namespace Asks

variable {goal : Goal} {source : Text} {flags : List Flag} {texts : List Text}

lemma read (h : Asks goal source flags texts) :
    Arguments.read texts = .ok ⟨[source], Switches.ofFlags flags⟩ := by
  have hhelp : Flag.help ∉ flags := fun hm => by
    have := h.flags_mem _ hm
    cases goal <;> simp [Goal.flag?] at this
  obtain ⟨taken, hread, hperm⟩ := Arguments.read_of_mixes h.mixes hhelp <| by
    simpa using Argument.isOperand_of_head? h.head_ne
  rw [hread, List.perm_singleton.mp hperm]

lemma has_eq (h : Asks goal source flags texts) (flag : Flag)
    (hflag : flag ∉ ([.help, .verbose, .traceTokens] : List Flag)) :
    (Switches.ofFlags flags).has flag = decide (flag ∈ goal.flag?) := by
  simp only [List.mem_cons, List.not_mem_nil, or_false, not_or] at hflag
  obtain ⟨hhelp, hmessages⟩ := hflag
  have hmem : flag ∈ flags ↔ flag ∈ goal.flag? :=
    ⟨fun hm => (h.flags_mem flag hm).resolve_right (not_or.mpr hmessages), h.goal_mem flag⟩
  rw [Switches.has_ofFlags flags hhelp, decide_eq_decide.mpr hmem]

lemma switches (h : Asks goal source flags texts) :
    (Switches.ofFlags flags).goal = goal ∧ (Switches.ofFlags flags).goalCount ≤ 1 ∧
      (Switches.ofFlags flags).rawErrors = false := by
  have hversion : (Switches.ofFlags flags).version = _ := h.has_eq .version (by decide)
  have htokens : (Switches.ofFlags flags).tokens = _ := h.has_eq .tokens (by decide)
  have htree : (Switches.ofFlags flags).tree = _ := h.has_eq .tree (by decide)
  have hraw : (Switches.ofFlags flags).rawErrors = _ := h.has_eq .rawErrors (by decide)
  rw [Switches.goal, Switches.goalCount, hversion, htokens, htree, hraw]
  cases goal <;> decide

end Asks

end ArithAsm
