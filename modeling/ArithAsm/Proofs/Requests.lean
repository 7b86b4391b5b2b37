import ArithAsm.Cli.Run
import ArithAsm.Proofs.CommandLine
import Mathlib.Data.Finset.Card

/-!
What a command line asks for. It does not matter in which order flags and operands stand. A text
with a dash in front is an operand too, unless it goes on like a flag; whether it is then taken for
a number, for a text with a space in it, or for an unknown flag, it is counted with the others. So
the request is told by the flags that occur and by the operands, and it is refused only where two
goals clash or the number of operands is wrong.
-/

namespace ArithAsm

/-! ### Texts that are no flags -/

namespace Argument

/-- No flag begins like the text: there is no dash in front, or nothing behind it, or something that
no flag goes on with. -/
def BeginsNoFlag : Text → Prop
  | '-' :: c :: _ => c ≠ '-' ∧ c ≠ 'v' ∧ c ≠ 'h'
  | _ => True

lemma begins_of_mem_spellings {flag : Flag} :
    ∀ spelling ∈ flag.spellings,
      spelling.take 2 ∈ ([['-', '-'], ['-', 'v'], ['-', 'h']] : List Text) := by
  cases flag <;> decide

variable {c : Char} {rest : Text}

lemma ofSpelling?_eq_none (hc : c ≠ '-' ∧ c ≠ 'v' ∧ c ≠ 'h') {spelling : Text}
    (h : spelling <+: '-' :: c :: rest) : Flag.ofSpelling? spelling = none := by
  refine List.find?_eq_none.mpr fun flag _ hcontains => ?_
  have hbegins := begins_of_mem_spellings spelling (List.contains_iff_mem.mp hcontains)
  have hprefix : spelling.take 2 <+: '-' :: c :: rest := (List.take_prefix 2 _).trans h
  have hsecond {d : Char} (hd : spelling.take 2 = ['-', d]) : c = d := by
    rw [hd] at hprefix
    simpa [eq_comm] using hprefix
  simp only [List.mem_cons, List.not_mem_nil, or_false] at hbegins
  rcases hbegins with hd | hd | hd
  · exact hc.1 (hsecond hd)
  · exact hc.2.1 (hsecond hd)
  · exact hc.2.2 (hsecond hd)

lemma joined?_eq_none (hc : c ≠ '-' ∧ c ≠ 'v' ∧ c ≠ 'h') : joined? ('-' :: c :: rest) = none := by
  unfold joined?
  split
  · rfl
  · simp only [ofSpelling?_eq_none hc (List.takeWhile_prefix _), Option.map_none]

lemma clustered?_eq_none (hc : c ≠ '-' ∧ c ≠ 'v' ∧ c ≠ 'h') :
    clustered? ('-' :: c :: rest) = none := by
  unfold clustered?
  rw [ofSpelling?_eq_none hc (List.take_prefix _ _), Option.map_none]

lemma isOperand_of_dash (hc : c ≠ '-' ∧ c ≠ 'v' ∧ c ≠ 'h') : IsOperand ('-' :: c :: rest) := by
  refine ⟨fun h => hc.1 (List.cons_eq_cons.mp (List.cons_eq_cons.mp h).2).1, ?_⟩
  have hlength : ('-' :: c :: rest).length ≠ 1 := by simp
  simp only [ofText, ofSpelling?_eq_none hc List.prefix_rfl, joined?_eq_none hc,
    clustered?_eq_none hc, if_neg hlength, List.head?_cons, ne_eq, not_true_eq_false, if_false]
  show (if _ then Argument.operand _ else Argument.unknown _).operand? = _
  split_ifs <;> rfl

lemma isOperand_of_beginsNoFlag {text : Text} (h : BeginsNoFlag text) : IsOperand text := by
  by_cases hhead : text.head? = some '-'
  · obtain ⟨behind, rfl⟩ := List.head?_eq_some_iff.mp hhead
    rcases behind with _ | ⟨c, rest⟩
    · exact ⟨by decide, by decide⟩
    · exact isOperand_of_dash h
  · exact isOperand_of_head? hhead

end Argument

/-! ### Goals that clash -/

def Goal.flags : List Flag := [.version, .tokens, .tree]

/-- Two different flags that set a goal occur. -/
def GoalsClash (flags : List Flag) : Prop :=
  ∃ first ∈ flags, ∃ second ∈ flags, first ∈ Goal.flags ∧ second ∈ Goal.flags ∧ first ≠ second

lemma Switches.goalCount_occurring (flags : List Flag) :
    (occurring flags).goalCount = (Goal.flags.filter (· ∈ flags)).length := by
  by_cases hv : Flag.version ∈ flags <;> by_cases ht : Flag.tokens ∈ flags <;>
    by_cases ha : Flag.tree ∈ flags <;> simp [goalCount, occurring, Goal.flags, hv, ht, ha]

lemma Switches.one_lt_goalCount_iff {flags : List Flag} :
    1 < (occurring flags).goalCount ↔ GoalsClash flags := by
  have hnodup : (Goal.flags.filter (· ∈ flags)).Nodup := List.Nodup.filter _ (by decide)
  have hmem (flag : Flag) : flag ∈ (Goal.flags.filter (· ∈ flags)).toFinset ↔
      flag ∈ Goal.flags ∧ flag ∈ flags := by simp
  rw [goalCount_occurring, ← List.toFinset_card_of_nodup hnodup, Finset.one_lt_card]
  constructor
  · rintro ⟨first, hfirst, second, hsecond, hne⟩
    rw [hmem] at hfirst hsecond
    exact ⟨first, hfirst.2, second, hsecond.2, hfirst.1, hsecond.1, hne⟩
  · rintro ⟨first, hfirst, second, hsecond, hgoal, hgoal', hne⟩
    exact ⟨first, (hmem first).mpr ⟨hgoal, hfirst⟩, second, (hmem second).mpr ⟨hgoal', hsecond⟩,
      hne⟩

/-! ### The request -/

namespace Request

variable {program : Text} {streams : Streams} {flags : List Flag}

/-- The order of the operands does not count: one is what it is, and more are too many. -/
lemma ofArguments_perm {taken operands : List Text} {switches : Switches}
    (h : taken.Perm operands) :
    ofArguments program ⟨taken, switches⟩ = ofArguments program ⟨operands, switches⟩ := by
  rcases operands with _ | ⟨first, _ | ⟨second, operands⟩⟩
  · rw [h.eq_nil]
  · rw [List.perm_singleton.mp h]
  · obtain ⟨first', second', taken, rfl⟩ : ∃ a b rest, taken = a :: b :: rest := by
      rcases taken with _ | ⟨a, _ | ⟨b, rest⟩⟩
      · simpa using h.length_eq
      · simpa using h.length_eq
      · exact ⟨a, b, rest, rfl⟩
    rfl

lemma run_ofArguments_of_clash (h : GoalsClash flags) (operands : List Text) :
    EStateM.run (ofArguments program ⟨operands, .occurring flags⟩) streams =
      .error (.exit 1)
        { streams with err := streams.err ++ "[ERROR] Goal flags is mutually exclusive!\n" } := by
  simp only [ofArguments, if_pos (Switches.one_lt_goalCount_iff.mpr h), EStateM.run_bind]
  rfl

/-- Where no goals clash the operands are counted. -/
lemma ofArguments_eq (h : ¬ GoalsClash flags) (operands : List Text) :
    ofArguments program ⟨operands, .occurring flags⟩ =
      match operands with
      | [operand] => pure ⟨operand, .occurring flags, some .standard, {}⟩
      | operands =>
        if operands = [] ∧ .version ∈ flags then pure ⟨[], .occurring flags, some .standard, {}⟩
        else Session.refuse ⟨.usage, program ++ ": invalid number of arguments", none⟩ [] := by
  have hversion : ((Switches.occurring flags).version && operands.isEmpty) = true ↔
      operands = [] ∧ .version ∈ flags := by
    rw [Bool.and_eq_true, List.isEmpty_iff, and_comm]
    exact and_congr_right fun _ => decide_eq_true_iff
  rw [ofArguments, if_neg (mt Switches.one_lt_goalCount_iff.mp h)]
  rcases operands with _ | ⟨first, _ | ⟨second, operands⟩⟩
  · simp only [hversion]
    rfl
  · rfl
  · simp only [hversion]
    rfl

lemma read_of_mixes {operands texts : List Text} (h : Mixes flags operands texts)
    (hhelp : .help ∉ flags) (ho : ∀ operand ∈ operands, Argument.BeginsNoFlag operand) :
    ∃ taken, Arguments.read texts = .ok ⟨taken, .occurring flags⟩ ∧ taken.Perm operands := by
  rw [← Switches.ofFlags_eq_occurring]
  exact Arguments.read_of_mixes h hhelp fun operand hm =>
    Argument.isOperand_of_beginsNoFlag (ho operand hm)

/-- The first steps of a session: its arguments are read and checked. -/
def asked (program : Text) (texts : List Text) : Session Request :=
  Session.arguments program texts >>= ofArguments program

lemma asked_of_read (program : Text) {texts : List Text} {arguments : Arguments}
    (h : Arguments.read texts = .ok arguments) :
    asked program texts = ofArguments program arguments := by
  rw [asked, Session.arguments, h]
  exact pure_bind _ _

/-- What is asked for is told by the flags that occur and by the operands. -/
lemma asked_eq {operands texts : List Text} (h : Mixes flags operands texts)
    (hhelp : .help ∉ flags) (ho : ∀ operand ∈ operands, Argument.BeginsNoFlag operand) :
    asked program texts = ofArguments program ⟨operands, .occurring flags⟩ := by
  obtain ⟨taken, hread, hperm⟩ := read_of_mixes h hhelp ho
  rw [asked_of_read program hread, ofArguments_perm hperm]

end Request

/-- **The order of the arguments does not matter, and no operand is lost.** Take a command line that
mixes flags, other than the one for help, with any operands that no flag begins like. All operands
are taken, and just the switches of the flags that occur are set. Another command line with the same
flags, however often each is given, and with the same operands asks for the same. If two goals clash
the session is refused for that. Otherwise a single operand makes a request, and so does none if the
version is asked for; any other number of operands is refused. -/
theorem Request.asked_in_any_order {flags : List Flag} {operands texts : List Text}
    (h : Mixes flags operands texts) (hhelp : .help ∉ flags)
    (ho : ∀ operand ∈ operands, Argument.BeginsNoFlag operand) (program : Text)
    (streams : Streams) :
    (∃ taken, Arguments.read texts = .ok ⟨taken, .occurring flags⟩ ∧ taken.Perm operands) ∧
    (∀ others otherOperands otherTexts, Mixes others otherOperands otherTexts →
      (∀ flag, flag ∈ others ↔ flag ∈ flags) → otherOperands.Perm operands →
      asked program otherTexts = asked program texts) ∧
    (GoalsClash flags → EStateM.run (asked program texts) streams = .error (.exit 1)
      { streams with err := streams.err ++ "[ERROR] Goal flags is mutually exclusive!\n" }) ∧
    (¬ GoalsClash flags →
      (∀ operand, operands = [operand] → EStateM.run (asked program texts) streams =
        .ok ⟨operand, .occurring flags, some .standard, {}⟩ streams) ∧
      (operands = [] → .version ∈ flags → EStateM.run (asked program texts) streams =
        .ok ⟨[], .occurring flags, some .standard, {}⟩ streams) ∧
      (operands.length ≠ 1 → ¬ (operands = [] ∧ .version ∈ flags) →
        EStateM.run (asked program texts) streams = .error (.exit 1)
          { streams with
            err := streams.err ++ (program ++ ": invalid number of arguments" ++ "\n") })) := by
  refine ⟨read_of_mixes h hhelp ho, ?_, fun hclash => ?_, fun hclash => ⟨?_, ?_, ?_⟩⟩
  · intro others otherOperands otherTexts hother hflags hperm
    rw [asked_eq h hhelp ho, ← Switches.occurring_congr hflags, ← ofArguments_perm hperm]
    exact asked_eq hother (mt (hflags .help).mp hhelp) fun operand hm =>
      ho operand (hperm.subset hm)
  · rw [asked_eq h hhelp ho, run_ofArguments_of_clash hclash]
  · rintro operand rfl
    rw [asked_eq h hhelp ho, ofArguments_eq hclash]
    rfl
  · rintro rfl hversion
    rw [asked_eq h hhelp ho, ofArguments_eq hclash]
    simp only [hversion, and_self, if_true]
    rfl
  · intro hlength hversion
    rw [asked_eq h hhelp ho, ofArguments_eq hclash]
    split
    · exact absurd rfl hlength
    · rw [if_neg hversion]
      rfl

theorem Request.asked_in_any_order_negative :
    Mixes [.verbose, .tree, .verbose] ["-1+2"] ["-v", "-1+2", "--ast", "--verbose"] ∧
      Argument.BeginsNoFlag "-1+2" ∧ ¬ GoalsClash [.verbose, .tree, .verbose] ∧
      asked "exprc" ["--verbose", "--ast", "-1+2"] =
        asked "exprc" ["-v", "-1+2", "--ast", "--verbose"] ∧
      EStateM.run (asked "exprc" ["-v", "-1+2", "--ast", "--verbose"]) {} =
        .ok ⟨"-1+2", { tree := true, verbose := true }, some .standard, {}⟩ {} := by
  have hmixes : Mixes [.verbose, .tree, .verbose] ["-1+2"] ["-v", "-1+2", "--ast", "--verbose"] :=
    .flag (by decide) (.operand _ (.flag (by decide) (.flag (by decide) .nil)))
  have hother : Mixes [.verbose, .tree] ["-1+2"] ["--verbose", "--ast", "-1+2"] :=
    .flag (by decide) (.flag (by decide) (.operand _ .nil))
  have hbegins : Argument.BeginsNoFlag "-1+2" := by
    show '1' ≠ '-' ∧ '1' ≠ 'v' ∧ '1' ≠ 'h'
    decide
  have hclash : ¬ GoalsClash [.verbose, .tree, .verbose] := by
    rw [← Switches.one_lt_goalCount_iff]
    decide
  obtain ⟨-, horder, -, hrequest⟩ := Request.asked_in_any_order hmixes (by decide)
    (by simpa using hbegins) "exprc" {}
  have hsame : asked "exprc" ["--verbose", "--ast", "-1+2"] =
      asked "exprc" ["-v", "-1+2", "--ast", "--verbose"] :=
    horder _ _ _ hother (fun flag => by cases flag <;> decide) .rfl
  exact ⟨hmixes, hbegins, hclash, hsame, (hrequest hclash).1 _ rfl⟩

end ArithAsm
