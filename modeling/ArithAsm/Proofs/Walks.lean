import ArithAsm.Proofs.Cursors

/-!
A walk beside a reading. From a reader and a cursor that shows the same, each step of a reader and
the step of a walk answer alike or fail for the same reason, and so do the rules of the grammar. So
the parser depends on no more than a walk can see, and what the record of a walk says of indices and
of work holds of the parser.
-/

namespace ArithAsm

/-! ### What is left ahead -/

namespace Read

variable {reader later : Reader} {operations : List Operation}

lemma run_consumeOperation_of_isEnd (h : reader.current.isEnd = true) :
    (consumeOperation operations).run reader = .ok none reader := by
  have hnone : operations.find? (fun operation => reader.current.isOperator operation.symbol) =
      none := by
    refine List.find?_eq_none.mpr fun operation _ ho => ?_
    simp [Token.isEnd_eq_false_of_isOperator ho] at h
  rw [run_consumeOperation, hnone]

lemma length_lt_of_consumeOperation {operation : Operation}
    (h : (consumeOperation operations).run reader = .ok (some operation) later) :
    later.ahead.length < reader.ahead.length := by
  rw [run_consumeOperation] at h
  split at h
  next hf =>
    cases h
    have ho := List.find?_some hf
    rw [Reader.ahead_of_isOperator ho, List.length_cons]
    exact Nat.lt_succ_self _
  next => cases h

lemma length_le_of_rule {calls : Nat} {rule : Rule} {expr : Expr}
    (h : (Read.rule calls rule).run reader = .ok expr later) :
    later.ahead.length ≤ reader.ahead.length := by
  obtain ⟨between, hp, -⟩ := (rule_follows calls rule reader).returns expr later h
  rw [hp.ahead, List.length_append]
  exact Nat.le_add_left _ _

end Read

/-! ### A walk beside a reading -/

/-- The outcomes of a reading and of a walk: both answer, alike, or both stop, for the same reason;
and they are at the same place. -/
inductive Walk.Alike {α β : Type} (tokens : List Token) (answers : α → β → Prop) :
    EStateM.Result Failure Reader α → EStateM.Result Cursor.Stop Cursor β → Prop where
  | answer {a : α} {b : β} {later : Reader} {behind : Cursor} (alike : answers a b)
      (shows' : behind.Shows tokens later) : Alike tokens answers (.ok a later) (.ok b behind)
  | stop {failure : Failure} {stop : Cursor.Stop} {later : Reader} {behind : Cursor}
      (alike : stop.failure? tokens = some failure) (shows' : behind.Shows tokens later) :
      Alike tokens answers (.error failure later) (.error stop behind)

namespace Walk

/-- From this reader and this cursor on, the walk does what the reading does. -/
def Mirrors {α β : Type} (tokens : List Token) (answers : α → β → Prop) (read : Read α)
    (walk : Walk β) (reader : Reader) (cursor : Cursor) : Prop :=
  Alike tokens answers (read.run reader) (walk.run cursor)

section Mirrors

variable {α β γ δ : Type} {tokens : List Token} {answers : α → β → Prop}
  {results : γ → δ → Prop} {read : Read α} {walk : Walk β} {reader : Reader} {cursor : Cursor}

lemma Mirrors.pure {a : α} {b : β} (h : answers a b) (hs : cursor.Shows tokens reader) :
    Mirrors tokens answers (pure a) (pure b) reader cursor :=
  .answer h hs

lemma Mirrors.of_run_eq {other : Read α} (h : Mirrors tokens answers other walk reader cursor)
    (hread : read.run reader = other.run reader) :
    Mirrors tokens answers read walk reader cursor := by
  rwa [Mirrors, hread]

lemma Mirrors.bind {next : α → Read γ} {following : β → Walk δ}
    (h : Mirrors tokens answers read walk reader cursor)
    (hnext : ∀ a b later behind, read.run reader = .ok a later → answers a b →
      behind.Shows tokens later → Mirrors tokens results (next a) (following b) later behind) :
    Mirrors tokens results (read >>= next) (walk >>= following) reader cursor := by
  unfold Mirrors at h ⊢
  rw [EStateM.run_bind, EStateM.run_bind]
  cases hr : read.run reader with
  | ok a later =>
    rw [hr] at h
    cases hw : walk.run cursor with
    | ok b behind =>
      rw [hw] at h
      cases h with
      | answer alike shows' => exact hnext a b later behind hr alike shows'
    | error stop behind => rw [hw] at h; cases h
  | error failure later =>
    rw [hr] at h
    cases hw : walk.run cursor with
    | ok b behind => rw [hw] at h; cases h
    | error stop behind =>
      rw [hw] at h
      cases h with
      | stop alike shows' => exact .stop alike shows'

lemma Mirrors.counted (h : Mirrors tokens answers read walk reader cursor.worked) :
    Mirrors tokens answers read (counted walk) reader cursor := h

lemma Mirrors.ite {p q : Prop} [Decidable p] [Decidable q] {other : Read α} {path : Walk β}
    (hpq : p ↔ q) (hthen : p → Mirrors tokens answers read walk reader cursor)
    (helse : ¬p → Mirrors tokens answers other path reader cursor) :
    Mirrors tokens answers (if p then read else other) (if q then walk else path) reader
      cursor := by
  by_cases hp : p
  · rw [if_pos hp, if_pos (hpq.mp hp)]
    exact hthen hp
  · rw [if_neg hp, if_neg (hpq.not.mp hp)]
    exact helse hp

lemma Mirrors.refused {failure : Failure} {refuse : Nat → Cursor.Stop}
    (h : (refuse cursor.index).failure? tokens = some failure) (hs : cursor.Shows tokens reader) :
    Mirrors tokens answers (throw failure) (do throw (refuse (← get).index)) reader cursor :=
  .stop h hs

end Mirrors

/-! ### The steps of a walk -/

section Steps

variable {tokens : List Token} {senses : List Sense} {reader : Reader} {cursor : Cursor}

/-- Up to the first end the walk sees the senses of the tokens. -/
def Sees (senses : List Sense) (tokens : List Token) : Prop :=
  ∀ i ≤ tokens.findIdx Token.isEnd, senses[i]? = tokens[i]?.map Token.sense

lemma run_look (hsees : Sees senses tokens) (h : cursor.Shows tokens reader) :
    (look senses).run cursor = .ok reader.current.sense cursor.looking := by
  have hle : cursor.index ≤ tokens.findIdx Token.isEnd := h.index_eq ▸ h.of.cursor_le
  have hat : senses[cursor.index]? = some reader.current.sense := by
    rw [hsees _ hle, h.getElem?_index, Option.map_some]
  rw [run_look_eq, hat]

lemma mirrors_look (hsees : Sees senses tokens) (h : cursor.Shows tokens reader) :
    Mirrors tokens (fun token sense => token = reader.current ∧ token.sense = sense) Read.peek
      (look senses) reader cursor := by
  unfold Mirrors
  rw [Read.run_peek, run_look hsees h]
  exact .answer ⟨rfl, rfl⟩ h.looking

lemma mirrors_place (hsees : Sees senses tokens) (h : cursor.Shows tokens reader) :
    Mirrors tokens (fun token index => tokens[index]? = some token) Read.peek (place senses) reader
      cursor := by
  unfold Mirrors place
  rw [Read.run_peek, EStateM.run_bind, run_look hsees h]
  exact .answer h.looking.getElem?_index h.looking

lemma mirrors_next (hsees : Sees senses tokens) (h : cursor.Shows tokens reader) :
    Mirrors tokens (fun _ _ => True) Read.next (next senses) reader cursor := by
  unfold Mirrors next
  rw [Read.run_next, EStateM.run_bind, run_look hsees h]
  by_cases he : reader.current.isEnd = true
  · rw [Reader.advanced_of_isEnd he]
    simp only [show Sense.isEnd reader.current.sense = true from he]
    exact .answer trivial h.looking
  · rw [Bool.not_eq_true] at he
    simp only [show Sense.isEnd reader.current.sense = false from he]
    exact .answer trivial (h.looking.advanced he)

lemma mirrors_consume (hsees : Sees senses tokens) (symbol : Text)
    (h : cursor.Shows tokens reader) :
    Mirrors tokens Eq (Read.consume symbol) (consume senses symbol) reader cursor := by
  refine (mirrors_look hsees h).bind fun token sense later behind _ hsense hs => ?_
  obtain ⟨-, rfl⟩ := hsense
  refine .ite Iff.rfl (fun _ => ?_) fun _ => .pure rfl hs
  exact (mirrors_next hsees hs).bind fun _ _ _ _ _ _ hs => .pure rfl hs

lemma mirrors_expect (hsees : Sees senses tokens) (symbol : Text)
    (h : cursor.Shows tokens reader) :
    Mirrors tokens (fun _ _ => True) (Read.expect symbol) (expect senses symbol) reader cursor := by
  refine (mirrors_look hsees h).bind fun token sense later behind hpeek hsense hs => ?_
  obtain ⟨rfl, rfl⟩ := hsense
  cases hpeek
  refine .ite Iff.rfl (fun _ => ?_) fun _ => .refused ?_ hs
  · exact (mirrors_next hsees hs).bind fun _ _ _ _ _ _ hs => .pure trivial hs
  · simp only [Cursor.Stop.failure?, hs.getElem?_index, Option.map_some]

lemma mirrors_expectNumber (hsees : Sees senses tokens) (h : cursor.Shows tokens reader) :
    Mirrors tokens Eq Read.expectNumber (expectNumber senses) reader cursor := by
  refine (mirrors_look hsees h).bind fun token sense later behind hpeek hsense hs => ?_
  obtain ⟨rfl, rfl⟩ := hsense
  cases hpeek
  refine .ite Iff.rfl (fun _ => ?_) fun _ => .refused ?_ hs
  · simp only [Token.sense]
    cases reader.current.value with
    | number n => exact (mirrors_next hsees hs).bind fun _ _ _ _ _ _ hs => .pure rfl hs
    | symbol text => exact .stop rfl hs
  · simp only [Cursor.Stop.failure?, hs.getElem?_index, Option.map_some]

lemma mirrors_atEnd (hsees : Sees senses tokens) (h : cursor.Shows tokens reader) :
    Mirrors tokens Eq Read.atEnd (atEnd senses) reader cursor := by
  refine (mirrors_look hsees h).bind fun token sense later behind _ hsense hs => ?_
  obtain ⟨-, rfl⟩ := hsense
  exact .pure rfl hs

lemma mirrors_enter {opened : Token} {index : Nat} (hopened : tokens[index]? = some opened)
    (h : cursor.Shows tokens reader) :
    Mirrors tokens (fun _ _ => True) (Read.enter opened) (enter index) reader cursor := by
  unfold Mirrors
  rw [Read.run_enter]
  simp only [enter, EStateM.run_bind, EStateM.run_get, h.depth_eq]
  by_cases hfull : Reader.greatestDepth ≤ reader.depth
  · rw [if_pos hfull, if_pos hfull]
    exact .stop (by simp only [Cursor.Stop.failure?, hopened, Option.map_some]) h
  · rw [if_neg hfull, if_neg hfull]
    exact .answer trivial (h.with_depth _)

lemma mirrors_leave (h : cursor.Shows tokens reader) :
    Mirrors tokens (fun _ _ => True) Read.leave leave reader cursor := by
  unfold Mirrors
  rw [Read.run_leave]
  simp only [leave, EStateM.run_bind, EStateM.run_get, h.depth_eq]
  by_cases h0 : reader.depth = 0
  · rw [if_pos h0, if_pos h0]
    exact .stop rfl h
  · rw [if_neg h0, if_neg h0]
    exact .answer trivial (h.with_depth _)

lemma mirrors_consumeOperation (hsees : Sees senses tokens) (operations : List Operation)
    (h : cursor.Shows tokens reader) :
    Mirrors tokens Eq (Read.consumeOperation operations) (consumeOperation senses operations)
      reader cursor := by
  induction operations generalizing reader cursor with
  | nil => exact .pure rfl h
  | cons operation operations ih =>
    refine (mirrors_consume hsees operation.symbol h).bind fun a b later behind _ hab hs => ?_
    subst hab
    exact .ite Iff.rfl (fun _ => .pure rfl hs) fun _ => ih hs

end Steps

/-! ### The rules -/

section Rules

variable {tokens : List Token} {senses : List Sense} {reader : Reader} {cursor : Cursor}

lemma joinOperands_succ (level : Level) (operand : Walk Expr) (rounds : Nat) (left : Expr) :
    joinOperands senses level operand (rounds + 1) left =
      counted (consumeOperation senses level.operations >>= fun
        | none => pure left
        | some operation => operand >>= fun right =>
          joinOperands senses level operand rounds (.binary operation left right)) := by
  simp only [joinOperands, round, counted, bind_assoc]
  congr 1
  funext _
  congr 1
  funext found
  cases found <;> simp

lemma mirrors_joinOperands (hsees : Sees senses tokens) {level : Level} {operand : Read Expr}
    {path : Walk Expr}
    (hop : ∀ (reader : Reader) (cursor : Cursor), cursor.Shows tokens reader →
      Mirrors tokens Eq operand path reader cursor)
    (hmoves : ∀ (reader later : Reader) (expr : Expr), operand.run reader = .ok expr later →
      later.ahead.length ≤ reader.ahead.length)
    (rounds granted : Nat) (left : Expr) (h : cursor.Shows tokens reader)
    (hr : reader.ahead.length ≤ rounds) (hg : reader.ahead.length < granted) :
    Mirrors tokens Eq (Read.joinOperands level operand rounds left)
      (joinOperands senses level path granted left) reader cursor := by
  obtain ⟨granted, rfl⟩ : ∃ fewer, granted = fewer + 1 := ⟨granted - 1, by omega⟩
  rw [joinOperands_succ]
  have hfirst := mirrors_consumeOperation hsees level.operations h.worked
  -- on the rounds of the reading; the walk always has one more than there are tokens ahead
  induction rounds generalizing granted left reader cursor with
  | zero =>
    have hend : reader.current.isEnd = true :=
      Reader.current_isEnd_iff.mpr (List.length_eq_zero_iff.mp (by omega))
    have hnone := @Read.run_consumeOperation_of_isEnd reader level.operations hend
    -- a reading without a round left is one that finds no operator
    have hread : (Read.joinOperands level operand 0 left).run reader =
        (Read.consumeOperation level.operations >>= fun _ => pure left).run reader := by
      rw [EStateM.run_bind, hnone]
      rfl
    refine Mirrors.of_run_eq (.counted (hfirst.bind
      fun found found' later behind hfound heq hs => ?_)) hread
    subst heq
    cases hnone.symm.trans hfound
    exact .pure rfl hs
  | succ rounds ih =>
    refine .counted (hfirst.bind fun found found' later behind hfound heq hs => ?_)
    subst heq
    cases found with
    | none => exact .pure rfl hs
    | some operation =>
      have hshorter := Read.length_lt_of_consumeOperation hfound
      refine (hop later behind hs).bind fun right right' last stop hright heq hs' => ?_
      subst heq
      have hno := hmoves later last right hright
      obtain ⟨granted, rfl⟩ : ∃ fewer, granted = fewer + 1 := ⟨granted - 1, by omega⟩
      rw [joinOperands_succ]
      exact ih _ hs' (by omega) granted (by omega)
        (mirrors_consumeOperation hsees level.operations hs'.worked)

/-- **A walk does what a reading does**, rule by rule, with rounds enough for all tokens. -/
theorem mirrors_rule (hsees : Sees senses tokens) {rounds : Nat}
    (hrounds : tokens.findIdx Token.isEnd < rounds) (calls : Nat) (rule : Rule)
    (h : cursor.Shows tokens reader) :
    Mirrors tokens Eq (Read.rule calls rule) (Walk.rule senses rounds calls rule) reader
      cursor := by
  induction calls generalizing rule reader cursor with
  | zero => exact .stop rfl h
  | succ calls ih =>
    cases rule with
    | expression => exact (ih (.chain .sum) h.worked).counted
    | product => exact (ih (.chain .product) h.worked).counted
    | chain level =>
      refine .counted ((ih level.operand h.worked).bind
        fun first first' later behind _ heq hs => ?_)
      subst heq
      have hahead := later.cursor_add_length
      have hcount := hs.of.count_eq
      exact (mirrors_joinOperands hsees (fun _ _ hs => ih level.operand hs)
        (fun _ _ _ => Read.length_le_of_rule) later.remaining rounds first hs
        (Nat.le_of_eq later.remaining_eq_length.symm) (by omega)).of_run_eq rfl
    | primary =>
      refine .counted ((mirrors_place hsees h.worked).bind
        fun opened index later behind _ hopened hs => ?_)
      refine (mirrors_consume hsees "(" hs).bind fun opens opens' second behind _ heq hs => ?_
      subst heq
      refine .ite Iff.rfl (fun _ => ?_) fun _ => ?_
      · refine (mirrors_enter hopened hs).bind fun _ _ _ _ _ _ hs => ?_
        refine (ih .expression hs).bind fun inner inner' _ _ _ heq hs => ?_
        subst heq
        refine (mirrors_expect hsees ")" hs).bind fun _ _ _ _ _ _ hs => ?_
        exact (mirrors_leave hs).bind fun _ _ _ _ _ _ hs => .pure rfl hs
      · refine (mirrors_expectNumber hsees hs).bind fun value value' _ _ _ heq hs => ?_
        exact .pure (congrArg _ heq) hs

lemma mirrors_whole (hsees : Sees senses tokens) {rounds : Nat}
    (hrounds : tokens.findIdx Token.isEnd < rounds) (calls : Nat) (h : cursor.Shows tokens reader) :
    Mirrors tokens Eq (Read.whole calls) (whole senses rounds calls) reader cursor := by
  refine (mirrors_rule hsees hrounds calls .expression h).bind
    fun expr expr' later behind _ heq hs => ?_
  subst heq
  refine (mirrors_atEnd hsees hs).bind fun ends ends' second behind _ heq hs => ?_
  subst heq
  refine .ite Iff.rfl (fun _ => .pure rfl hs) fun _ => ?_
  refine (mirrors_place hsees hs).bind fun token index _ _ _ htoken hs => .stop ?_ hs
  simp only [Cursor.Stop.failure?, htoken, Option.map_some]

end Rules

end Walk

/-! ### The parser -/

/-- The expression that the tokens are read as, with other numbers of calls granted. -/
def Expr.parseWithin (calls : Nat) (tokens : List Token) : Except Failure Expr :=
  match Reader.ofTokens tokens with
  | .error defect => .error (.defect defect)
  | .ok reader =>
    match Read.whole calls reader with
    | .ok expr _ => .ok expr
    | .error failure _ => .error failure

lemma Expr.parse_eq_parseWithin (tokens : List Token) :
    parse tokens = parseWithin callsGranted tokens := rfl

lemma Expr.parseWithin_of_ofTokens {tokens : List Token} {reader : Reader}
    (h : Reader.ofTokens tokens = .ok reader) (calls : Nat) :
    parseWithin calls tokens =
      match (Read.whole calls).run reader with
      | .ok expr _ => .ok expr
      | .error failure _ => .error failure := by
  rw [parseWithin, h]
  rfl

namespace Walk

abbrev Outcome := EStateM.Result Cursor.Stop Cursor Expr

def Outcome.cursor : Outcome → Cursor
  | .ok _ cursor | .error _ cursor => cursor

/-- What a parser makes of these tokens if its walk ends so. -/
def Outcome.verdict? (tokens : List Token) : Outcome → Option (Except Failure Expr)
  | .ok expr _ => some (.ok expr)
  | .error stop _ => (stop.failure? tokens).map .error

def parseWithin (rounds calls : Nat) (senses : List Sense) : Outcome :=
  (whole senses rounds calls).run {}

variable {tokens : List Token} {senses : List Sense} {rounds : Nat}

/-- **The parser by index.** Over the senses of the tokens, or over whatever is the same up to the
first end, a walk comes to the verdict of the parser, and it ends where a reader can be. -/
theorem verdict?_parseWithin (hend : ∃ last ∈ tokens.getLast?, last.isEnd = true)
    (hsees : Sees senses tokens) (hrounds : tokens.findIdx Token.isEnd < rounds) (calls : Nat) :
    (parseWithin rounds calls senses).verdict? tokens = some (Expr.parseWithin calls tokens) ∧
      ∃ reader, (parseWithin rounds calls senses).cursor.Shows tokens reader := by
  obtain ⟨reader, hreader, -⟩ := Reader.ofTokens_eq_ok hend
  obtain ⟨hof, hcursor, hdepth⟩ := Reader.of_ofTokens hreader
  have hstart : Cursor.Shows tokens reader {} := ⟨hof, hcursor.symm, hdepth.symm, nofun⟩
  have halike := mirrors_whole hsees hrounds calls hstart
  rw [Expr.parseWithin_of_ofTokens hreader, parseWithin]
  unfold Mirrors at halike
  cases hread : (Read.whole calls).run reader with
  | ok expr later =>
    cases hwalk : (whole senses rounds calls).run {} with
    | ok expr' behind =>
      rw [hread, hwalk] at halike
      cases halike with
      | answer alike shows' => exact ⟨congrArg _ (congrArg _ alike.symm), later, shows'⟩
    | error stop behind =>
      rw [hread, hwalk] at halike
      cases halike
  | error failure later =>
    cases hwalk : (whole senses rounds calls).run {} with
    | ok expr' behind =>
      rw [hread, hwalk] at halike
      cases halike
    | error stop behind =>
      rw [hread, hwalk] at halike
      cases halike with
      | stop alike shows' =>
        exact ⟨by simp only [Outcome.verdict?, alike, Option.map_some], later, shows'⟩

end Walk

end ArithAsm
