import ArithAsm.Proofs.Prefixes

/-!
Parsing by index. A walk stands at an index and sees what a token means to the parser, its kind and
its value, and of no token how it is written or where. It keeps a record of the indices that it
looked at, and of the calls and rounds that it made; it stops where no token stands at its index,
and where it has been granted no more calls or rounds. Errors name the index of a token in place of
the token.

A cursor shows what a reader shows if it stands where the reader does among the tokens that the
reader reads.
-/

namespace ArithAsm

/-- What a token means to the parser. -/
abbrev Sense := Token.Kind × Token.Value

namespace Sense

def isOperator (sense : Sense) (symbol : Text) : Bool :=
  sense.1 = .operator && sense.2 = .symbol symbol

def isEnd (sense : Sense) : Bool := sense.1 = .endOfInput

lemma isEnd_eq_false_of_isOperator {sense : Sense} {symbol : Text}
    (h : sense.isOperator symbol = true) : sense.isEnd = false := by
  simp only [isOperator, Bool.and_eq_true, decide_eq_true_eq] at h
  simp [isEnd, h.1]

end Sense

/-- An index, and what came before: the parentheses that are open, the indices that were looked at,
and the number of calls and rounds. -/
structure Cursor where
  index : Nat := 0
  depth : Nat := 0
  looked : List Nat := []
  work : Nat := 0

/-- Why a walk stops. The index of an error is that of the token that the error is about. -/
inductive Cursor.Stop where
  | outside
  | callsExhausted
  | roundsExhausted
  | expectedNumber (index : Nat)
  | expectedSymbol (symbol : Text) (index : Nat)
  | unexpectedTrailingToken (index : Nat)
  | expressionNestedTooDeeply (index : Nat)
  | integerUnvalued
  | parenthesesUnbalanced
  deriving DecidableEq

abbrev Walk := EStateM Cursor.Stop Cursor

namespace Cursor

def looking (cursor : Cursor) : Cursor := { cursor with looked := cursor.index :: cursor.looked }

def advanced (cursor : Cursor) : Cursor := { cursor with index := cursor.index + 1 }

def worked (cursor : Cursor) : Cursor := { cursor with work := cursor.work + 1 }

end Cursor

namespace Walk

/-- A call or a round, which counts as work. -/
def counted {α : Type} (walk : Walk α) : Walk α := do
  modify Cursor.worked
  walk

/-- Counts a parenthesis as open, unless that is one too many; `index` is where it stands. -/
def enter (index : Nat) : Walk Unit := do
  let cursor ← get
  if Reader.greatestDepth ≤ cursor.depth then throw (.expressionNestedTooDeeply index)
  else set { cursor with depth := cursor.depth + 1 }

def leave : Walk Unit := do
  let cursor ← get
  if cursor.depth = 0 then throw .parenthesesUnbalanced
  else set { cursor with depth := cursor.depth - 1 }

section Senses

variable (senses : List Sense)

def look : Walk Sense := do
  modify Cursor.looking
  match senses[(← get).index]? with
  | some sense => return sense
  | none => throw .outside

/-- The index, where something has to stand. -/
def place : Walk Nat := do
  let _ ← look senses
  return (← get).index

def next : Walk Sense := do
  let sense ← look senses
  if !sense.isEnd then modify Cursor.advanced
  return sense

def consume (symbol : Text) : Walk Bool := do
  if (← look senses).isOperator symbol then
    let _ ← next senses
    return true
  else return false

def expect (symbol : Text) : Walk Unit := do
  if (← look senses).isOperator symbol then
    let _ ← next senses
  else throw (.expectedSymbol symbol (← get).index)

def expectNumber : Walk Int := do
  let sense ← look senses
  if sense.1 = .integer then
    match sense.2 with
    | .number n =>
      let _ ← next senses
      return n
    | .symbol _ => throw .integerUnvalued
  else throw (.expectedNumber (← get).index)

def atEnd : Walk Bool := return (← look senses).isEnd

def consumeOperation : List Operation → Walk (Option Operation)
  | [] => return none
  | operation :: operations => do
    if ← consume senses operation.symbol then return some operation
    else consumeOperation operations

/-- One round: the next operand joined to the `left` one, if an operator comes next. -/
def round (level : Level) (operand : Walk Expr) (left : Expr) : Walk (Option Expr) :=
  counted do
    match ← consumeOperation senses level.operations with
    | none => return none
    | some operation =>
      let right ← operand
      return some (.binary operation left right)

def joinOperands (level : Level) (operand : Walk Expr) : Nat → Expr → Walk Expr
  | 0, _ => throw .roundsExhausted
  | rounds + 1, left => do
    match ← round senses level operand left with
    | none => return left
    | some joined => joinOperands level operand rounds joined

/-- Reads what a rule describes, with at most `calls` calls nested in one another and at most
`rounds` rounds for each chain. -/
def rule (rounds : Nat) : Nat → Rule → Walk Expr
  | 0, _ => throw .callsExhausted
  | calls + 1, .expression => counted (rule rounds calls (.chain .sum))
  | calls + 1, .product => counted (rule rounds calls (.chain .product))
  | calls + 1, .chain level => counted do
    let first ← rule rounds calls level.operand
    joinOperands senses level (rule rounds calls level.operand) rounds first
  | calls + 1, .primary => counted do
    let opened ← place senses
    if ← consume senses "(" then
      enter opened
      let inner ← rule rounds calls .expression
      expect senses ")"
      leave
      return inner
    else return .literal (← expectNumber senses)

def whole (rounds calls : Nat) : Walk Expr := do
  let expr ← rule senses rounds calls .expression
  if ← atEnd senses then return expr
  else throw (.unexpectedTrailingToken (← place senses))

end Senses

end Walk

lemma Walk.run_look_eq (senses : List Sense) (cursor : Cursor) :
    (look senses).run cursor =
      match senses[cursor.index]? with
      | some sense => .ok sense cursor.looking
      | none => .error .outside cursor.looking := by
  show (match senses[cursor.index]? with
    | some sense => pure sense
    | none => throw .outside : Walk Sense).run cursor.looking = _
  cases senses[cursor.index]? <;> rfl

/-- The failure that a stop is where these are the tokens. A walk that stops for want of a token or
of rounds does what no reading does. -/
def Cursor.Stop.failure? (tokens : List Token) : Cursor.Stop → Option Failure
  | .outside | .roundsExhausted => none
  | .callsExhausted => some (.defect .callsExhausted)
  | .expectedNumber index => tokens[index]?.map fun token => .error (.expectedNumber token)
  | .expectedSymbol symbol index =>
    tokens[index]?.map fun token => .error (.expectedSymbol symbol token)
  | .unexpectedTrailingToken index =>
    tokens[index]?.map fun token => .error (.unexpectedTrailingToken token)
  | .expressionNestedTooDeeply index =>
    tokens[index]?.map fun token =>
      .error (.expressionNestedTooDeeply token Reader.greatestDepth)
  | .integerUnvalued => some (.defect .integerUnvalued)
  | .parenthesesUnbalanced => some (.defect .parenthesesUnbalanced)

/-! ### Readers and cursors -/

/-- The reader reads these tokens: what it can show stands from its cursor on. -/
structure Reader.Of (tokens : List Token) (reader : Reader) : Prop where
  drop_cursor : ∃ behind, tokens.drop reader.cursor = reader.tokens ++ behind
  count_eq : reader.count = tokens.findIdx Token.isEnd

namespace Reader

variable {tokens : List Token} {reader : Reader}

lemma cursor_le_count (reader : Reader) : reader.cursor ≤ reader.count := by
  have := reader.cursor_add_length
  omega

lemma Of.cursor_le (h : reader.Of tokens) : reader.cursor ≤ tokens.findIdx Token.isEnd :=
  h.count_eq ▸ reader.cursor_le_count

lemma Of.getElem?_cursor (h : reader.Of tokens) : tokens[reader.cursor]? = some reader.current := by
  obtain ⟨behind, hdrop⟩ := h.drop_cursor
  obtain ⟨rest, hrest⟩ := reader.tokens_eq_cons
  rw [hrest] at hdrop
  have hhead := congrArg List.head? hdrop
  rwa [List.head?_drop] at hhead

lemma advanced_of_isEnd (h : reader.current.isEnd = true) : reader.advanced = reader := by
  have ha := current_isEnd_iff.mp h
  unfold advanced
  split
  · rfl
  · next hb => cases ha.symm.trans hb

lemma Passes.cursor_eq {later : Reader} {between : List Token}
    (hp : reader.Passes between later) : later.cursor = reader.cursor + between.length := by
  have hlength := congrArg List.length hp.ahead
  have hbefore := reader.cursor_add_length
  have hbehind := later.cursor_add_length
  rw [hp.count] at hbehind
  rw [List.length_append] at hlength
  omega

lemma Of.of_passes {later : Reader} {between : List Token} (h : reader.Of tokens)
    (hp : reader.Passes between later) : later.Of tokens := by
  obtain ⟨behind, hdrop⟩ := h.drop_cursor
  refine ⟨⟨behind, ?_⟩, hp.count.trans h.count_eq⟩
  rw [hp.cursor_eq, ← List.drop_drop, hdrop, hp.tokens_eq, List.append_assoc, List.drop_left]

/-- What was moved over stands between the two cursors. -/
lemma Of.extract_eq {later : Reader} {between : List Token} (h : reader.Of tokens)
    (hp : reader.Passes between later) :
    tokens.extract reader.cursor later.cursor = between := by
  obtain ⟨behind, hdrop⟩ := h.drop_cursor
  rw [List.extract, hp.cursor_eq, Nat.add_sub_cancel_left, hdrop, hp.tokens_eq,
    List.append_assoc, List.take_left]

lemma advanced_cursor (h : reader.current.isEnd = false) :
    reader.advanced.cursor = reader.cursor + 1 := (passes_advanced h).cursor_eq

lemma Of.advanced (h : reader.Of tokens) : reader.advanced.Of tokens := by
  by_cases he : reader.current.isEnd = true
  · rwa [advanced_of_isEnd he]
  · exact h.of_passes (passes_advanced (Bool.eq_false_iff.mpr he))

lemma Of.with_depth (h : reader.Of tokens) (depth : Nat) :
    { reader with depth }.Of tokens := ⟨h.drop_cursor, h.count_eq⟩

lemma of_ofTokens (h : ofTokens tokens = .ok reader) :
    reader.Of tokens ∧ reader.cursor = 0 ∧ reader.depth = 0 := by
  obtain ⟨-, hdepth, behind, hsplit⟩ := of_ofTokens_eq_ok h
  have hcursor : reader.cursor = 0 := by
    unfold ofTokens at h
    split at h
    next => cases h
    next =>
      split at h
      · cases h
        rfl
      · cases h
  refine ⟨⟨⟨behind, by rw [hcursor, List.drop_zero, hsplit]⟩, ?_⟩, hcursor, hdepth⟩
  have hcount := reader.cursor_add_length
  rw [hcursor, Nat.zero_add] at hcount
  rw [← hcount, hsplit, Reader.tokens, List.append_assoc, List.findIdx_append,
    List.findIdx_append]
  have hahead : reader.ahead.findIdx Token.isEnd = reader.ahead.length :=
    List.findIdx_eq_length_of_false reader.ahead_not_isEnd
  simp [hahead, List.findIdx_cons, reader.last_isEnd]

end Reader

/-- The cursor stands where the reader does, and has looked at nothing behind the first end. -/
structure Cursor.Shows (tokens : List Token) (reader : Reader) (cursor : Cursor) : Prop where
  of : reader.Of tokens
  index_eq : cursor.index = reader.cursor
  depth_eq : cursor.depth = reader.depth
  looked_le : ∀ i ∈ cursor.looked, i ≤ tokens.findIdx Token.isEnd

namespace Cursor.Shows

variable {tokens : List Token} {reader : Reader} {cursor : Cursor}

lemma looking (h : cursor.Shows tokens reader) : cursor.looking.Shows tokens reader where
  of := h.of
  index_eq := h.index_eq
  depth_eq := h.depth_eq
  looked_le := List.forall_mem_cons.mpr ⟨h.index_eq ▸ h.of.cursor_le, h.looked_le⟩

lemma worked (h : cursor.Shows tokens reader) : cursor.worked.Shows tokens reader :=
  ⟨h.of, h.index_eq, h.depth_eq, h.looked_le⟩

lemma advanced (h : cursor.Shows tokens reader) (he : reader.current.isEnd = false) :
    cursor.advanced.Shows tokens reader.advanced where
  of := h.of.advanced
  index_eq := by
    rw [Reader.advanced_cursor he, ← h.index_eq]
    rfl
  depth_eq := h.depth_eq.trans reader.advanced_depth.symm
  looked_le := h.looked_le

lemma with_depth (h : cursor.Shows tokens reader) (depth : Nat) :
    { cursor with depth }.Shows tokens { reader with depth } :=
  ⟨h.of.with_depth depth, h.index_eq, rfl, h.looked_le⟩

lemma getElem?_index (h : cursor.Shows tokens reader) :
    tokens[cursor.index]? = some reader.current := by
  rw [h.index_eq, h.of.getElem?_cursor]

end Cursor.Shows

end ArithAsm
