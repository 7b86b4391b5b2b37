import ArithAsm.Proofs.Nesting
import ArithAsm.Proofs.Spacing
import Mathlib.Algebra.Group.Int.Defs
import Mathlib.Data.List.Chain

/-!
Writing an expression. It is written in words, with parentheses only around an operand that would
otherwise be read as part of another, and the words stand in a text with blanks anywhere between
them. What is written so is read back, unless more parentheses are open at once than may be.
-/

namespace ArithAsm

open Grammar

/-! ### The words of an expression -/

def Operation.level : Operation → Level
  | .add | .subtract => .sum
  | .multiply | .divide => .product

lemma Operation.mem_operations (operation : Operation) :
    operation ∈ operation.level.operations := by
  cases operation <;> decide

namespace Expr

def isChain (level : Level) : Expr → Bool
  | .binary operation _ _ => operation.level = level
  | _ => false

/-- Whether a left operand needs parentheses: a sum does in a product. -/
def groupsLeft : Level → Expr → Bool
  | .sum, _ => false
  | .product, left => left.isChain .sum

/-- Whether a right operand needs parentheses: a sum does, and in a product a product does too. -/
def groupsRight : Level → Expr → Bool
  | .sum, right => right.isChain .sum
  | .product, right => right.isChain .sum || right.isChain .product

/-- The words of an operand, in parentheses if it `needs` them. -/
def grouped (needs : Bool) (words : List Text) : List Text :=
  if needs then ("(" : Text) :: (words ++ [(")" : Text)]) else words

def words : Expr → List Text
  | .literal value => [Text.ofInt value]
  | .binary operation left right =>
    grouped (groupsLeft operation.level left) left.words ++
      operation.symbol :: grouped (groupsRight operation.level right) right.words
  | .foreign shown => [shown]

/-- Every leaf is a literal that can be written: it is not negative and not too great. -/
def Writable : Expr → Prop
  | .literal value => 0 ≤ value ∧ value ≤ 2 ^ 63 - 1
  | .binary _ left right => left.Writable ∧ right.Writable
  | .foreign _ => False

end Expr

/-- The text is made of the words, in their order, and of blanks anywhere around these. -/
inductive Text.Spaced : List Text → Text → Prop where
  | done : Spaced [] []
  | blank {c : Char} {words : List Text} {text : Text} (hc : Text.isBlank c = true)
      (h : Spaced words text) : Spaced words (c :: text)
  | word {word : Text} {words : List Text} {text : Text} (h : Spaced words text) :
      Spaced (word :: words) (word ++ text)

lemma Text.Spaced.flatten : ∀ words : List Text, Spaced words words.flatten
  | [] => .done
  | _ :: words => .word (flatten words)

/-! ### Words that are read -/

namespace Token

def senseOf (word : Text) : Kind × Value :=
  if word.all Text.isDigit then (.integer, .number (Text.value word)) else (.operator, .symbol word)

lemma IsLexeme.sense_eq {token : Token} (h : IsLexeme token) :
    token.sense = senseOf token.text := by
  cases h with
  | operator column mem =>
    simp [senseOf, sense, Token.operator, not_isDigit_of_operator mem]
  | literal column ne_nil isDigit fits =>
    simp [senseOf, sense, List.all_eq_true.mpr isDigit]

end Token

namespace Text

/-- The words are not both numerals, which would run into one. -/
def Apart (word other : Text) : Prop := word.all isDigit = true → other.all isDigit = false

variable {words : List Text} {text : Text}

lemma Spaced.head?_not_digit (h : Spaced words text)
    (hw : ∀ word ∈ words, ∃ token, Token.IsLexeme token ∧ token.text = word)
    (hhead : ∀ word ∈ words.head?, word.all isDigit = false) :
    ∀ c ∈ text.head?, isDigit c = false := by
  cases h with
  | done => simp
  | blank hc h => simpa using not_isDigit_of_isBlank hc
  | @word word words text h =>
    obtain ⟨token, ht, rfl⟩ := hw word List.mem_cons_self
    have hnot := hhead _ rfl
    cases ht with
    | operator column mem => simpa [Token.operator] using Token.not_isDigit_of_operator mem
    | literal column ne_nil isDigit fits => simp [List.all_eq_true.mpr isDigit] at hnot

/-- **Words are the lexemes of their text.** -/
theorem Spaced.scans (h : Spaced words text)
    (hw : ∀ word ∈ words, ∃ token, Token.IsLexeme token ∧ token.text = word)
    (hapart : words.IsChain Apart) (column : Nat) :
    ∃ lexemes, Token.Scans column text (lexemes ++ [Token.endAt (column + text.length : Nat)]) ∧
      lexemes.map Token.text = words ∧ ∀ token ∈ lexemes, Token.IsLexeme token := by
  induction h generalizing column with
  | done => exact ⟨[], .finish column, rfl, nofun⟩
  | @blank c words text hc h ih =>
    obtain ⟨lexemes, hs, hl⟩ := ih hw hapart (column + 1)
    refine ⟨lexemes, .blank hc ?_, hl⟩
    rwa [List.length_cons, Nat.add_comm text.length, ← Nat.add_assoc]
  | @word word words text h ih =>
    obtain ⟨⟨token, ht, rfl⟩, hrest⟩ := List.forall_mem_cons.mp hw
    obtain ⟨lexemes, hs, rfl, hl⟩ := ih hrest hapart.tail (column + token.text.length)
    rw [Nat.add_assoc, ← List.length_append] at hs
    cases ht with
    | @operator _ c mem =>
      exact ⟨Token.operator column c :: lexemes, .operator mem hs, rfl,
        List.forall_mem_cons.mpr ⟨.operator column mem, hl⟩⟩
    | @literal _ digits ne_nil isDigit fits =>
      refine ⟨⟨.integer, digits, .number (value digits), column⟩ :: lexemes,
        .literal ne_nil isDigit ?_ fits hs, rfl,
        List.forall_mem_cons.mpr ⟨.literal column ne_nil isDigit fits, hl⟩⟩
      exact h.head?_not_digit hrest fun other ho => hapart.rel_head? ho
        (List.all_eq_true.mpr isDigit)

/-- A word that is no numeral keeps apart what stands around it. -/
lemma isChain_apart {front back : List Text} {word : Text} (hword : word.all isDigit = false)
    (hfront : front.IsChain Apart) (hback : back.IsChain Apart) :
    (front ++ word :: back).IsChain Apart := by
  refine hfront.append (hback.cons fun other _ h => ?_) fun first _ other ho _ => ?_
  · simp [hword] at h
  · obtain rfl : word = other := by simpa using ho
    exact hword

end Text

namespace Expr

lemma isChain_grouped {needs : Bool} {words : List Text} (h : words.IsChain Text.Apart) :
    (grouped needs words).IsChain Text.Apart := by
  have hopen : ("(" : Text).all Text.isDigit = false := by decide
  have hclose : (")" : Text).all Text.isDigit = false := by decide
  cases needs with
  | false => exact h
  | true => exact Text.isChain_apart hopen .nil (Text.isChain_apart hclose h .nil)

/-- No two numerals stand side by side. -/
lemma isChain_words (expr : Expr) : expr.words.IsChain Text.Apart := by
  induction expr with
  | literal value => exact .singleton _
  | foreign shown => exact .singleton _
  | binary operation left right ihl ihr =>
    have hsymbol : operation.symbol.all Text.isDigit = false := by cases operation <;> decide
    exact Text.isChain_apart hsymbol (isChain_grouped ihl) (isChain_grouped ihr)

end Expr

/-! ### Words that have a derivation -/

namespace Grammar

namespace Derivation

variable {level : Level}

def snoc (operation : Operation) (sign : Token) (operand : Derivation (.operand level))
    (mem : operation ∈ level.operations) (signs : sign.isOperator operation.symbol = true) :
    Derivation (.rest level) → Derivation (.rest level)
  | .done => .join operation sign operand .done mem signs
  | .join first sign' operand' rest mem' signs' =>
    .join first sign' operand' (snoc operation sign operand mem signs rest) mem' signs'

variable {operation : Operation} {sign : Token} {operand : Derivation (.operand level)}
  {mem : operation ∈ level.operations} {signs : sign.isOperator operation.symbol = true}

lemma yield_snoc : ∀ rest : Derivation (.rest level),
    (snoc operation sign operand mem signs rest).yield = rest.yield ++ sign :: operand.yield
  | .done => by simp [snoc, yield]
  | .join _ _ _ rest _ _ => by simp [snoc, yield, yield_snoc rest]

lemma tree_snoc : ∀ (rest : Derivation (.rest level)) (left : Expr),
    (snoc operation sign operand mem signs rest).tree left =
      .binary operation (rest.tree left) operand.tree
  | .done, _ => by simp [snoc, tree]
  | .join _ _ _ rest _ _, _ => by simp [snoc, tree, tree_snoc rest]

end Derivation

/-- The phrase has a derivation of the tree, of lexemes that are written with these words. -/
def Phrase.Writes (phrase : Phrase) (tree : phrase.Tree) (words : List Text) : Prop :=
  ∃ d : Derivation phrase, d.tree = tree ∧ d.yield.map Token.text = words ∧
    ∀ token ∈ d.yield, Token.IsLexeme token

namespace Phrase

variable {level : Level} {expr left right : Expr} {words others : List Text}

lemma Writes.literal {value : Int} (hlow : 0 ≤ value) (hhigh : value ≤ 2 ^ 63 - 1) :
    Phrase.primary.Writes (.literal value) [Text.ofInt value] := by
  obtain ⟨n, rfl⟩ := Int.eq_ofNat_of_zero_le hlow
  have hlexeme : Token.IsLexeme
      ⟨.integer, Text.ofNat n, .number (Text.value (Text.ofNat n)), (0 : Nat)⟩ :=
    .literal 0 Nat.toDigits_ne_nil (fun c => Text.isDigit_of_mem_ofNat) (by
      rw [Text.value_ofNat]
      unfold Token.greatestLiteral
      omega)
  refine ⟨.number ⟨.integer, Text.ofNat n, .number (Text.value (Text.ofNat n)), (0 : Nat)⟩ n rfl
    (by rw [Text.value_ofNat]), rfl, rfl, ?_⟩
  simpa [Derivation.yield] using hlexeme

lemma Writes.group (h : (Phrase.chain .sum).Writes expr words) :
    Phrase.primary.Writes expr (Expr.grouped true words) := by
  obtain ⟨d, rfl, rfl, hl⟩ := h
  refine ⟨.group (Token.operator (0 : Nat) '(') d (Token.operator (0 : Nat) ')') rfl rfl, rfl, ?_,
    ?_⟩
  · simp [Derivation.yield, Expr.grouped, Token.operator]
  · simp only [Derivation.yield, List.forall_mem_cons, List.forall_mem_append]
    exact ⟨.operator 0 (by decide), hl, .operator 0 (by decide), by simp⟩

lemma Writes.ofPrimary (h : Phrase.primary.Writes expr words) :
    (Phrase.operand .product).Writes expr words := by
  obtain ⟨d, hd⟩ := h
  exact ⟨.primary d, hd⟩

lemma Writes.ofProduct (h : (Phrase.chain .product).Writes expr words) :
    (Phrase.operand .sum).Writes expr words := by
  obtain ⟨d, hd⟩ := h
  exact ⟨.product d, hd⟩

lemma Writes.chain (h : (Phrase.operand level).Writes expr words) :
    (Phrase.chain level).Writes expr words := by
  obtain ⟨d, rfl, rfl, hl⟩ := h
  refine ⟨.chain d .done, rfl, ?_, ?_⟩
  · simp [Derivation.yield]
  · simpa [Derivation.yield] using hl

lemma Writes.join {operation : Operation}
    (hleft : (Phrase.chain operation.level).Writes left words)
    (hright : (Phrase.operand operation.level).Writes right others) :
    (Phrase.chain operation.level).Writes (.binary operation left right)
      (words ++ operation.symbol :: others) := by
  obtain ⟨d, rfl, rfl, hl⟩ := hleft
  obtain ⟨operand, rfl, rfl, ho⟩ := hright
  obtain ⟨c, hsymbol, hsign⟩ : ∃ c, operation.symbol = [c] ∧ c ∈ Token.operatorSymbols := by
    cases operation <;> exact ⟨_, rfl, by decide⟩
  have hsigns : (Token.operator (0 : Nat) c).isOperator operation.symbol = true := by
    simp [Token.isOperator, Token.operator, hsymbol]
  cases d with
  | chain first rest =>
    refine ⟨.chain first (.snoc operation _ operand operation.mem_operations hsigns rest), ?_, ?_,
      ?_⟩
    · exact Derivation.tree_snoc rest first.tree
    · simp [Derivation.yield, Derivation.yield_snoc, Token.operator, hsymbol]
    · simp only [Derivation.yield, List.forall_mem_append] at hl ⊢
      rw [Derivation.yield_snoc, List.forall_mem_append, List.forall_mem_cons]
      exact ⟨hl.1, hl.2, .operator 0 hsign, ho⟩

end Phrase

end Grammar

namespace Expr

/-- **What an expression is written with derives it**: as a sum, as a product if it is no sum, and
as a primary if it is neither. -/
theorem writes_words {expr : Expr} (h : expr.Writable) :
    (Phrase.chain .sum).Writes expr expr.words ∧
      (expr.isChain .sum = false → (Phrase.chain .product).Writes expr expr.words) ∧
      (expr.isChain .sum = false → expr.isChain .product = false →
        Phrase.primary.Writes expr expr.words) := by
  induction expr with
  | literal value =>
    have hw := Phrase.Writes.literal h.1 h.2
    exact ⟨hw.ofPrimary.chain.ofProduct.chain, fun _ => hw.ofPrimary.chain, fun _ _ => hw⟩
  | foreign shown => exact h.elim
  | binary operation left right ihl ihr =>
    obtain ⟨hlsum, hlproduct, -⟩ := ihl h.1
    obtain ⟨hrsum, hrproduct, hrprimary⟩ := ihr h.2
    have hleft (level : Level) :
        (Phrase.chain level).Writes left (grouped (groupsLeft level left) left.words) := by
      cases level with
      | sum => exact hlsum
      | product =>
        cases hl : left.isChain .sum with
        | true => rw [groupsLeft, hl]; exact hlsum.group.ofPrimary.chain
        | false => rw [groupsLeft, hl]; exact hlproduct hl
    have hright (level : Level) :
        (Phrase.operand level).Writes right (grouped (groupsRight level right) right.words) := by
      cases hr : right.isChain .sum with
      | true =>
        have hgroup := hrsum.group.ofPrimary
        cases level with
        | sum => rw [groupsRight, hr]; exact hgroup.chain.ofProduct
        | product => rw [groupsRight, hr]; exact hgroup
      | false =>
        cases level with
        | sum => rw [groupsRight, hr]; exact (hrproduct hr).ofProduct
        | product =>
          cases hp : right.isChain .product with
          | true => rw [groupsRight, hp, Bool.or_true]; exact hrsum.group.ofPrimary
          | false => rw [groupsRight, hr, hp]; exact (hrprimary hr hp).ofPrimary
    have hjoin := (hleft operation.level).join (hright operation.level)
    cases operation with
    | add | subtract => exact ⟨hjoin, nofun, nofun⟩
    | multiply | divide => exact ⟨hjoin.ofProduct.chain, fun _ => hjoin, fun _ => nofun⟩

/-- **What is written is read.** A text that an expression is written in has tokens, and the parser
answers the expression if no more than a hundred parentheses are ever open at once. Otherwise it
refuses the one that opens when a hundred are open for the first time. -/
theorem parse_written {expr : Expr} (h : expr.Writable) {text : Text}
    (ht : Text.Spaced expr.words text) :
    ∃ tokens, Token.tokenize text = .ok tokens ∧
      (Text.OpensAtMost 100 text → parse tokens = .ok expr) ∧
      (¬ Text.OpensAtMost 100 text →
        ∃ before after, text = before ++ '(' :: after ∧ Text.OpensAtMost 100 before ∧
          Text.openCount before = 100 ∧
          parse tokens = .error (.error
            (.expressionNestedTooDeeply (Token.operator before.length '(') 100))) := by
  obtain ⟨d, htree, hwords, hl⟩ := (writes_words h).1
  have hlexemes : ∀ word ∈ expr.words, ∃ token, Token.IsLexeme token ∧ token.text = word := by
    intro word hw
    obtain ⟨token, hm, rfl⟩ := List.mem_map.mp (hwords ▸ hw)
    exact ⟨token, hl token hm, rfl⟩
  obtain ⟨lexemes, hs, htexts, hl'⟩ := ht.scans hlexemes expr.isChain_words 0
  -- the lexemes have the derivation that the words were taken from, but for their columns
  have hsense : lexemes.map Token.sense = d.yield.map Token.sense := by
    rw [List.map_congr_left fun token hm => (hl' token hm).sense_eq,
      List.map_congr_left fun token hm => (hl token hm).sense_eq]
    simpa only [List.map_map, Function.comp_def] using
      congrArg (List.map Token.senseOf) (htexts.trans hwords.symm)
  obtain ⟨d', rfl, htree'⟩ := d.exists_of_sense hsense
  refine ⟨_, Token.tokenize_eq_ok_iff.mpr hs, ?_⟩
  rcases parse_yield d' (show (Token.endAt (0 + text.length : Nat)).isEnd = true from rfl) with
    ⟨hopens, hp⟩ | ⟨front, opening, behind, hsplit, ho, hopens, hfull, hp⟩
  · refine ⟨fun _ => ?_, fun hdeep => absurd (hs.opensAtMost_iff.mpr hopens) hdeep⟩
    rw [hp, htree', htree]
  · have hs' := hs
    rw [hsplit, List.append_assoc, List.cons_append] at hs'
    obtain ⟨before, after, rfl, rfl, hbefore⟩ := hs'.exists_before ho
    have hcount : Text.openCount before = 100 := hbefore.openCount_eq.trans hfull
    refine ⟨fun hshallow => ?_, fun _ => ⟨before, after, rfl, hbefore.opensAtMost_iff.mpr hopens,
      hcount, ?_⟩⟩
    · have hmore := hshallow (before ++ ['(']) ⟨after, by rw [List.append_assoc]; rfl⟩
      rw [Text.openCount_append, hcount] at hmore
      exact absurd hmore (by decide)
    · rw [hp, Nat.zero_add]
      rfl

/-- Blanks stand around the words of the first text; in the second one parenthesis is too many. -/
theorem parse_written_subtractions :
    let product : Expr := .binary .multiply
      (.binary .subtract (.literal 1) (.binary .subtract (.literal 2) (.literal 3))) (.literal 4)
    let deep : Expr := (List.replicate 102 (.literal 1)).foldr (.binary .subtract) (.literal 1)
    (product.Writable ∧ Text.Spaced product.words " ( 1-(2 -3) )\t*4" ∧
      ∃ tokens, Token.tokenize " ( 1-(2 -3) )\t*4" = .ok tokens ∧ parse tokens = .ok product) ∧
    deep.Writable ∧ Text.Spaced deep.words deep.words.flatten ∧
      ∃ tokens before after, Token.tokenize deep.words.flatten = .ok tokens ∧
        deep.words.flatten = before ++ '(' :: after ∧ Text.openCount before = 100 ∧
        parse tokens = .error (.error
          (.expressionNestedTooDeeply (Token.operator before.length '(') 100)) := by
  intro product deep
  have hproduct : product.Writable := by simp [product, Writable]
  have hspaced : Text.Spaced product.words " ( 1-(2 -3) )\t*4" := by
    refine .blank rfl (.word (.blank rfl (.word (.word (.word (.word (.blank rfl (.word (.word
      (.word (.blank rfl (.word (.blank rfl (.word (.word .done)))))))))))))))
  have hdeep : deep.Writable := by
    simp [deep, Writable]
  refine ⟨⟨hproduct, hspaced, ?_⟩, hdeep, .flatten _, ?_⟩
  · obtain ⟨tokens, htokens, hshallow, -⟩ := parse_written hproduct hspaced
    exact ⟨tokens, htokens, hshallow (by decide)⟩
  · obtain ⟨tokens, htokens, -, hrefused⟩ := parse_written hdeep (.flatten _)
    have hopens : ¬ Text.OpensAtMost 100 deep.words.flatten := fun h =>
      absurd (h _ (List.take_prefix 303 _)) (by decide +kernel)
    obtain ⟨before, after, htext, -, hfull, hp⟩ := hrefused hopens
    exact ⟨tokens, before, after, htokens, htext, hfull, hp⟩

end Expr

end ArithAsm
