import ArithAsm.Expr.Parse
import Mathlib.Tactic.Common

/-!
The grammar of expressions and its derivations.

A sum is a chain of products joined by `+` and `-`, a product is a chain of primaries joined by
`*` and `/`, and a primary is a literal or a sum in parentheses. A derivation holds every token
that it derives; the tree that it stands for has lost the parentheses, and its chains are folded
to the left. No two derivations derive the same tokens.
-/

namespace ArithAsm

lemma Token.isOperator_eq_decide {token : Token} {symbol : Text}
    (h : token.isOperator symbol = true) (other : Text) :
    token.isOperator other = decide (symbol = other) := by
  simp only [Token.isOperator, Bool.and_eq_true, decide_eq_true_eq] at h
  simp [Token.isOperator, h]

namespace Grammar

/-- What can be derived: a primary, an operand of a chain, a chain, or the rest of a chain behind
its first operand. -/
inductive Phrase where
  | primary
  | operand (level : Level)
  | chain (level : Level)
  | rest (level : Level)

/-- What a phrase stands for: a tree, or for the rest of a chain what becomes of the tree on its
left. -/
abbrev Phrase.Tree : Phrase → Type
  | .rest _ => Expr → Expr
  | _ => Expr

inductive Derivation : Phrase → Type where
  | number (token : Token) (value : Int) (kind_eq : token.kind = .integer)
      (value_eq : token.value = .number value) : Derivation .primary
  | group (opening : Token) (inner : Derivation (.chain .sum)) (closing : Token)
      (opens : opening.isOperator "(" = true) (closes : closing.isOperator ")" = true) :
      Derivation .primary
  | product (inner : Derivation (.chain .product)) : Derivation (.operand .sum)
  | primary (inner : Derivation .primary) : Derivation (.operand .product)
  | chain {level : Level} (first : Derivation (.operand level)) (rest : Derivation (.rest level)) :
      Derivation (.chain level)
  | done {level : Level} : Derivation (.rest level)
  | join {level : Level} (operation : Operation) (sign : Token)
      (operand : Derivation (.operand level)) (rest : Derivation (.rest level))
      (mem : operation ∈ level.operations) (signs : sign.isOperator operation.symbol = true) :
      Derivation (.rest level)

namespace Derivation

def yield {phrase : Phrase} : Derivation phrase → List Token
  | .number token _ _ _ => [token]
  | .group opening inner closing _ _ => opening :: (inner.yield ++ [closing])
  | .product inner => inner.yield
  | .primary inner => inner.yield
  | .chain first rest => first.yield ++ rest.yield
  | .done => []
  | .join _ sign operand rest _ _ => sign :: (operand.yield ++ rest.yield)

def tree {phrase : Phrase} : Derivation phrase → phrase.Tree
  | .number _ value _ _ => .literal value
  | .group _ inner _ _ _ => inner.tree
  | .product inner => inner.tree
  | .primary inner => inner.tree
  | .chain first rest => rest.tree first.tree
  | .done => id
  | .join operation _ operand rest _ _ => fun left =>
    rest.tree (.binary operation left operand.tree)

end Derivation

/-! ### Open parentheses -/

/-- The number of parentheses that are open behind the tokens. -/
def openCount (tokens : List Token) : Int :=
  tokens.countP (·.isOperator "(") - tokens.countP (·.isOperator ")")

/-- No more than `limit` parentheses are ever open at once. -/
def OpensAtMost (limit : Int) (tokens : List Token) : Prop :=
  ∀ front, front <+: tokens → openCount front ≤ limit

lemma openCount_append (front back : List Token) :
    openCount (front ++ back) = openCount front + openCount back := by
  simp only [openCount, List.countP_append]
  omega

lemma openCount_cons (token : Token) (tokens : List Token) :
    openCount (token :: tokens) = openCount [token] + openCount tokens :=
  openCount_append [token] tokens

lemma openCount_nil : openCount [] = 0 := rfl

lemma openCount_of_isOperator {token : Token} {symbol : Text}
    (h : token.isOperator symbol = true) :
    openCount [token]
      = (if symbol = "(" then 1 else 0) - (if symbol = ")" then 1 else 0) := by
  simp only [openCount, List.countP_singleton, Token.isOperator_eq_decide h, decide_eq_true_eq]
  split <;> split <;> rfl

lemma opensAtMost_nil {limit : Int} : OpensAtMost limit [] ↔ 0 ≤ limit := by
  simp [OpensAtMost, openCount_nil]

lemma OpensAtMost.nonneg {limit : Int} {tokens : List Token} (h : OpensAtMost limit tokens) :
    0 ≤ limit :=
  h [] List.nil_prefix

lemma opensAtMost_cons {limit : Int} {token : Token} {tokens : List Token} :
    OpensAtMost limit (token :: tokens) ↔
      0 ≤ limit ∧ OpensAtMost (limit - openCount [token]) tokens := by
  constructor
  · refine fun h => ⟨h.nonneg, fun front hf => ?_⟩
    have := h (token :: front) (by simpa using hf)
    rw [openCount_cons] at this
    omega
  · rintro ⟨h0, h⟩ front hf
    rcases front with _ | ⟨head, front⟩
    · exact h0
    · obtain ⟨rfl, hfront⟩ := List.cons_prefix_cons.mp hf
      have := h front hfront
      rw [openCount_cons]
      omega

lemma opensAtMost_append {limit : Int} {front back : List Token} :
    OpensAtMost limit (front ++ back) ↔
      OpensAtMost limit front ∧ OpensAtMost (limit - openCount front) back := by
  induction front generalizing limit with
  | nil =>
    have h0 : OpensAtMost limit back → 0 ≤ limit := OpensAtMost.nonneg
    simpa [opensAtMost_nil, openCount_nil] using h0
  | cons token front ih =>
    have hc : limit - openCount [token] - openCount front
        = limit - openCount (token :: front) := by
      rw [openCount_cons token front]
      omega
    rw [List.cons_append, opensAtMost_cons, opensAtMost_cons, ih, hc, and_assoc]

namespace Derivation

variable {phrase : Phrase}

/-- Behind a phrase as many parentheses are open as before it. -/
lemma openCount_yield (d : Derivation phrase) : openCount d.yield = 0 := by
  induction d with
  | number token value hk hv => simp [yield, openCount, Token.isOperator, hk]
  | group opening inner closing ho hc ih =>
    rw [yield, openCount_cons, openCount_append, ih, openCount_of_isOperator ho,
      openCount_of_isOperator hc]
    decide
  | product inner ih => exact ih
  | primary inner ih => exact ih
  | chain first rest ihf ihr => rw [yield, openCount_append, ihf, ihr, Int.add_zero]
  | done => rfl
  | join operation sign operand rest mem hs iho ihr =>
    rw [yield, openCount_cons, openCount_append, iho, ihr, openCount_of_isOperator hs]
    cases operation <;> decide

variable {limit : Int} {level : Level}

lemma opensAtMost_number {token : Token} {value : Int} {hk : token.kind = .integer}
    {hv : token.value = .number value} :
    OpensAtMost limit (number token value hk hv).yield ↔ 0 ≤ limit := by
  have h0 : openCount [token] = 0 := openCount_yield (number token value hk hv)
  rw [yield, opensAtMost_cons, opensAtMost_nil, h0, Int.sub_zero, and_self_iff]

lemma opensAtMost_group {opening closing : Token} {inner : Derivation (.chain .sum)}
    {ho : opening.isOperator "(" = true} {hc : closing.isOperator ")" = true} :
    OpensAtMost limit (group opening inner closing ho hc).yield ↔
      OpensAtMost (limit - 1) inner.yield := by
  have h1 : openCount [opening] = 1 := openCount_of_isOperator ho
  have h2 : openCount [closing] = -1 := openCount_of_isOperator hc
  rw [yield, opensAtMost_cons, opensAtMost_append, opensAtMost_cons, opensAtMost_nil,
    openCount_yield, h1, h2]
  constructor
  · exact fun h => h.2.1
  · intro h
    have := h.nonneg
    exact ⟨by omega, h, by omega, by omega⟩

lemma opensAtMost_chain {first : Derivation (.operand level)} {rest : Derivation (.rest level)} :
    OpensAtMost limit (chain first rest).yield ↔
      OpensAtMost limit first.yield ∧ OpensAtMost limit rest.yield := by
  rw [yield, opensAtMost_append, openCount_yield, Int.sub_zero]

lemma opensAtMost_join {operation : Operation} {sign : Token}
    {operand : Derivation (.operand level)} {rest : Derivation (.rest level)}
    {mem : operation ∈ level.operations} {signs : sign.isOperator operation.symbol = true} :
    OpensAtMost limit (join operation sign operand rest mem signs).yield ↔
      OpensAtMost limit operand.yield ∧ OpensAtMost limit rest.yield := by
  have hsign : openCount [sign] = 0 := by
    rw [openCount_of_isOperator signs]
    cases operation <;> decide
  rw [yield, opensAtMost_cons, opensAtMost_append, openCount_yield, hsign, Int.sub_zero,
    Int.sub_zero]
  exact ⟨fun h => h.2, fun h => ⟨h.1.nonneg, h⟩⟩

end Derivation

/-! ### One derivation for given tokens -/

/-- The operations by which a phrase could go on. -/
def Phrase.further : Phrase → List Operation
  | .primary => []
  | .operand .sum => Level.product.operations
  | .operand .product => []
  | .chain .sum | .rest .sum => Level.sum.operations ++ Level.product.operations
  | .chain .product | .rest .product => Level.product.operations

/-- The tokens do not begin with an operator by which the phrase could go on. -/
def Stops (phrase : Phrase) (tokens : List Token) : Prop :=
  ∀ token ∈ tokens.head?, ∀ operation ∈ phrase.further, token.isOperator operation.symbol = false

lemma stops_nil (phrase : Phrase) : Stops phrase [] := by simp [Stops]

lemma stops_of_isOperator {phrase : Phrase} {token : Token} {symbol : Text} {tokens : List Token}
    (h : token.isOperator symbol = true)
    (hn : ∀ operation ∈ phrase.further, symbol ≠ operation.symbol) :
    Stops phrase (token :: tokens) := by
  intro t ht operation hm
  obtain rfl : token = t := by simpa using ht
  rw [Token.isOperator_eq_decide h]
  simpa using hn operation hm

/-- Behind an operand comes what ends the chain or an operator of the chain, and neither lets the
operand go on. -/
lemma Stops.operand {level : Level} {tokens : List Token} (rest : Derivation (.rest level))
    (h : Stops (.rest level) tokens) : Stops (.operand level) (rest.yield ++ tokens) := by
  cases rest with
  | done =>
    intro token ht operation hm
    refine h token ht operation ?_
    cases level
    · exact List.mem_append_right _ hm
    · cases hm
  | join operation sign operand rest mem signs =>
    refine stops_of_isOperator signs fun other ho => ?_
    cases level
    · revert mem ho
      cases operation <;> cases other <;> decide
    · cases ho

namespace Derivation

variable {phrase : Phrase}

lemma yield_append_inj (d d' : Derivation phrase) {tokens tokens' : List Token}
    (h : d.yield ++ tokens = d'.yield ++ tokens') (hs : Stops phrase tokens)
    (hs' : Stops phrase tokens') : d = d' ∧ tokens = tokens' := by
  induction d generalizing tokens tokens' with
  | number token value hk hv =>
    cases d' with
    | number token' value' hk' hv' =>
      obtain ⟨rfl, rfl⟩ : token = token' ∧ tokens = tokens' := by simpa [yield] using h
      obtain rfl : value = value' := by simpa [hv] using hv'
      exact ⟨rfl, rfl⟩
    | group opening' inner' closing' ho' hc' =>
      obtain ⟨rfl, -⟩ := List.cons_eq_cons.mp h
      simp [Token.isOperator, hk] at ho'
  | group opening inner closing ho hc ih =>
    cases d' with
    | number token' value' hk' hv' =>
      obtain ⟨rfl, -⟩ := List.cons_eq_cons.mp h
      simp [Token.isOperator, hk'] at ho
    | group opening' inner' closing' ho' hc' =>
      simp only [yield, List.cons_append, List.append_assoc, List.nil_append] at h
      obtain ⟨rfl, hin⟩ := List.cons_eq_cons.mp h
      obtain ⟨rfl, hback⟩ := ih inner' hin (stops_of_isOperator hc (by decide))
        (stops_of_isOperator hc' (by decide))
      obtain ⟨rfl, rfl⟩ := List.cons_eq_cons.mp hback
      exact ⟨rfl, rfl⟩
  | product inner ih =>
    cases d' with
    | product inner' =>
      obtain ⟨rfl, rfl⟩ := ih inner' h hs hs'
      exact ⟨rfl, rfl⟩
  | primary inner ih =>
    cases d' with
    | primary inner' =>
      obtain ⟨rfl, rfl⟩ := ih inner' h hs hs'
      exact ⟨rfl, rfl⟩
  | @chain level first rest ihf ihr =>
    cases d' with
    | chain first' rest' =>
      have hr : Stops (.rest level) tokens := by cases level <;> exact hs
      have hr' : Stops (.rest level) tokens' := by cases level <;> exact hs'
      simp only [yield, List.append_assoc] at h
      obtain ⟨rfl, hrest⟩ := ihf first' h (hr.operand rest) (hr'.operand rest')
      obtain ⟨rfl, rfl⟩ := ihr rest' hrest hr hr'
      exact ⟨rfl, rfl⟩
  | @done level =>
    cases d' with
    | done => exact ⟨rfl, h⟩
    | join operation' sign' operand' rest' mem' signs' =>
      -- the one chain is over at an operator with which the other goes on
      have := hs sign' (by rw [show tokens = _ from h]; rfl) operation'
        (by cases level <;> simp_all [Phrase.further])
      simp [this] at signs'
  | @join level operation sign operand rest mem signs iho ihr =>
    cases d' with
    | done =>
      have := hs' sign (by rw [show tokens' = _ from h.symm]; rfl) operation
        (by cases level <;> simp_all [Phrase.further])
      simp [this] at signs
    | join operation' sign' operand' rest' mem' signs' =>
      simp only [yield, List.cons_append, List.append_assoc] at h
      obtain ⟨rfl, hin⟩ := List.cons_eq_cons.mp h
      -- no token is the sign of two operations
      obtain rfl : operation = operation' := by
        rw [Token.isOperator_eq_decide signs, decide_eq_true_eq] at signs'
        revert signs'
        cases operation <;> cases operation' <;> decide
      obtain ⟨rfl, hrest⟩ := iho operand' hin (hs.operand rest) (hs'.operand rest')
      obtain ⟨rfl, rfl⟩ := ihr rest' hrest hs hs'
      exact ⟨rfl, rfl⟩

/-- **Unambiguity**: tokens have one derivation at most. -/
theorem yield_injective {d d' : Derivation phrase} (h : d.yield = d'.yield) : d = d' :=
  (yield_append_inj d d' (by rw [h]) (stops_nil _) (stops_nil _)).1

end Derivation

end Grammar

end ArithAsm
