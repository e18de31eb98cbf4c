import Calculator.Arithmetic
import Calculator.Evaluator.Traced
import Calculator.Proofs.Pass.Reading

/-!
# Phrases of the infix grammar

The usual grammar of infix expressions, one nonterminal for each level of
binding:

    sum     ::= product | sum ('+' | '-') product
    product ::= power | product ('*' | '/' | '%') power
    power   ::= atom | atom '^' power
    atom    ::= number | identifier | '(' sum ')'

A sum is one product or more with additive operators between them, grouped to
the left, and a product is the same over powers. A power groups to the right.

A `Phrase` is a derivation in this grammar. Its tokens are what the derivation
derives, and its value is what the grouping says. Neither mentions stacks.
-/

namespace Calculator

/-- The nonterminals of the grammar, from the loosest binding to the tightest. -/
inductive Tier
  | sum
  | product
  | power
  | atom
  deriving DecidableEq, Repr

/-- The least level of the operators that a phrase of a tier can leave waiting. -/
def Tier.level : Tier → Nat
  | sum => 0
  | product => 1
  | power => 2
  | atom => 3

/-- A derivation of the grammar. The numbers in it are the texts of numbers. -/
inductive Phrase {α : Type} (arith : Arithmetic α) : Tier → Type
  | number (text : String) (value : α) (known : arith.read? text = some value) :
      Phrase arith .atom
  | identifier (name : String) : Phrase arith .atom
  | group (inner : Phrase arith .sum) : Phrase arith .atom
  | base (only : Phrase arith .atom) : Phrase arith .power
  | raise (left : Phrase arith .atom) (right : Phrase arith .power) : Phrase arith .power
  | factor (only : Phrase arith .power) : Phrase arith .product
  | times (left : Phrase arith .product) (op : Operator)
      (multiplicative : op.isMultiplicative = true) (right : Phrase arith .power) :
      Phrase arith .product
  | term (only : Phrase arith .product) : Phrase arith .sum
  | plus (left : Phrase arith .sum) (op : Operator) (additive : op.isAdditive = true)
      (right : Phrase arith .product) : Phrase arith .sum

namespace Phrase

variable {α : Type} {arith : Arithmetic α} {tier : Tier}

def tokens {tier : Tier} : Phrase arith tier → List Token
  | number text _ _ => [.number text]
  | identifier name => [.identifier name]
  | group inner => .opening :: (inner.tokens ++ [.closing])
  | base only | factor only | term only => only.tokens
  | raise left right => left.tokens ++ .operator .pow :: right.tokens
  | times left op _ right | plus left op _ right => left.tokens ++ .operator op :: right.tokens

/-- The value of a phrase: an operator is applied to the values of the phrases
on its two sides. -/
def value (store : Store α) {tier : Tier} : Phrase arith tier → α
  | number _ value _ => value
  | identifier name => (store.lookup name).getD arith.unbound
  | group inner => inner.value store
  | base only | factor only | term only => only.value store
  | raise left right => arith.apply .pow (left.value store) (right.value store)
  | times left op _ right | plus left op _ right =>
    arith.apply op (left.value store) (right.value store)

def operation (store : Store α) {left right : Tier} (op : Operator) (lhs : Phrase arith left)
    (rhs : Phrase arith right) : Reduction α :=
  ⟨op, lhs.value store, rhs.value store, arith.apply op (lhs.value store) (rhs.value store)⟩

/-- The operators of a phrase applied in post-order: those of the left side,
those of the right side, the one between them. -/
def reductions (store : Store α) {tier : Tier} : Phrase arith tier → List (Reduction α)
  | number _ _ _ | identifier _ => []
  | group inner => inner.reductions store
  | base only | factor only | term only => only.reductions store
  | raise left right =>
    left.reductions store ++ right.reductions store ++ [operation store .pow left right]
  | times left op _ right | plus left op _ right =>
    left.reductions store ++ right.reductions store ++ [operation store op left right]

theorem plain (p : Phrase arith tier) : .equals ∉ p.tokens := by
  induction p with
  | number _ _ _ | identifier _ => simp [tokens]
  | group _ ih => simp [tokens, ih]
  | base _ ih | factor _ ih | term _ ih => exact ih
  | raise _ _ left right => simp [tokens, left, right]
  | times _ _ _ _ left right | plus _ _ _ _ left right => simp [tokens, left, right]

end Phrase

end Calculator
