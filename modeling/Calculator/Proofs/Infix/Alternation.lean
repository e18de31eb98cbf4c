import Calculator.Proofs.Acceptance.Exact
import Calculator.Proofs.Infix.Value
import Calculator.Proofs.Statement.Form

/-!
# Lines in which operands and operators alternate

The pass counts operands and does not look at their order, so it gives a value
to lines such as `1 2 +`, `1 ( )` and `2 ( + 3 )`, which the infix grammar does
not derive. This module says what the pass leaves unchecked: that operands and
operators take turns. Of a line in which they do, it takes exactly the phrases
of the grammar.

Results:
1. `Phrase.alternates`: the tokens of a phrase alternate.
2. `exists_phrase`: balanced tokens that alternate are those of a phrase, if
   their numerals are numbers.
3. `evaluate_infix_iff`: which lines with a value are phrases.
4. `evaluate_postfix`: a line that has a value and is no phrase.
-/

namespace Calculator

variable {α : Type} {arith : Arithmetic α} {store : Store α}

namespace Line

/-- What stands next, if operands and operators alternate. -/
inductive Turn
  | operand
  | operator
  deriving DecidableEq, Repr

/-- Operands and operators alternate in the rest of a line. An opening parenthesis
stands where an operand could, and an operand follows it; a closing one stands
where an operator could, and so does what follows it. The line ends where an
operator could stand. -/
inductive Alternates : Turn → List Token → Prop
  | ended : Alternates .operator []
  | operand {token : Token} {tokens : List Token} :
      token.isOperand = true → Alternates .operator tokens → Alternates .operand (token :: tokens)
  | opening {tokens : List Token} :
      Alternates .operand tokens → Alternates .operand (.opening :: tokens)
  | operator {op : Operator} {tokens : List Token} :
      Alternates .operand tokens → Alternates .operator (.operator op :: tokens)
  | closing {tokens : List Token} :
      Alternates .operator tokens → Alternates .operator (.closing :: tokens)

end Line

open Line

namespace Phrase

variable {tier : Tier}

theorem alternates_append (p : Phrase arith tier) {rest : List Token}
    (next : Alternates .operator rest) : Alternates .operand (p.tokens ++ rest) := by
  induction p generalizing rest with
  | number _ _ _ | identifier _ => exact .operand rfl next
  | group inner ih =>
    rw [tokens, List.cons_append, List.append_assoc]
    exact .opening (ih (.closing next))
  | base _ ih | factor _ ih | term _ ih => exact ih next
  | raise left right onLeft onRight =>
    rw [tokens, List.append_assoc]
    exact onLeft (.operator (onRight next))
  | times left op _ right onLeft onRight | plus left op _ right onLeft onRight =>
    rw [tokens, List.append_assoc]
    exact onLeft (.operator (onRight next))

theorem alternates (p : Phrase arith tier) : Alternates .operand p.tokens := by
  have whole := p.alternates_append .ended
  rw [List.append_nil] at whole
  exact whole

/-! ## One more operator -/

/-- One operator of the tier or above and one more operand at the end of a phrase
make a phrase of the same tier: the operator takes the part of the phrase that
binds more tightly. -/
theorem extend (p : Phrase arith tier) {op : Operator} (above : tier.level ≤ op.level)
    (last : Phrase arith .atom) :
    ∃ q : Phrase arith tier, q.tokens = p.tokens ++ .operator op :: last.tokens := by
  induction p with
  | number _ _ _ | identifier _ | group _ _ =>
    exact absurd (Nat.le_trans above op.level_le_two) (by decide)
  | base only _ =>
    obtain rfl : op = .pow := by
      cases op with
      | pow => rfl
      | add | sub | mul | div | rem => exact absurd above (by decide)
    exact ⟨.raise only (.base last), rfl⟩
  | raise left right _ ih =>
    obtain ⟨q, same⟩ := ih above
    exact ⟨.raise left q, by rw [tokens, same, tokens, List.append_assoc, List.cons_append]⟩
  | factor only ih =>
    by_cases chain : op.level = 1
    · exact ⟨.times (.factor only) op (op.isMultiplicative_iff_level.mpr chain) (.base last), rfl⟩
    · obtain ⟨q, same⟩ := ih (Nat.lt_of_le_of_ne above (Ne.symm chain))
      exact ⟨.factor q, same⟩
  | times left first multiplicative right _ ih =>
    by_cases chain : op.level = 1
    · exact ⟨.times (.times left first multiplicative right) op
        (op.isMultiplicative_iff_level.mpr chain) (.base last), rfl⟩
    · obtain ⟨q, same⟩ := ih (Nat.lt_of_le_of_ne above (Ne.symm chain))
      exact ⟨.times left first multiplicative q,
        by rw [tokens, same, tokens, List.append_assoc, List.cons_append]⟩
  | term only ih =>
    by_cases chain : op.level = 0
    · exact ⟨.plus (.term only) op (op.isAdditive_iff_level.mpr chain) (.factor (.base last)), rfl⟩
    · obtain ⟨q, same⟩ := ih (Nat.pos_of_ne_zero chain)
      exact ⟨.term q, same⟩
  | plus left first additive right _ ih =>
    by_cases chain : op.level = 0
    · exact ⟨.plus (.plus left first additive right) op
        (op.isAdditive_iff_level.mpr chain) (.factor (.base last)), rfl⟩
    · obtain ⟨q, same⟩ := ih (Nat.pos_of_ne_zero chain)
      exact ⟨.plus left first additive q,
        by rw [tokens, same, tokens, List.append_assoc, List.cons_append]⟩

/-! ## Sums that are half read -/

/-- What can stand in a group before a turn: before an operator a sum, before an
operand nothing, or a sum and an operator. -/
def Half (arith : Arithmetic α) : Turn → List Token → Prop
  | .operand, half =>
    half = [] ∨ ∃ (p : Phrase arith .sum) (op : Operator), half = p.tokens ++ [.operator op]
  | .operator, half => ∃ p : Phrase arith .sum, half = p.tokens

theorem Half.atom {half : List Token} (begun : Half arith .operand half)
    (last : Phrase arith .atom) : Half arith .operator (half ++ last.tokens) := by
  rcases begun with rfl | ⟨p, op, rfl⟩
  · exact ⟨.term (.factor (.base last)), rfl⟩
  · obtain ⟨q, same⟩ := p.extend (Nat.zero_le op.level) last
    exact ⟨q, by rw [same, List.append_assoc, List.singleton_append]⟩

theorem Half.operator {half : List Token} (complete : Half arith .operator half)
    (op : Operator) : Half arith .operand (half ++ [.operator op]) := by
  obtain ⟨p, rfl⟩ := complete
  exact .inr ⟨p, op, rfl⟩

/-- What stands outside the innermost of so many open groups: for each group what
is half read when it opens, and its opening parenthesis. -/
inductive Outside (arith : Arithmetic α) : Nat → List Token → Prop
  | line : Outside arith 0 []
  | group {depth : Nat} {before half : List Token} :
      Outside arith depth before → Half arith .operand half →
        Outside arith (depth + 1) (before ++ (half ++ [.opening]))

theorem exists_atom {token : Token} (operand : token.isOperand = true)
    (readable : Readable arith [token]) : ∃ p : Phrase arith .atom, p.tokens = [token] := by
  cases token with
  | number text =>
    obtain ⟨value, known⟩ := Option.isSome_iff_exists.mp (readable_singleton.mp readable)
    exact ⟨.number text value known, rfl⟩
  | identifier name => exact ⟨.identifier name, rfl⟩
  | operator _ | opening | closing | equals | ignored => cases operand

end Phrase

open Phrase

/-- Tokens that alternate and close all open groups complete what is half read.
The induction is on the tokens, with what was read before them generalised. -/
theorem exists_phrase {turn : Turn} {tokens : List Token} (alternates : Alternates turn tokens)
    {depth : Nat} {before half : List Token} (outside : Outside arith depth before)
    (begun : Half arith turn half) (balanced : BalancedFrom depth tokens)
    (readable : Readable arith tokens) :
    ∃ p : Phrase arith .sum, p.tokens = before ++ (half ++ tokens) := by
  induction alternates generalizing depth before half with
  | ended =>
    obtain rfl : depth = 0 := balanced
    cases outside
    obtain ⟨p, rfl⟩ := begun
    exact ⟨p, by rw [List.nil_append, List.append_nil]⟩
  | @operand token tokens operand _ ih =>
    obtain ⟨first, later⟩ := readable_cons.mp readable
    obtain ⟨atom, same⟩ := exists_atom operand first
    have rest : BalancedFrom depth tokens := by
      cases token with
      | number _ | identifier _ => exact balanced
      | operator _ | opening | closing | equals | ignored => cases operand
    obtain ⟨p, whole⟩ := ih outside (begun.atom atom) rest later
    exact ⟨p, by rw [whole, same, List.append_assoc, List.singleton_append]⟩
  | opening _ ih =>
    obtain ⟨-, later⟩ := readable_cons.mp readable
    obtain ⟨p, whole⟩ := ih (outside.group begun) (.inl rfl) balanced later
    exact ⟨p, by simp [whole]⟩
  | @operator op tokens _ ih =>
    obtain ⟨-, later⟩ := readable_cons.mp readable
    obtain ⟨p, whole⟩ := ih outside (begun.operator op) balanced later
    exact ⟨p, by rw [whole, List.append_assoc, List.singleton_append]⟩
  | closing _ ih =>
    obtain ⟨-, later⟩ := readable_cons.mp readable
    obtain ⟨some, rest⟩ := balanced
    obtain ⟨inner, rfl⟩ := begun
    cases outside with
    | line => exact absurd rfl some
    | group outside begun =>
      obtain ⟨p, whole⟩ := ih outside (begun.atom (.group inner)) rest later
      exact ⟨p, by simp [whole, Phrase.tokens]⟩

namespace Workspace

/-- Tokens that have a value can be read and are balanced. -/
theorem balanced_of_reckon {tokens : List Token} (plain : .equals ∉ tokens)
    {reductions : List (Reduction α)} {value : α}
    (found : reckon arith store 0 empty tokens = ⟨reductions, .ok value⟩) :
    Readable arith tokens ∧ BalancedFrom 0 tokens := by
  obtain ⟨readable, reduces⟩ := exists_reckon_iff.mp ⟨reductions, value, found⟩
  have settled : Settled (empty : Workspace α).pending := .nil
  have accepts : Accepts 0 tokens 0 [] := (reduces_iff plain settled).mp reduces
  exact ⟨readable, accepts.1⟩

end Workspace

/-- A line that has a value is a phrase, without the ignored tokens and after the
variable it assigns to, iff operands and operators alternate in it. Then its
value is that of the phrase. -/
theorem evaluate_infix_iff {tokens : List Token} {value : α} {target : Option String}
    (has : ((Evaluator.ofStore store).evaluate arith tokens).2.outcome = .ok ⟨value, target⟩) :
    let expression := (Statement.expression tokens).filter (· ≠ .ignored)
    ((∃ p : Phrase arith .sum, p.tokens = expression) ↔ Alternates .operand expression) ∧
      ∀ p : Phrase arith .sum, p.tokens = expression → p.value store = value := by
  intro expression
  obtain ⟨-, whole, rfl, plain, worth⟩ := Evaluator.outcome_evaluate_eq_ok_iff.mp has
  have kept : expression = whole.filter (· ≠ .ignored) := by
    change (Statement.expression (Statement.lead target ++ whole)).filter _ = _
    rw [Statement.expression_lead target plain]
  have still : .equals ∉ expression := by
    rw [kept]
    exact fun member => plain (List.mem_filter.mp member).1
  obtain ⟨reductions, found⟩ : ∃ reductions,
      Workspace.reckon arith store 0 Workspace.empty expression = ⟨reductions, .ok value⟩ := by
    rw [kept, Workspace.reckon_filter_ignored plain, ← worth]
    exact ⟨_, rfl⟩
  obtain ⟨readable, balanced⟩ := Workspace.balanced_of_reckon still found
  refine ⟨⟨?_, fun alternates => ?_⟩, ?_⟩
  · rintro ⟨p, same⟩
    rw [← same]
    exact p.alternates
  · exact exists_phrase alternates .line (.inl rfl) balanced readable
  · intro p same
    rw [← same, p.reckon_tokens store 0] at found
    exact Except.ok.inj (Traced.mk.inj found).2

/-- In `x = ( 2 - 3 ) * y` an ignored token stands between an operator and its
operand; the expression is a phrase all the same. -/
theorem evaluate_infix_iff_assigned :
    let tokens : List Token := [.identifier "x", .equals, .opening, .number "2", .operator .sub,
      .ignored, .number "3", .closing, .operator .mul, .identifier "y"]
    ((Evaluator.ofStore Store.empty).evaluate .binary64 tokens).2.outcome =
        .ok ⟨Operator.apply .mul (Operator.apply .sub 2 3) (Binary64.zero false), some "x"⟩ ∧
      ∃ p : Phrase .binary64 .sum, p.tokens = [.opening, .number "2", .operator .sub, .number "3",
        .closing, .operator .mul, .identifier "y"] := by
  intro tokens
  have has : ((Evaluator.ofStore Store.empty).evaluate .binary64 tokens).2.outcome =
      .ok ⟨Operator.apply .mul (Operator.apply .sub 2 3) (Binary64.zero false), some "x"⟩ := rfl
  have alternates : Alternates .operand [.opening, .number "2", .operator .sub, .number "3",
      .closing, .operator .mul, .identifier "y"] :=
    .opening (.operand rfl (.operator (.operand rfl (.closing (.operator (.operand rfl .ended))))))
  exact ⟨has, (evaluate_infix_iff has).1.mpr alternates⟩

/-- `1 2 +` has a value and is no phrase. -/
theorem evaluate_postfix :
    let tokens : List Token := [.number "1", .number "2", .operator .add]
    ((Evaluator.ofStore Store.seeded).evaluate .binary64 tokens).2.outcome =
        .ok ⟨Operator.apply .add 1 2, none⟩ ∧
      ¬ ∃ p : Phrase .binary64 .sum, p.tokens = tokens := by
  intro tokens
  refine ⟨rfl, ?_⟩
  rintro ⟨p, same⟩
  have alternates : Alternates .operand [.number "1", .number "2", .operator .add] := by
    change Alternates .operand tokens
    rw [← same]
    exact p.alternates
  cases alternates with
  | operand _ next => cases next

end Calculator
