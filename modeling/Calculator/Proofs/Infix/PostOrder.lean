import Calculator.Proofs.Infix.Alternation
import Calculator.Proofs.Pass.Accounts

/-!
# One derivation, in post-order

A line has no more than one derivation in the infix grammar. The operator at the
root of a phrase is the last of its tier outside all groups or, for powers, the
first one: the part on its other side binds more tightly, so all operators that it
has outside groups are of a higher level.

So it makes sense to speak of the tree of a line. The evaluator builds none, but it
applies the operators in the order in which a walk through this tree leaves them.

Results:
1. `Phrase.level_le_of_outside`: the operators of a phrase outside all groups.
2. `Phrase.eq_of_tokens`: phrases of the same tokens are equal.
3. `evaluate_postorder`: the reductions of a line that is a phrase.
-/

namespace Calculator

open Line

variable {α : Type} {arith : Arithmetic α}

/-- As many groups are closed as are opened. -/
def Line.Closed (tokens : List Token) : Prop := tokens.count .closing = tokens.count .opening

theorem Line.Closed.of_append {left rest : List Token} {op : Operator}
    (whole : Closed (left ++ .operator op :: rest)) (front : Closed left) : Closed rest := by
  unfold Closed at whole front ⊢
  simp only [List.count_append, List.count_cons] at whole
  simpa [front] using whole

/-- Where one operator and another one stand in the same tokens: the second one
stands further left, in the same place, or further right. -/
theorem Line.operator_cases {left right before after : List Token} {op other : Operator}
    (same : left ++ .operator op :: right = before ++ .operator other :: after) :
    (∃ between, left = before ++ .operator other :: between ∧
        after = between ++ .operator op :: right) ∨
      (left = before ∧ op = other ∧ right = after) ∨
      ∃ between, before = left ++ .operator op :: between ∧
        right = between ++ .operator other :: after := by
  rcases List.append_eq_append_iff.mp same with ⟨between, longer, rest⟩ | ⟨between, longer, rest⟩
  · cases between with
    | nil =>
      obtain ⟨first, rfl⟩ := List.cons.inj rest
      cases first
      exact .inr (.inl ⟨by rw [longer, List.append_nil], rfl, rfl⟩)
    | cons token between =>
      obtain ⟨rfl, rfl⟩ := List.cons.inj rest
      exact .inr (.inr ⟨between, longer, rfl⟩)
  · cases between with
    | nil =>
      obtain ⟨first, rfl⟩ := List.cons.inj rest
      cases first
      exact .inr (.inl ⟨by rw [longer, List.append_nil], rfl, rfl⟩)
    | cons token between =>
      obtain ⟨rfl, rfl⟩ := List.cons.inj rest
      exact .inl ⟨between, longer, rfl⟩

namespace Operator

theorem looser_than_power {op : Operator} (multiplicative : op.isMultiplicative = true) :
    op.level < Tier.power.level := by
  rw [op.isMultiplicative_iff_level.mp multiplicative]
  decide

theorem looser_than_product {op : Operator} (additive : op.isAdditive = true) :
    op.level < Tier.product.level := by
  rw [op.isAdditive_iff_level.mp additive]
  decide

end Operator

namespace Phrase

variable {tier : Tier}

theorem closed (p : Phrase arith tier) : Closed p.tokens := by
  induction p with
  | number _ _ _ | identifier _ => rfl
  | group _ ih =>
    unfold Closed at ih ⊢
    simp [tokens, ih]
  | base _ ih | factor _ ih | term _ ih => exact ih
  | raise _ _ onLeft onRight | times _ _ _ _ onLeft onRight | plus _ _ _ _ onLeft onRight =>
    unfold Closed at onLeft onRight ⊢
    simp [tokens, onLeft, onRight]

/-- A part of a sum from its start closes no more groups than it opens. -/
theorem closings_le_openings (p : Phrase arith .sum) {before after : List Token}
    (parts : p.tokens = before ++ after) : before.count .closing ≤ before.count .opening := by
  obtain ⟨_, _, _, taken, -⟩ := Workspace.reckon_eq_ok_iff.mp (p.reckon_tokens Store.empty 0)
  have bound := Workspace.closings_le_openings taken before.length
  rwa [parts, List.take_left] at bound

theorem not_closed_of_group (inner : Phrase arith .sum) {before after : List Token}
    {op : Operator} (parts : (Phrase.group inner).tokens = before ++ .operator op :: after) :
    ¬ Closed before := by
  cases before with
  | nil => cases parts
  | cons token before =>
    obtain ⟨rfl, rest⟩ := List.cons.inj parts
    rcases List.eq_nil_or_concat after with rfl | ⟨front, last, rfl⟩
    · have last := congrArg List.getLast? rest
      simp at last
    · have regrouped : inner.tokens ++ [.closing] = before ++ .operator op :: front ++ [last] := by
        simpa using rest
      have bound := inner.closings_le_openings (List.append_inj' regrouped rfl).1
      unfold Closed
      rw [List.count_cons_of_ne (by decide), List.count_cons_self]
      omega

/-- An operator of a phrase outside all groups binds as tightly as the tier says,
or more tightly. -/
theorem level_le_of_outside (p : Phrase arith tier) {before after : List Token} {op : Operator}
    (parts : p.tokens = before ++ .operator op :: after) (outside : Closed before) :
    tier.level ≤ op.level := by
  induction p generalizing before after with
  | number _ _ _ | identifier _ =>
    cases before with
    | nil => cases parts
    | cons _ before => simp [tokens] at parts
  | group inner _ => exact absurd outside (inner.not_closed_of_group parts)
  | base _ ih | factor _ ih | term _ ih =>
    exact Nat.le_trans (by decide) (ih parts outside)
  | raise left right onLeft onRight =>
    rcases operator_cases parts with ⟨_, first, -⟩ | ⟨-, rfl, -⟩ | ⟨_, rfl, second⟩
    · exact Nat.le_trans (by decide) (onLeft first outside)
    · exact Nat.le_refl 2
    · exact onRight second (outside.of_append left.closed)
  | times left other multiplicative right onLeft onRight =>
    rcases operator_cases parts with ⟨_, first, -⟩ | ⟨-, rfl, -⟩ | ⟨_, rfl, second⟩
    · exact onLeft first outside
    · exact Nat.le_of_eq (other.isMultiplicative_iff_level.mp multiplicative).symm
    · exact Nat.le_trans (by decide) (onRight second (outside.of_append left.closed))
  | plus => exact Nat.zero_le op.level

/-- A phrase cannot be cut at an operator outside all groups that binds less tightly
than its tier. -/
theorem uncut (p : Phrase arith tier) {before after : List Token} {op : Operator}
    (parts : p.tokens = before ++ .operator op :: after) (outside : Closed before) :
    ¬ op.level < tier.level :=
  Nat.not_lt.mpr (p.level_le_of_outside parts outside)

/-- Where the right sides bind more tightly than the operators, a line is cut into a
left side, an operator and a right side in one way. -/
theorem cut_unique {leftTier rightTier : Tier} {left left' : Phrase arith leftTier}
    {right right' : Phrase arith rightTier} {op op' : Operator}
    (loose : op.level < rightTier.level) (loose' : op'.level < rightTier.level)
    (same : left.tokens ++ .operator op :: right.tokens =
      left'.tokens ++ .operator op' :: right'.tokens) :
    left.tokens = left'.tokens ∧ op = op' ∧ right.tokens = right'.tokens := by
  rcases operator_cases same with ⟨_, first, second⟩ | equal | ⟨_, first, second⟩
  · have between := (first ▸ left.closed).of_append left'.closed
    exact absurd loose (right'.uncut second between)
  · exact equal
  · have between := (first ▸ left'.closed).of_append left.closed
    exact absurd loose' (right.uncut second between)

/-- Phrases of the same tokens are equal. -/
theorem eq_of_tokens (p q : Phrase arith tier) (same : p.tokens = q.tokens) : p = q := by
  induction p with
  | number text value known =>
    cases q with
    | number text' value' known' =>
      cases same
      obtain rfl := Option.some.inj (known.symm.trans known')
      rfl
    | identifier _ => cases same
    | group inner => cases same
  | identifier name =>
    cases q with
    | number _ _ _ => cases same
    | identifier name' =>
      cases same
      rfl
    | group inner => cases same
  | group inner ih =>
    cases q with
    | number _ _ _ => cases same
    | identifier _ => cases same
    | group inner' =>
      obtain ⟨-, rest⟩ := List.cons.inj same
      rw [ih inner' (List.append_cancel_right rest)]
  | base only ih =>
    cases q with
    | base only' => rw [ih only' same]
    | raise left right => exact absurd (by decide) (only.uncut same left.closed)
  | raise left right onLeft onRight =>
    cases q with
    | base only => exact absurd (by decide) (only.uncut same.symm left.closed)
    | raise left' right' =>
      -- An atom has no operator outside groups, so the first `^` is the same one.
      rcases operator_cases same with ⟨_, first, -⟩ | ⟨before, -, after⟩ | ⟨_, first, -⟩
      · exact absurd (by decide) (left.uncut first left'.closed)
      · rw [onLeft left' before, onRight right' after]
      · exact absurd (by decide) (left'.uncut first left.closed)
  | factor only ih =>
    cases q with
    | factor only' => rw [ih only' same]
    | times left op multiplicative right =>
      exact absurd (Operator.looser_than_power multiplicative) (only.uncut same left.closed)
  | times left op multiplicative right onLeft onRight =>
    cases q with
    | factor only =>
      exact absurd (Operator.looser_than_power multiplicative) (only.uncut same.symm left.closed)
    | times left' op' multiplicative' right' =>
      obtain ⟨before, rfl, after⟩ := cut_unique (Operator.looser_than_power multiplicative)
        (Operator.looser_than_power multiplicative') same
      rw [onLeft left' before, onRight right' after]
  | term only ih =>
    cases q with
    | term only' => rw [ih only' same]
    | plus left op additive right =>
      exact absurd (Operator.looser_than_product additive) (only.uncut same left.closed)
  | plus left op additive right onLeft onRight =>
    cases q with
    | term only =>
      exact absurd (Operator.looser_than_product additive) (only.uncut same.symm left.closed)
    | plus left' op' additive' right' =>
      obtain ⟨before, rfl, after⟩ := cut_unique (Operator.looser_than_product additive)
        (Operator.looser_than_product additive') same
      rw [onLeft left' before, onRight right' after]

end Phrase

/-- A line that is a phrase of the grammar has one derivation. Evaluating it makes
one reduction for each operator: those of the derivation in post-order, each with
the values of the phrases on its two sides. It does so as well where the line is
assigned. -/
theorem evaluate_postorder (store : Store α) (p : Phrase arith .sum) :
    (∀ q : Phrase arith .sum, q.tokens = p.tokens → q = p) ∧
      (∀ target : Option String, (∀ name ∈ target, Token.isVariableName name = true) →
        ((Evaluator.ofStore store).evaluate arith
          (Statement.lead target ++ p.tokens)).2.reductions = p.reductions store) ∧
      (p.reductions store).length = p.tokens.countP Token.isOperator := by
  have found := p.reckon_tokens store 0
  refine ⟨fun q same => q.eq_of_tokens p same, fun target assignable => ?_,
    (Workspace.reckon_reductions found).1⟩
  rw [Evaluator.evaluate_lead arith store assignable p.plain, found, Traced.mk_ok_bind]
  exact List.append_nil _

/-- In `a - ( 2 ^ 3 ^ 2 ) * 5` the tower comes first, from its right end, then the
product, and the difference last. -/
theorem evaluate_postorder_tower :
    (∀ name ∈ (none : Option String), Token.isVariableName name = true) ∧
      ((Evaluator.ofStore (Store.empty.bind "a" 7)).evaluate .binary64
        [.identifier "a", .operator .sub, .opening, .number "2", .operator .pow, .number "3",
          .operator .pow, .number "2", .closing, .operator .mul, .number "5"]).2.reductions =
        [⟨.pow, 3, 2, Operator.apply .pow 3 2⟩,
          ⟨.pow, 2, Operator.apply .pow 3 2, Operator.apply .pow 2 (Operator.apply .pow 3 2)⟩,
          ⟨.mul, Operator.apply .pow 2 (Operator.apply .pow 3 2), 5,
            Operator.apply .mul (Operator.apply .pow 2 (Operator.apply .pow 3 2)) 5⟩,
          ⟨.sub, 7, Operator.apply .mul (Operator.apply .pow 2 (Operator.apply .pow 3 2)) 5,
            Operator.apply .sub 7
              (Operator.apply .mul (Operator.apply .pow 2 (Operator.apply .pow 3 2)) 5)⟩] := by
  have unassigned : ∀ name ∈ (none : Option String), Token.isVariableName name = true := by
    rintro _ ⟨⟩
  let two : Phrase .binary64 .atom := .number "2" 2 rfl
  let three : Phrase .binary64 .atom := .number "3" 3 rfl
  let five : Phrase .binary64 .atom := .number "5" 5 rfl
  let tower : Phrase .binary64 .sum := .term (.factor (.raise two (.raise three (.base two))))
  let difference : Phrase .binary64 .sum :=
    .plus (.term (.factor (.base (.identifier "a")))) .sub rfl
      (.times (.factor (.base (.group tower))) .mul rfl (.base five))
  exact ⟨unassigned,
    (evaluate_postorder (Store.empty.bind "a" 7) difference).2.1 none unassigned⟩

end Calculator
