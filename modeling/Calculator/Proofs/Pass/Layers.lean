import Calculator.Proofs.Pass.Accounts
import Mathlib.Data.List.Chain

/-!
# What the operator stack looks like

Nothing on the operator stack says which operators may wait above which. That follows
from when they are unwound: an operator is placed on an entry that it does not have
applied, and entries leave from the top only. So each entry stands on one that it leaves
alone, and the operators of an open group can wait in one order only: an additive one,
then a multiplicative one, then any number of `^`. Two of a level do not wait together
below the level of `^`, because the second would have the first applied.

Results:
1. `stands_of_step`, `stands_of_readAll`: every entry stands on one that it leaves alone.
2. `layered_of_isChain`: operators of which each stands on such a one are layered.
3. `evaluate_layered`: the operator stack between any two tokens of a line.
-/

namespace Calculator

variable {α : Type} {arith : Arithmetic α} {store : Store α}

/-- `Layered segment`: from the bottom, at most one additive operator, then at most one
multiplicative one, then any number of `^`, and nothing else. -/
inductive Layered : List Pending → Prop
  | mk (low middle : Option Operator) (powers : Nat) :
      (∀ op ∈ low, op.isAdditive = true) → (∀ op ∈ middle, op.isMultiplicative = true) →
      Layered ((low.toList ++ middle.toList ++ List.replicate powers Operator.pow).map .operator)

/-- `Stands upper lower`: one entry may wait right above the other, because it is no
operator that has the other applied. -/
def Stands (upper lower : Pending) : Prop :=
  ∀ op, upper = .operator op → op.unwinds lower = false

theorem stands_operator {op waiting : Operator} :
    Stands (.operator op) (.operator waiting) ↔ op = .pow ∨ waiting.level < op.level := by
  rw [← Operator.unwinds_eq_false_iff]
  constructor
  · intro stands
    exact stands op rfl
  · intro stays other same
    cases same
    exact stays

/-- `Passes arith store tokens done reductions w`: the pass over a line comes to the place
after these tokens of its expression. They have been taken in from empty stacks. -/
def Evaluator.Passes (arith : Arithmetic α) (store : Store α) (tokens done : List Token)
    (reductions : List (Reduction α)) (w : Workspace α) : Prop :=
  ∃ statement, Statement.ofTokens? tokens = .ok statement ∧
    done <+: tokens.drop statement.start ∧
    Workspace.readAll arith store statement.start Workspace.empty done = ⟨reductions, .ok w⟩

namespace Workspace

/-! ## Each entry on the one below it -/

theorem stands_of_step {w w' : Workspace α} {token : Token} {reductions : List (Reduction α)}
    (step : Step arith store w token reductions w') (stands : w.pending.IsChain Stands) :
    w'.pending.IsChain Stands := by
  have rest : ∀ isDue, (w.pending.dropWhile isDue).IsChain Stands :=
    fun isDue => stands.suffix (List.dropWhile_suffix isDue)
  cases step with
  | operand _ => exact stands
  | opening =>
    refine List.isChain_cons.mpr ⟨fun lower _ op same => ?_, stands⟩
    cases same
  | @closing _ _ below _ opened =>
    have opening : (Pending.opening :: below).IsChain Stands := opened ▸ rest _
    exact opening.tail
  | @operator op _ _ _ =>
    refine List.isChain_cons.mpr ⟨fun lower top other same => ?_, rest _⟩
    cases same
    exact rests_dropWhile op.unwinds w.pending lower top
  | ignored => exact stands

theorem stands_of_readAll {position : Nat} {w w' : Workspace α} {tokens : List Token}
    {reductions : List (Reduction α)}
    (taken : readAll arith store position w tokens = ⟨reductions, .ok w'⟩)
    (stands : w.pending.IsChain Stands) : w'.pending.IsChain Stands :=
  holds_of_readAll (fun w _ _ w' => w.pending.IsChain Stands → w'.pending.IsChain Stands)
    (fun _ stands => stands) (fun step rest stands => rest (stands_of_step step stands)) taken
    stands

end Workspace

/-! ## Layers -/

theorem Operator.eq_pow {op : Operator} (notLow : ¬ op.isAdditive = true)
    (notMiddle : ¬ op.isMultiplicative = true) : op = .pow := by
  cases op with
  | add | sub => exact absurd rfl notLow
  | mul | div | rem => exact absurd rfl notMiddle
  | pow => rfl

/-- One more operator below layers: what binds no more tightly cannot be right above it. -/
theorem Layered.cons {op : Operator} {segment : List Pending} (layered : Layered segment)
    (stands : ∀ upper ∈ segment.head?, Stands upper (.operator op)) :
    Layered (.operator op :: segment) := by
  obtain ⟨low, middle, powers, additive, multiplicative⟩ := layered
  cases low with
  | some next =>
    have level : next.level = 0 := (Operator.isAdditive_iff_level next).mp (additive next rfl)
    rcases stands_operator.mp (stands _ rfl) with rfl | tighter
    · cases level
    · rw [level] at tighter
      exact absurd tighter (Nat.not_lt_zero _)
  | none =>
    by_cases lowest : op.isAdditive = true
    · refine .mk (some op) middle powers ?_ multiplicative
      intro other same
      cases same
      exact lowest
    · have apart : op.level ≠ 0 := fun level =>
        lowest ((Operator.isAdditive_iff_level op).mpr level)
      cases middle with
      | some next =>
        have level : next.level = 1 :=
          (Operator.isMultiplicative_iff_level next).mp (multiplicative next rfl)
        rcases stands_operator.mp (stands _ rfl) with rfl | tighter
        · cases level
        · rw [level] at tighter
          exact absurd (Nat.lt_one_iff.mp tighter) apart
      | none =>
        by_cases inner : op.isMultiplicative = true
        · refine .mk none (some op) powers additive ?_
          intro other same
          cases same
          exact inner
        · obtain rfl := Operator.eq_pow lowest inner
          exact .mk none none (powers + 1) additive multiplicative

/-- Operators of which each stands on one that it leaves alone are layered. -/
theorem layered_of_isChain {segment : List Pending} (operators : .opening ∉ segment)
    (stands : segment.IsChain fun lower upper => Stands upper lower) : Layered segment := by
  induction segment with
  | nil => exact .mk none none 0 (fun _ none => nomatch none) (fun _ none => nomatch none)
  | cons entry segment ih =>
    rw [List.mem_cons, not_or] at operators
    obtain ⟨above, later⟩ := List.isChain_cons.mp stands
    cases entry with
    | opening => exact absurd rfl operators.1
    | operator op => exact (ih operators.2 later).cons above

/-- The parts of a list between the places of an element are parts of the list, and the
element is in none of them. -/
theorem infix_of_mem_splitOn {β : Type} [DecidableEq β] {a : β} {entries segment : List β}
    (member : segment ∈ entries.splitOn a) : segment <:+: entries ∧ a ∉ segment := by
  by_cases present : a ∈ entries
  · obtain ⟨front, back, rfl, apart⟩ := List.eq_append_cons_of_mem present
    rw [List.splitOn_append_cons_self_of_not_mem apart] at member
    cases List.mem_cons.mp member with
    | inl first =>
      subst first
      exact ⟨(List.prefix_append segment (a :: back)).isInfix, apart⟩
    | inr later =>
      obtain ⟨inside, absent⟩ := infix_of_mem_splitOn later
      have behind : back <:+: front ++ a :: back :=
        ⟨front ++ [a], [], by simp⟩
      exact ⟨inside.trans behind, absent⟩
  · rw [List.splitOn_eq_singleton present, List.mem_singleton] at member
    subst member
    exact ⟨List.infix_rfl, present⟩
termination_by entries.length

/-- Between any two tokens of a line, the operators that wait in one group are layered,
and the opening parentheses that wait are those that have been read and not closed. -/
theorem evaluate_layered {tokens done : List Token} {reductions : List (Reduction α)}
    {w : Workspace α} (passes : Evaluator.Passes arith store tokens done reductions w) :
    (∀ segment ∈ w.pending.reverse.splitOn .opening, Layered segment) ∧
      w.pending.count .opening + done.count .closing = done.count .opening := by
  obtain ⟨statement, -, -, taken⟩ := passes
  constructor
  · intro segment member
    obtain ⟨inside, operators⟩ := infix_of_mem_splitOn member
    have stands : w.pending.IsChain Stands := Workspace.stands_of_readAll taken .nil
    have upward : w.pending.reverse.IsChain fun lower upper => Stands upper lower :=
      List.isChain_reverse.mpr stands
    have part : segment.IsChain fun lower upper => Stands upper lower :=
      List.IsChain.infix upward inside
    exact layered_of_isChain operators part
  · have groups : _ = 0 + done.count .opening := (Workspace.readAll_accounts taken).groups
    rwa [Nat.zero_add] at groups

/-- After `x = a * b + c * ( d / e - f ^ g ^` the product of `a` and `b` and the quotient
have been computed. What waits outside the parenthesis and inside is in layers. -/
theorem evaluate_layered_two_groups :
    let tokens : List Token := [.identifier "x", .equals, .identifier "a", .operator .mul,
      .identifier "b", .operator .add, .identifier "c", .operator .mul, .opening,
      .identifier "d", .operator .div, .identifier "e", .operator .sub, .identifier "f",
      .operator .pow, .identifier "g", .operator .pow, .identifier "h", .closing]
    let done : List Token := (tokens.drop 2).take 15
    ∃ reductions w, Evaluator.Passes .binary64 Store.seeded tokens done reductions w ∧
      w.pending.reverse.splitOn .opening =
        [[.operator .add, .operator .mul], [.operator .sub, .operator .pow, .operator .pow]] ∧
      Layered [.operator .add, .operator .mul] ∧
      Layered [.operator .sub, .operator .pow, .operator .pow] ∧
      w.pending.count .opening + done.count .closing = done.count .opening := by
  intro tokens done
  have passes : ∃ reductions w,
      Evaluator.Passes .binary64 Store.seeded tokens done reductions w ∧
        w.pending.reverse.splitOn .opening = [[.operator .add, .operator .mul],
          [.operator .sub, .operator .pow, .operator .pow]] :=
    ⟨_, _, ⟨⟨some "x", 2⟩, rfl, List.take_prefix 15 _, rfl⟩, rfl⟩
  obtain ⟨reductions, w, passes, segments⟩ := passes
  obtain ⟨layered, groups⟩ := evaluate_layered passes
  rw [segments] at layered
  exact ⟨reductions, w, passes, segments, layered _ List.mem_cons_self,
    layered _ (List.mem_cons_of_mem _ List.mem_cons_self), groups⟩

end Calculator
