import Calculator.Proofs.Pass.Related
import Calculator.Proofs.Statement.Form

/-!
# What the values of variables can change

Whether a line has a value, what it assigns to and which failure it ends with
is decided by its tokens alone. Its value depends only on the variables that its
expression names: not on other variables, and not on their order.

Results:
1. `Evaluator.evaluate_related`: a relation between values that the operators
   respect is kept from the operands of an expression to its value.
2. `evaluate_variables`: the same line with two stores.
-/

namespace Calculator

variable {α : Type} {arith : Arithmetic α} {first second : Store α} {R : α → α → Prop}

theorem Arithmetic.respects_all (arith : Arithmetic α) : arith.Respects fun _ _ => True :=
  fun _ _ _ _ _ _ _ => trivial

theorem Arithmetic.respects_eq (arith : Arithmetic α) : arith.Respects Eq := by
  rintro op lhs rhs _ _ rfl rfl
  rfl

theorem Token.related_eq {token : Token}
    (same : ∀ name, token = .identifier name →
      (first.lookup name).getD arith.unbound = (second.lookup name).getD arith.unbound) :
    token.Related arith first second Eq := by
  intro value known other found
  cases token with
  | number text => exact Option.mem_unique known found
  | identifier name =>
    cases known
    cases found
    exact same name rfl
  | operator _ | opening | closing | equals | ignored => cases known

theorem Reduction.Related.eq {r s : Reduction α} (related : Reduction.Related Eq r s) : r = s := by
  obtain ⟨op, lhs, rhs, value⟩ := r
  obtain ⟨rfl, rfl, rfl, rfl⟩ := related
  rfl

theorem Traced.Related.eq {β : Type} {S : β → β → Prop} {x y : Traced α β}
    (related : Traced.Related Eq S x y) (same : ∀ b c, S b c → b = c) : x = y := by
  obtain ⟨first, outcome⟩ := x
  obtain ⟨second, outcome'⟩ := y
  obtain ⟨reductions, alike⟩ := related
  have equal : List.Forall₂ Eq first second := reductions.imp fun _ _ both => both.eq
  rw [List.forall₂_eq_eq_eq] at equal
  cases alike with
  | error failure => rw [equal]
  | ok both => rw [equal, same _ _ both]

namespace Evaluator

/-- Two evaluations with related values and the same target. -/
def Agree (R : α → α → Prop) (x y : Evaluation α) : Prop :=
  R x.value y.value ∧ x.target = y.target

/-- A relation that the operators respect is kept from the operands of an
expression to its value. -/
theorem evaluate_related (respects : arith.Respects R) {tokens : List Token}
    (known : ∀ token ∈ Statement.expression tokens, token.Related arith first second R) :
    Traced.Related R (Agree R) ((ofStore first).evaluate arith tokens).2
      ((ofStore second).evaluate arith tokens).2 := by
  change Traced.Related R (Agree R) ((ofStore first).run arith tokens)
    ((ofStore second).run arith tokens)
  cases form : Statement.ofTokens? tokens with
  | error fault =>
    rw [run_of_fault form, run_of_fault form]
    exact .failed _
  | ok statement =>
    rw [run_of_statement form, run_of_statement form]
    obtain ⟨-, start, expression, rfl, plain⟩ := Statement.ofTokens?_eq_ok_iff.mp form
    rw [Statement.expression_lead _ plain] at known
    rw [start, List.drop_left]
    exact (Workspace.reckon_related respects known _).bind fun _ _ same => .pure ⟨same, rfl⟩

end Evaluator

/-- With two stores, a line succeeds on both with the same target or fails on
both with the same failure. If the variables that its expression names have the
same values in both, so does the line, by the same reductions. -/
theorem evaluate_variables (arith : Arithmetic α) (first second : Store α)
    (tokens : List Token) :
    let here := ((Evaluator.ofStore first).evaluate arith tokens).2
    let there := ((Evaluator.ofStore second).evaluate arith tokens).2
    ((∃ x y target, here.outcome = .ok ⟨x, target⟩ ∧ there.outcome = .ok ⟨y, target⟩) ∨
        ∃ failure, here.outcome = .error failure ∧ there.outcome = .error failure) ∧
      ((∀ name, .identifier name ∈ Statement.expression tokens →
          (first.lookup name).getD arith.unbound = (second.lookup name).getD arith.unbound) →
        here = there) := by
  intro here there
  constructor
  · have related : Traced.Related (fun _ _ => True) _ here there :=
      Evaluator.evaluate_related arith.respects_all fun _ _ _ _ _ _ => trivial
    obtain ⟨-, outcome⟩ := related
    generalize here.outcome = x at outcome ⊢
    generalize there.outcome = y at outcome ⊢
    cases outcome with
    | error failure => exact .inr ⟨failure, rfl, rfl⟩
    | @ok x y agree =>
      obtain ⟨value, target⟩ := x
      obtain ⟨other, _⟩ := y
      obtain ⟨-, rfl⟩ := agree
      exact .inl ⟨value, other, target, rfl, rfl⟩
  · intro same
    have known : ∀ token ∈ Statement.expression tokens, token.Related arith first second Eq := by
      intro token member
      refine Token.related_eq fun name named => same name ?_
      rw [← named]
      exact member
    have related : Traced.Related Eq (Evaluator.Agree Eq) here there :=
      Evaluator.evaluate_related arith.respects_eq known
    refine related.eq ?_
    rintro ⟨x, target⟩ ⟨y, _⟩ ⟨rfl, rfl⟩
    rfl

/-- In `x = (y + 2) % y` only `y` matters: not the old value of `x`, not the
other variables, not the order in which they were bound. -/
theorem evaluate_variables_reordered :
    let first : Store Float := ((Store.empty.bind "x" 1).bind "z" 4).bind "y" 3
    let second : Store Float := (Store.empty.bind "y" 3).bind "x" 7
    let tokens : List Token := [.identifier "x", .equals, .opening, .identifier "y",
      .operator .add, .number "2", .closing, .operator .rem, .identifier "y"]
    (∀ name, .identifier name ∈ Statement.expression tokens →
        (first.lookup name).getD Arithmetic.binary64.unbound =
          (second.lookup name).getD Arithmetic.binary64.unbound) ∧
      ((Evaluator.ofStore first).evaluate .binary64 tokens).2 =
        ((Evaluator.ofStore second).evaluate .binary64 tokens).2 := by
  intro first second tokens
  have same : ∀ name, .identifier name ∈ Statement.expression tokens →
      (first.lookup name).getD Arithmetic.binary64.unbound =
        (second.lookup name).getD Arithmetic.binary64.unbound := by
    intro name member
    have named : name = "y" := by simpa [Statement.expression, tokens] using member
    rw [named]
    rfl
  exact ⟨same, (evaluate_variables .binary64 first second tokens).2 same⟩

end Calculator
