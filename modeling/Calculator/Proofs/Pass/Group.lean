import Calculator.Proofs.Pass.Reading

/-!
# Parenthesised groups

Tokens that have a value on their own have the same value inside parentheses,
whatever operands and entries lie below: no reduction of theirs reaches an
operand that is not theirs, and the opening parenthesis stops every unwinding
where the stack of the run on its own ends.

Results:
1. `Step.above`, `readAll_above`: a pass that succeeds does the same above an
   opening parenthesis.
2. `readAll_group`: a group with a value is taken in as that value.
3. `evaluate_group`: in every line, a group and an operand of the same value
   can be exchanged.
-/

namespace Calculator

variable {α : Type} {arith : Arithmetic α} {store : Store α}

namespace Workspace

/-- A workspace above another one, with an opening parenthesis between their
entries. -/
def above (w below : Workspace α) : Workspace α :=
  ⟨w.operands ++ below.operands, w.pending ++ .opening :: below.pending⟩

theorem takeWhile_above {isDue : Pending → Bool} (barrier : isDue .opening = false)
    (pending below : Stack Pending) :
    (pending ++ .opening :: below).takeWhile isDue = pending.takeWhile isDue := by
  induction pending with
  | nil => simp [barrier]
  | cons entry pending ih => simp [List.takeWhile_cons, ih]

theorem dropWhile_above {isDue : Pending → Bool} (barrier : isDue .opening = false)
    (pending below : Stack Pending) :
    (pending ++ .opening :: below).dropWhile isDue =
      pending.dropWhile isDue ++ .opening :: below := by
  induction pending with
  | nil => simp [barrier]
  | cons entry pending ih =>
    simp only [List.cons_append, List.dropWhile_cons, ih]
    split <;> rfl

theorem Step.above {w w' : Workspace α} {token : Token} {reductions : List (Reduction α)}
    (step : Step arith store w token reductions w') (below : Workspace α) :
    Step arith store (w.above below) token reductions (w'.above below) := by
  cases step with
  | operand known => exact .operand known
  | opening => exact .opening
  | closing applied opened =>
    refine .closing ?_ ?_
    · rw [Workspace.above, takeWhile_above rfl]
      exact applyAll_above applied below.operands
    · rw [Workspace.above, dropWhile_above rfl, opened]
      rfl
  | @operator op _ left applied =>
    have due : applyAll arith ((w.above below).pending.takeWhile op.unwinds)
        (w.above below).operands = ⟨reductions, .ok (left ++ below.operands)⟩ := by
      rw [Workspace.above, takeWhile_above rfl]
      exact applyAll_above applied below.operands
    have whole : Step arith store (w.above below) (.operator op) reductions
        ⟨left ++ below.operands,
          .operator op :: (w.pending ++ .opening :: below.pending).dropWhile op.unwinds⟩ :=
      .operator due
    rw [dropWhile_above rfl] at whole
    exact whole
  | ignored => exact .ignored

/-- A pass that succeeds does the same above an opening parenthesis. -/
theorem readAll_above {position : Nat} {w w' : Workspace α} {tokens : List Token}
    {reductions : List (Reduction α)}
    (taken : readAll arith store position w tokens = ⟨reductions, .ok w'⟩)
    (below : Workspace α) :
    readAll arith store position (w.above below) tokens = ⟨reductions, .ok (w'.above below)⟩ := by
  refine holds_of_readAll (fun w tokens made w' => ∀ position,
    readAll arith store position (w.above below) tokens = ⟨made, .ok (w'.above below)⟩)
    (fun _ _ => rfl) (fun step rest position => ?_) taken position
  exact readAll_cons_eq_ok.mpr ⟨_, _, _, step.above below, rest (position + 1), rfl⟩

/-- A closing parenthesis computes what stands above the opening one. -/
theorem step_closing_above {w : Workspace α} {value : α} {reductions : List (Reduction α)}
    (applied : applyAll arith w.pending w.operands = ⟨reductions, .ok [value]⟩)
    (below : Workspace α) :
    Step arith store (w.above below) .closing reductions (below.pushOperand value) := by
  obtain ⟨due, none⟩ := applyAll_eq_ok_iff_operators.mp applied
  have whole := applyAll_above due below.operands
  rw [← takeWhile_above rfl w.pending below.pending] at whole
  refine .closing whole ?_
  rw [Workspace.above, dropWhile_above rfl, none]
  rfl

/-- A group whose tokens have a value on their own is taken in as that value. -/
theorem readAll_group {tokens : List Token} (plain : .equals ∉ tokens) {value : α}
    {reductions : List (Reduction α)}
    (worth : reckon arith store 0 empty tokens = ⟨reductions, .ok value⟩) (position : Nat)
    (below : Workspace α) :
    readAll arith store position below (.opening :: (tokens ++ [.closing])) =
      ⟨reductions, .ok (below.pushOperand value)⟩ := by
  obtain ⟨first, w, later, taken, applied, rfl⟩ := reckon_eq_ok_iff.mp worth
  rw [readAll_position plain 0 (position + 1)] at taken
  have inside : readAll arith store (position + 1) (below.pushPending .opening) tokens =
      ⟨first, .ok (w.above below)⟩ := readAll_above taken below
  refine readAll_cons_eq_ok.mpr ⟨[], _, first ++ later, .opening, ?_, rfl⟩
  rw [readAll_append, inside, Traced.mk_ok_bind, readAll,
    read_of_step (step_closing_above applied below), Traced.mk_ok_bind]
  simp [readAll, Traced.pure_eq]

/-- Two ways to take in the same value have the same outcome in every context. -/
theorem outcome_reckon_congr {first second after : List Token} (plain : .equals ∉ after)
    (same : ∀ position (w : Workspace α), ∃ w' early late,
      readAll arith store position w first = ⟨early, .ok w'⟩ ∧
        readAll arith store position w second = ⟨late, .ok w'⟩)
    (before : List Token) (position : Nat) (w : Workspace α) :
    (reckon arith store position w (before ++ (first ++ after))).outcome =
      (reckon arith store position w (before ++ (second ++ after))).outcome := by
  rw [reckon_append, reckon_append]
  rcases readAll arith store position w before with ⟨done, failure | w₁⟩
  · rfl
  · obtain ⟨w', early, late, onFirst, onSecond⟩ := same (position + before.length) w₁
    simp only [Traced.mk_ok_bind, reckon_append, onFirst, onSecond]
    rw [reckon_position plain _ (position + before.length + second.length)]

end Workspace

open Workspace in
/-- In every line, a parenthesised group that has a value on its own can be
exchanged for an operand of that value: the outcome stays the same, failures
included, and so does the store afterwards. -/
theorem evaluate_group {target : Option String}
    (assignable : ∀ name ∈ target, Token.isVariableName name = true)
    {before group after : List Token} {operand : Token} {result : Evaluation α}
    (plainBefore : .equals ∉ before) (plainGroup : .equals ∉ group) (plainAfter : .equals ∉ after)
    (worth : ((Evaluator.ofStore store).evaluate arith group).2.outcome = .ok result)
    (known : operand.operand? arith store = some result.value) :
    let grouped := (Evaluator.ofStore store).evaluate arith
      (Statement.lead target ++ before ++ [.opening] ++ group ++ [.closing] ++ after)
    let single := (Evaluator.ofStore store).evaluate arith
      (Statement.lead target ++ before ++ [operand] ++ after)
    grouped.2.outcome = single.2.outcome ∧ grouped.1 = single.1 := by
  intro grouped single
  obtain ⟨⟨reductions, alone⟩, -⟩ := (Evaluator.outcome_evaluate_eq_ok plainGroup).mp worth
  have outcome : grouped.2.outcome = single.2.outcome := by
    have plainOperand : .equals ≠ operand := by
      rintro rfl
      cases known
    have both : ∀ position (w : Workspace α), ∃ w' early late,
        readAll arith store position w (.opening :: (group ++ [.closing])) = ⟨early, .ok w'⟩ ∧
          readAll arith store position w [operand] = ⟨late, .ok w'⟩ := by
      intro position w
      exact ⟨w.pushOperand result.value, reductions, [],
        readAll_group plainGroup alone position w,
        readAll_cons_eq_ok.mpr ⟨[], _, [], .operand known, rfl, rfl⟩⟩
    have swap := outcome_reckon_congr plainAfter both before 0 empty
    have plainGrouped : .equals ∉ before ++ (.opening :: (group ++ [.closing]) ++ after) := by
      simp [plainBefore, plainGroup, plainAfter]
    have plainSingle : .equals ∉ before ++ ([operand] ++ after) := by
      simp [plainBefore, plainOperand, plainAfter]
    have onGroup := Evaluator.outcome_evaluate_lead arith store assignable plainGrouped
    rw [swap, ← Evaluator.outcome_evaluate_lead arith store assignable plainSingle] at onGroup
    simpa [grouped, single] using onGroup
  refine ⟨outcome, ?_⟩
  rw [Evaluator.evaluate_fst, Evaluator.evaluate_fst, outcome]

/-- The group in `x = ^ ( 2 3 + ) )` can be exchanged for a variable with the
value 5. The group is no infix expression, and nothing opens the parenthesis
after it. -/
theorem evaluate_group_misordered :
    (∀ name ∈ some "x", Token.isVariableName name = true) ∧
      .equals ∉ [Token.operator .pow] ∧
      .equals ∉ [Token.number "2", .number "3", .operator .add] ∧
      .equals ∉ [Token.closing] ∧
      ((Evaluator.ofStore (Store.empty.bind "s" (Operator.apply .add 2 3))).evaluate .binary64
          [.number "2", .number "3", .operator .add]).2.outcome =
        .ok ⟨Operator.apply .add 2 3, none⟩ ∧
      (Token.identifier "s").operand? .binary64
          (Store.empty.bind "s" (Operator.apply .add 2 3)) =
        some (Operator.apply .add 2 3) ∧
      ((Evaluator.ofStore (Store.empty.bind "s" (Operator.apply .add 2 3))).evaluate .binary64
          [.identifier "x", .equals, .operator .pow, .opening, .number "2", .number "3",
            .operator .add, .closing, .closing]).2.outcome =
        ((Evaluator.ofStore (Store.empty.bind "s" (Operator.apply .add 2 3))).evaluate .binary64
          [.identifier "x", .equals, .operator .pow, .identifier "s", .closing]).2.outcome := by
  have assignable : ∀ name ∈ some "x", Token.isVariableName name = true := by
    rintro _ ⟨⟩
    decide
  have plainBefore : .equals ∉ [Token.operator .pow] := by decide
  have plainGroup : .equals ∉ [Token.number "2", .number "3", .operator .add] := by decide
  have plainAfter : .equals ∉ [Token.closing] := by decide
  have worth : ((Evaluator.ofStore (Store.empty.bind "s" (Operator.apply .add 2 3))).evaluate
      .binary64 [.number "2", .number "3", .operator .add]).2.outcome =
        .ok ⟨Operator.apply .add 2 3, none⟩ := rfl
  have known : (Token.identifier "s").operand? .binary64
      (Store.empty.bind "s" (Operator.apply .add 2 3)) = some (Operator.apply .add 2 3) := rfl
  exact ⟨assignable, plainBefore, plainGroup, plainAfter, worth, known,
    (evaluate_group assignable plainBefore plainGroup plainAfter worth known).1⟩

end Calculator
