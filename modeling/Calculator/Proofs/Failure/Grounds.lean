import Calculator.Proofs.Acceptance.Count
import Calculator.Proofs.Pass.Accounts
import Calculator.Proofs.Pass.Failing
import Calculator.Proofs.Statement.Form

/-!
# The grounds of a failure

What a failure says of a line is so. The same functions unwind the operators for
an incoming operator, for a closing parenthesis and at the end, and any of them
can fail; but what is said depends only on what has been read up to there.

Results:
1. `readable_of_readAll`: tokens that are taken in have numbers for numerals.
2. `unmatchedClosing_grounds`, `unmatchedOpening_grounds`,
   `malformedNumber_grounds`, `residualOperands_grounds`: what is the case when the
   pass over an expression fails.
3. `evaluate_failure_grounds`: what is the case when a line fails.
-/

namespace Calculator

open Line

variable {α : Type} {arith : Arithmetic α} {store : Store α}

namespace Workspace

variable {position : Nat} {tokens : List Token}

theorem readable_of_readAll {w w' : Workspace α} {reductions : List (Reduction α)}
    (taken : readAll arith store position w tokens = ⟨reductions, .ok w'⟩) :
    Readable arith tokens := by
  refine holds_of_readAll (fun _ tokens _ _ => Readable arith tokens)
    (fun _ _ member => nomatch member) (fun step rest => ?_) taken
  obtain ⟨readable, -⟩ :=
    (exists_step_iff arith store _ _ fun _ _ => True).mp ⟨_, _, step, trivial⟩
  exact readable_cons.mpr ⟨readable, rest⟩

/-- The groups that are open after the tokens of an expression. -/
theorem open_of_readAll {w : Workspace α} {reductions : List (Reduction α)}
    (taken : readAll arith store position empty tokens = ⟨reductions, .ok w⟩) :
    w.pending.count .opening + tokens.count .closing = tokens.count .opening := by
  have groups : _ = 0 + tokens.count .opening := (readAll_accounts taken).groups
  rwa [Nat.zero_add] at groups

theorem exists_operand_of_readAll {w : Workspace α} {reductions : List (Reduction α)}
    (taken : readAll arith store position empty tokens = ⟨reductions, .ok w⟩)
    (left : w.operands ≠ []) : ∃ token ∈ tokens, token.isOperand = true := by
  have operands : w.operands.length + reductions.length = 0 + tokens.countP Token.isOperand :=
    (readAll_accounts taken).operands
  have some : 0 < w.operands.length := List.length_pos_iff.mpr left
  exact List.countP_pos_iff.mp (by omega)

variable (plain : .equals ∉ tokens)
include plain

/-- A part of the expression closes more groups than it opens. -/
theorem unmatchedClosing_grounds
    (failed : (reckon arith store position empty tokens).outcome =
      .error (.malformed .unmatchedClosing)) :
    ∃ n, (tokens.take n).count .opening < (tokens.take n).count .closing := by
  rcases fails_of_reckon plain failed with
    ⟨before, token, after, _, w, rfl, start, refused⟩ | ⟨_, _, -, unfinished⟩
  · cases refused with
    | unmatched none =>
      have closed := open_of_readAll start
      rw [none, Nat.zero_add] at closed
      have part : (before ++ .closing :: after).take (before ++ [Token.closing]).length =
          before ++ [.closing] := by
        rw [List.append_cons before .closing after, List.take_left]
      refine ⟨(before ++ [Token.closing]).length, ?_⟩
      rw [part, List.count_append, List.count_append, closed]
      exact Nat.lt_succ_self _
  · cases unfinished

/-- The expression opens more groups than it closes, closes none that is not open,
and has an operand. -/
theorem unmatchedOpening_grounds
    (failed : (reckon arith store position empty tokens).outcome =
      .error (.malformed .unmatchedOpening)) :
    (∀ n, (tokens.take n).count .closing ≤ (tokens.take n).count .opening) ∧
      tokens.count .closing < tokens.count .opening ∧
      ∃ token ∈ tokens, token.isOperand = true := by
  rcases fails_of_reckon plain failed with
    ⟨_, _, _, _, _, -, -, refused⟩ | ⟨_, w, taken, unfinished⟩
  · cases refused
  · cases unfinished with
    | unclosed some opening =>
      have waits : 0 < w.pending.count .opening := List.count_pos_iff.mpr opening
      have groups := open_of_readAll taken
      exact ⟨closings_le_openings taken, by omega, exists_operand_of_readAll taken some⟩

/-- The text is the first numeral that is not that of a number, and nothing before
it closes a group that is not open. -/
theorem malformedNumber_grounds {text : String}
    (failed : (reckon arith store position empty tokens).outcome =
      .error (.malformed (.malformedNumber text))) :
    ∃ before after, tokens = before ++ .number text :: after ∧ Readable arith before ∧
      arith.read? text = none ∧
      ∀ n, (before.take n).count .closing ≤ (before.take n).count .opening := by
  rcases fails_of_reckon plain failed with
    ⟨before, token, after, _, w, rfl, start, refused⟩ | ⟨_, _, -, unfinished⟩
  · cases refused with
    | numeral unknown =>
      exact ⟨before, after, rfl, readable_of_readAll start, unknown, closings_le_openings start⟩
  · cases unfinished

/-- The expression is balanced, its numerals are numbers, and it has so many
operands more than operators. -/
theorem residualOperands_grounds {count : Nat}
    (failed : (reckon arith store position empty tokens).outcome =
      .error (.irreducible (.residualOperands count))) :
    Readable arith tokens ∧ Balanced tokens ∧
      count + tokens.countP Token.isOperator = tokens.countP Token.isOperand ∧ 2 ≤ count := by
  rcases fails_of_reckon plain failed with
    ⟨_, _, _, _, _, -, -, refused⟩ | ⟨reductions, w, taken, unfinished⟩
  · cases refused
  · cases unfinished with
    | residual operators left many =>
      have closed := open_of_readAll taken
      rw [count_opening_eq_zero.mpr operators, Nat.zero_add] at closed
      have waiting : w.pending.countP Pending.isOperator = w.pending.length :=
        List.countP_eq_length.mpr operators
      have operands : w.operands.length + reductions.length =
          0 + tokens.countP Token.isOperand := (readAll_accounts taken).operands
      have applied : w.pending.countP Pending.isOperator + reductions.length =
          0 + tokens.countP Token.isOperator := (readAll_accounts taken).operators
      refine ⟨readable_of_readAll taken, ⟨closings_le_openings taken, closed⟩, ?_, many⟩
      omega

end Workspace

/-- What a failure of a line says of its expression is so. An unmatched closing
parenthesis: some part from the start closes more groups than it opens. An unmatched
opening one: no part does, but the expression opens more than it closes, and it has
an operand. A malformed number: it is the first one, and no part before it closes
more than it opens. Operands that are left: the numerals are numbers, the
parentheses are balanced, and so many operands are more than operators. -/
theorem evaluate_failure_grounds (arith : Arithmetic α) (store : Store α)
    (tokens : List Token) :
    let expression := Statement.expression tokens
    let outcome := ((Evaluator.ofStore store).evaluate arith tokens).2.outcome
    (outcome = .error (.malformed .unmatchedClosing) →
      ∃ n, (expression.take n).count .opening < (expression.take n).count .closing) ∧
    (outcome = .error (.malformed .unmatchedOpening) →
      (∀ n, (expression.take n).count .closing ≤ (expression.take n).count .opening) ∧
        expression.count .closing < expression.count .opening ∧
        ∃ token ∈ expression, token.isOperand = true) ∧
    (∀ text, outcome = .error (.malformed (.malformedNumber text)) →
      ∃ before after, expression = before ++ .number text :: after ∧ Readable arith before ∧
        arith.read? text = none ∧
        ∀ n, (before.take n).count .closing ≤ (before.take n).count .opening) ∧
    ∀ count, outcome = .error (.irreducible (.residualOperands count)) →
      Readable arith expression ∧ Balanced expression ∧
        count + expression.countP Token.isOperator = expression.countP Token.isOperand ∧
        2 ≤ count := by
  intro expression outcome
  refine ⟨fun failed => ?closing, fun failed => ?opening, fun text failed => ?number,
    fun count failed => ?residual⟩
  case closing =>
    obtain ⟨⟨⟩, -⟩ | ⟨-, plain, alone⟩ := Evaluator.reckon_of_failure failed
    exact Workspace.unmatchedClosing_grounds plain alone
  case opening =>
    obtain ⟨⟨⟩, -⟩ | ⟨-, plain, alone⟩ := Evaluator.reckon_of_failure failed
    exact Workspace.unmatchedOpening_grounds plain alone
  case number =>
    obtain ⟨⟨⟩, -⟩ | ⟨-, plain, alone⟩ := Evaluator.reckon_of_failure failed
    exact Workspace.malformedNumber_grounds plain alone
  case residual =>
    obtain ⟨⟨⟩, -⟩ | ⟨-, plain, alone⟩ := Evaluator.reckon_of_failure failed
    exact Workspace.residualOperands_grounds plain alone

/-- `x = ( 2 * ( 3 )` is reported for the parenthesis that is open, and
`1 ( 2 ) 3 + 4` for its operands: one reduction leaves three of the four. -/
theorem evaluate_failure_grounds_open :
    let opened : List Token := [.identifier "x", .equals, .opening, .number "2", .operator .mul,
      .opening, .number "3", .closing]
    let crowded : List Token := [.number "1", .opening, .number "2", .closing, .number "3",
      .operator .add, .number "4"]
    let outcome := fun tokens =>
      ((Evaluator.ofStore Store.seeded).evaluate .binary64 tokens).2.outcome
    (outcome opened = .error (.malformed .unmatchedOpening) ∧
        (Statement.expression opened).count .closing <
          (Statement.expression opened).count .opening) ∧
      outcome crowded = .error (.irreducible (.residualOperands 3)) ∧
      Balanced crowded ∧
      3 + crowded.countP Token.isOperator = crowded.countP Token.isOperand := by
  intro opened crowded outcome
  have unclosed : outcome opened = .error (.malformed .unmatchedOpening) := rfl
  have residual : outcome crowded = .error (.irreducible (.residualOperands 3)) := rfl
  obtain ⟨-, opening, -, -⟩ := evaluate_failure_grounds .binary64 Store.seeded opened
  obtain ⟨-, -, -, operands⟩ := evaluate_failure_grounds .binary64 Store.seeded crowded
  obtain ⟨-, more, -⟩ := opening unclosed
  obtain ⟨-, balanced, counted, -⟩ := operands 3 residual
  exact ⟨⟨unclosed, more⟩, residual, balanced, counted⟩

end Calculator
