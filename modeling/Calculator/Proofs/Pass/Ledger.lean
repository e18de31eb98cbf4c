import Calculator.Proofs.Pass.Accounts
import Calculator.Proofs.Pass.Moves
import Calculator.Proofs.Statement.Form

/-!
# What the moves of a pass cost

Every move takes one token in or makes one reduction. A reduction takes two operands and
puts one back, and takes one operator away for good. So at every point of a line, in the
middle of a loop as well, what lies on the stacks and the reductions made so far balance
with the tokens taken in; and no loop can go round more often than operators wait. The
loop for a closing parenthesis is no exception, although it is an opening parenthesis that
ends it: where none is found, it runs out of operators.

Results:
1. `progress_of_move`, `progress_of_run`: what a move changes, and what a run does.
2. `Round.exists_last`, `waiting_of_rounds`: every loop ends, and makes a reduction of each
   operator that it takes away.
3. `evaluate_ledger`: the books of a line, at every point and at its end.
-/

namespace Calculator

open Relation

variable {α : Type} {arith : Arithmetic α} {store : Store α}

/-- The number of operators that wait, opening parentheses aside. -/
def Point.waiting (p : Point α) : Nat := p.workspace.pending.countP Pending.isOperator

/-- `Ledger p`: the stacks and the reductions made balance with the tokens taken in, and
there is an operand as soon as one has been taken in. -/
structure Ledger (p : Point α) : Prop where
  operands : p.workspace.operands.length + p.reductions.length =
    p.taken.countP Token.isOperand
  operators : p.waiting + p.reductions.length = p.taken.countP Token.isOperator
  some : 0 < p.taken.countP Token.isOperand → p.workspace.operands ≠ []

/-- The evaluation of a line comes to this point: the line is a statement, and moves lead
from the start of its expression with empty stacks to the point. -/
def Evaluator.Reaches (arith : Arithmetic α) (store : Store α) (tokens : List Token)
    (p : Point α) : Prop :=
  ∃ statement, Statement.ofTokens? tokens = .ok statement ∧
    ReflTransGen (Move arith store) ⟨[], tokens.drop statement.start, [], Workspace.empty⟩ p

/-! ## What a move changes -/

/-- `Progress p q tokens made`: between these points the tokens have been taken in and the
reductions been made, and the stacks have changed accordingly. -/
structure Progress (p q : Point α) (tokens : List Token) (made : List (Reduction α)) :
    Prop where
  taken : q.taken = p.taken ++ tokens
  ahead : p.ahead = tokens ++ q.ahead
  reductions : q.reductions = p.reductions ++ made
  accounts : Workspace.Accounts p.workspace tokens made q.workspace
  some : p.workspace.operands ≠ [] ∨ 0 < tokens.countP Token.isOperand →
    q.workspace.operands ≠ []

theorem Progress.refl (p : Point α) : Progress p p [] [] where
  taken := (List.append_nil _).symm
  ahead := rfl
  reductions := (List.append_nil _).symm
  accounts := .refl p.workspace
  some := fun either => either.resolve_right (Nat.lt_irrefl 0)

theorem Progress.trans {p q r : Point α} {tokens more : List Token}
    {early late : List (Reduction α)} (first : Progress p q tokens early)
    (second : Progress q r more late) : Progress p r (tokens ++ more) (early ++ late) where
  taken := by rw [second.taken, first.taken, List.append_assoc]
  ahead := by rw [first.ahead, second.ahead, List.append_assoc]
  reductions := by rw [second.reductions, first.reductions, List.append_assoc]
  accounts := first.accounts.append second.accounts
  some := by
    intro either
    rw [List.countP_append, Nat.add_pos_iff_pos_or_pos, ← or_assoc] at either
    exact second.some (either.imp_left first.some)

theorem progress_of_round {p q : Point α} (round : Round arith p q) :
    ∃ reduction, Progress p q [] [reduction] := by
  cases round with
  | @apply _ _ _ entry operands left pending reduction _ applied =>
    obtain ⟨op, lhs, rhs, below, rfl, rfl, rfl, same⟩ := Workspace.applyTop_eq_ok.mp applied
    refine ⟨reduction, (List.append_nil _).symm, rfl, rfl, ⟨rfl, ?_, ?_⟩,
      fun _ => List.cons_ne_nil _ below⟩
    · show pending.countP Pending.isOperator + 1 =
        (Pending.operator op :: pending).countP Pending.isOperator
      rw [List.countP_cons_of_pos (show (Pending.operator op).isOperator = true from rfl)]
    · show pending.count .opening = (Pending.operator op :: pending).count .opening
      rw [List.count_cons_of_ne (by simp)]

/-- A move takes one token in or makes one reduction. -/
theorem progress_of_move {p q : Point α} (move : Move arith store p q) :
    ∃ tokens made, Progress p q tokens made ∧ tokens.length + made.length = 1 := by
  cases move with
  | round round =>
    obtain ⟨reduction, progress⟩ := progress_of_round round
    exact ⟨[], [reduction], progress, rfl⟩
  | @take token taken ahead done w w' _ step =>
    have accounts : Workspace.Accounts w [token] [] w' := Workspace.accounts_of_step step
    refine ⟨[token], [], ⟨rfl, rfl, (List.append_nil _).symm, accounts, fun either => ?_⟩, rfl⟩
    have longer : w'.operands.length = w.operands.length + [token].countP Token.isOperand :=
      accounts.operands
    rw [← List.length_pos_iff] at either ⊢
    show 0 < w'.operands.length
    rw [longer]
    exact Nat.add_pos_iff_pos_or_pos.mpr either

theorem progress_of_run {p q : Point α} (run : ReflTransGen (Move arith store) p q) :
    ∃ tokens made, Progress p q tokens made := by
  induction run with
  | refl => exact ⟨[], [], .refl p⟩
  | tail _ move ih =>
    obtain ⟨tokens, early, first⟩ := ih
    obtain ⟨more, late, second, -⟩ := progress_of_move move
    exact ⟨tokens ++ more, early ++ late, first.trans second⟩

/-! ## Loops -/

theorem progress_of_rounds {p q : Point α} (run : ReflTransGen (Round arith) p q) :
    ∃ made, Progress p q [] made := by
  induction run with
  | refl => exact ⟨[], .refl p⟩
  | tail _ round ih =>
    obtain ⟨early, first⟩ := ih
    obtain ⟨reduction, second⟩ := progress_of_round round
    exact ⟨early ++ [reduction], first.trans second⟩

/-- Rounds make reductions of waiting operators, one for one. -/
theorem waiting_of_rounds {p q : Point α} (run : ReflTransGen (Round arith) p q) :
    q.reductions.length + q.waiting = p.reductions.length + p.waiting := by
  obtain ⟨made, progress⟩ := progress_of_rounds run
  have fewer : q.waiting + made.length = p.waiting := progress.accounts.operators
  rw [progress.reductions, List.length_append, Nat.add_assoc, Nat.add_comm made.length, fewer]

/-- Every loop ends: each round takes an operator away. -/
theorem Round.exists_last (arith : Arithmetic α) (p : Point α) :
    ∃ q, ReflTransGen (Round arith) p q ∧ ∀ r, ¬ Round arith q r := by
  by_cases more : ∃ r, Round arith p r
  · obtain ⟨r, round⟩ := more
    obtain ⟨reduction, progress⟩ := progress_of_round round
    have fewer : r.waiting + 1 = p.waiting := progress.accounts.operators
    obtain ⟨q, run, last⟩ := exists_last arith r
    exact ⟨q, run.head round, last⟩
  · exact ⟨p, .refl, fun r round => more ⟨r, round⟩⟩
termination_by p.waiting
decreasing_by exact Nat.lt_of_succ_le (Nat.le_of_eq fewer)

/-- Where there is one step at most, every run goes on to the last element. -/
theorem run_to_last {β : Type} {R : β → β → Prop} (unique : Relator.RightUnique R) {a b c : β}
    (run : ReflTransGen R a b) (whole : ReflTransGen R a c) (last : ∀ d, ¬ R c d) :
    ReflTransGen R b c := by
  cases ReflTransGen.total_of_right_unique unique run whole with
  | inl onward => exact onward
  | inr back =>
    cases ReflTransGen.cases_head back with
    | inl same => exact same ▸ .refl
    | inr more =>
      obtain ⟨d, step, -⟩ := more
      exact absurd step (last d)

/-! ## Lines -/

theorem Statement.drop_eq_expression {tokens : List Token} {statement : Statement}
    (known : ofTokens? tokens = .ok statement) :
    tokens.drop statement.start = expression tokens := by
  obtain ⟨-, start, _, rfl, plain⟩ := ofTokens?_eq_ok_iff.mp known
  rw [start, List.drop_left, expression_lead _ plain]

namespace Evaluator

variable {tokens : List Token} {p : Point α}

/-- At every point of a line the books balance. -/
theorem Reaches.ledger (reaches : Reaches arith store tokens p) :
    p.taken ++ p.ahead = Statement.expression tokens ∧ Ledger p := by
  obtain ⟨statement, known, run⟩ := reaches
  obtain ⟨read, made, progress⟩ := progress_of_run run
  have taken : p.taken = read := progress.taken
  have reductions : p.reductions = made := progress.reductions
  subst taken reductions
  have whole : tokens.drop statement.start = p.taken ++ p.ahead := progress.ahead
  rw [Statement.drop_eq_expression known] at whole
  refine ⟨whole.symm, ?_, ?_, fun positive => progress.some (.inr positive)⟩
  · exact progress.accounts.operands.trans (Nat.zero_add _)
  · exact progress.accounts.operators.trans (Nat.zero_add _)

/-- The evaluation of a statement goes through points, to one where it ends. -/
theorem exists_last (arith : Arithmetic α) (store : Store α) {statement : Statement}
    (known : Statement.ofTokens? tokens = .ok statement) :
    ∃ last, Reaches arith store tokens last ∧
      last.reductions = ((ofStore store).evaluate arith tokens).2.reductions ∧
      Arrives arith store Point.Gives
        (((ofStore store).evaluate arith tokens).2.outcome.map Evaluation.value) last := by
  obtain ⟨last, run, made, arrives⟩ :=
    Workspace.realizes_reckon arith store statement.start
      (tokens.drop statement.start)
  have whole : ((ofStore store).evaluate arith tokens).2 =
      Workspace.reckon arith store statement.start Workspace.empty (tokens.drop statement.start) >>=
        fun value => pure ⟨value, statement.target⟩ := run_of_statement known
  rw [whole, Traced.bind_pure_eq]
  refine ⟨last, ⟨statement, known, run⟩, made, ?_⟩
  generalize (Workspace.reckon arith store statement.start Workspace.empty
    (tokens.drop statement.start)).outcome = outcome at arrives ⊢
  cases outcome with
  | error failure => exact arrives
  | ok value => exact arrives

theorem length_reductions_le (arith : Arithmetic α) (store : Store α) (tokens : List Token) :
    ((ofStore store).evaluate arith tokens).2.reductions.length ≤
      tokens.countP Token.isOperator := by
  cases known : Statement.ofTokens? tokens with
  | error fault =>
    have faulty : ((ofStore store).evaluate arith tokens).2 = .malformed fault :=
      run_of_fault known
    rw [faulty]
    exact Nat.zero_le _
  | ok statement =>
    obtain ⟨last, reaches, made, -⟩ := exists_last arith store known
    obtain ⟨parts, ledger⟩ := reaches.ledger
    rw [← made]
    calc
      last.reductions.length ≤ last.taken.countP Token.isOperator :=
        Nat.le_of_add_left_le (Nat.le_of_eq ledger.operators)
      _ ≤ (last.taken ++ last.ahead).countP Token.isOperator := by
        rw [List.countP_append]
        exact Nat.le_add_right _ _
      _ = (tokens.drop statement.start).countP Token.isOperator := by
        rw [parts, Statement.drop_eq_expression known]
      _ ≤ tokens.countP Token.isOperator := (List.drop_sublist _ tokens).countP_le

end Evaluator

/-- The books of a line. At every point that its evaluation comes to, in the middle of a
loop and after the last token as well, the operands on the stack and the reductions made are
the operands taken in, the operators that wait and the reductions made are the operators
taken in, and there is an operand as soon as one was taken in. From any point the loop that
runs there ends, and makes one reduction for each operator that it takes away. The
evaluation of a statement comes to a last point, by way of all that it comes to, with its
reductions and its outcome; and no line makes more reductions than it has operators. -/
theorem evaluate_ledger (arith : Arithmetic α) (store : Store α) (tokens : List Token) :
    let traced := ((Evaluator.ofStore store).evaluate arith tokens).2
    (∀ p, Evaluator.Reaches arith store tokens p →
      p.taken ++ p.ahead = Statement.expression tokens ∧ Ledger p) ∧
    (∀ p : Point α, ∃ q, ReflTransGen (Round arith) p q ∧ (∀ r, ¬ Round arith q r) ∧
      (∀ r, ReflTransGen (Round arith) p r → ReflTransGen (Round arith) r q) ∧
      q.reductions.length + q.waiting = p.reductions.length + p.waiting) ∧
    ((∃ fault, traced = .malformed fault ∧ ∀ p, ¬ Evaluator.Reaches arith store tokens p) ∨
      ∃ last, Evaluator.Reaches arith store tokens last ∧ last.reductions = traced.reductions ∧
        Arrives arith store Point.Gives (traced.outcome.map Evaluation.value) last ∧
        (∀ p, ¬ Move arith store last p) ∧
        ∀ p, Evaluator.Reaches arith store tokens p → ReflTransGen (Move arith store) p last) ∧
    traced.reductions.length ≤ tokens.countP Token.isOperator := by
  intro traced
  refine ⟨fun p reaches => reaches.ledger, fun p => ?loops, ?whole,
    Evaluator.length_reductions_le arith store tokens⟩
  case loops =>
    obtain ⟨q, run, last⟩ := Round.exists_last arith p
    exact ⟨q, run, last, fun r part => run_to_last Round.rightUnique part run last,
      waiting_of_rounds run⟩
  case whole =>
    cases known : Statement.ofTokens? tokens with
    | error fault =>
      refine .inl ⟨fault, Evaluator.run_of_fault known, fun p reaches => ?_⟩
      obtain ⟨statement, form, -⟩ := reaches
      rw [known] at form
      cases form
    | ok statement =>
      obtain ⟨last, reaches, made, arrives⟩ :=
        Evaluator.exists_last arith store known
      have final : ∀ p, ¬ Move arith store last p := fun p => not_move_of_arrives arrives
      refine .inr ⟨last, reaches, made, arrives, final, fun p other => ?_⟩
      obtain ⟨first, form, run⟩ := reaches
      obtain ⟨second, form', part⟩ := other
      rw [form] at form'
      cases form'
      exact run_to_last Move.rightUnique part run final

/-- In `x = ( a + b * c )` the closing parenthesis has the product applied first. After this
round the sum waits still, and two of the three operands that were taken in are left. -/
theorem evaluate_ledger_inside_loop :
    let inner : List Token := [.opening, .identifier "a", .operator .add, .identifier "b",
      .operator .mul, .identifier "c"]
    let tokens : List Token := .identifier "x" :: .equals :: (inner ++ [.closing])
    ∃ p, Evaluator.Reaches .binary64 Store.seeded tokens p ∧ p.ahead = [.closing] ∧
      p.workspace.pending = [.operator .add, .opening] ∧
      p.taken ++ p.ahead = Statement.expression tokens ∧ Ledger p ∧
      ((Evaluator.ofStore Store.seeded).evaluate .binary64 tokens).2.reductions.length ≤ 2 := by
  intro inner tokens
  let zero := Binary64.zero false
  have taken : Workspace.readAll .binary64 Store.seeded 2 Workspace.empty inner =
      ⟨[], .ok ⟨[zero, zero, zero], [.operator .mul, .operator .add, .opening]⟩⟩ := rfl
  have passed : Realizes .binary64 Store.seeded (Point.At inner [.closing])
      ⟨[], inner ++ [.closing], [], Workspace.empty⟩
      (Workspace.readAll .binary64 Store.seeded 2 Workspace.empty inner) :=
    Workspace.realizes_readAll 2 inner [.closing] Workspace.empty
  rw [taken] at passed
  obtain ⟨q, run, -, arrives⟩ := passed
  cases arrives with
  | ok arrived =>
    rw [arrived.eq] at run
    have reaches : Evaluator.Reaches .binary64 Store.seeded tokens
        ⟨inner, [.closing], q.reductions ++ [⟨.mul, zero, zero, Operator.apply .mul zero zero⟩],
          ⟨[Operator.apply .mul zero zero, zero], [.operator .add, .opening]⟩⟩ :=
      ⟨⟨some "x", 2⟩, rfl, run.tail (.round (.apply rfl rfl))⟩
    obtain ⟨books, -, -, bound⟩ := evaluate_ledger .binary64 Store.seeded tokens
    obtain ⟨parts, ledger⟩ := books _ reaches
    exact ⟨_, reaches, rfl, rfl, parts, ledger, bound⟩

end Calculator
