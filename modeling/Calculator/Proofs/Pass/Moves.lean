import Calculator.Proofs.Pass.Reading
import Mathlib.Logic.Relation

/-!
# The pass, one move at a time

`Workspace.readAll` takes a token in as a whole. Here the same pass goes from point to
point: an operator that is due is applied, or, when nothing is due any more, the next
token is taken in. What is due depends on the next token alone; where there is none,
everything is. So the three loops that unwind operators, for an incoming operator, for a
closing parenthesis and at the end of the line, are rounds of one relation.

The moves are those of the pass: a run of them makes the reductions of
`Workspace.reckon` in the same order, and ends with its value or at the point where it
fails.

Results:
1. `Move.rightUnique`: at every point there is at most one move.
2. `realizes_unwind`, `realizes_read`, `realizes_readAll`: loops, tokens and whole lists
   of tokens as runs of moves.
3. `realizes_reckon`: the pass over an expression as a run of moves.
-/

namespace Calculator

open Relation

variable {α : Type} {arith : Arithmetic α} {store : Store α}

/-- A point of the pass over an expression: the tokens that have been taken in, those that
are to come, the reductions made so far, and the stacks. -/
structure Point (α : Type) where
  taken : List Token
  ahead : List Token
  reductions : List (Reduction α)
  workspace : Workspace α

/-- Whether an entry on top is applied before the first of these tokens is taken in, or at
the end of the line if there is none. -/
def dueBefore : List Token → Pending → Bool
  | [] => fun _ => true
  | .operator op :: _ => op.unwinds
  | .closing :: _ => Pending.isOperator
  | .number _ :: _ | .identifier _ :: _ | .opening :: _ | .equals :: _ | .ignored :: _ =>
    fun _ => false

/-- One round of a loop: the topmost entry is due and is applied. -/
inductive Round (arith : Arithmetic α) : Point α → Point α → Prop
  | apply {taken ahead : List Token} {done : List (Reduction α)} {entry : Pending}
      {operands left : Stack α} {pending : Stack Pending} {reduction : Reduction α} :
      dueBefore ahead entry = true →
      Workspace.applyTop arith entry operands = .reduced reduction left →
      Round arith ⟨taken, ahead, done, ⟨operands, entry :: pending⟩⟩
        ⟨taken, ahead, done ++ [reduction], ⟨left, pending⟩⟩

/-- One move of the pass. -/
inductive Move (arith : Arithmetic α) (store : Store α) : Point α → Point α → Prop
  /-- A round of a loop. -/
  | round {p q : Point α} : Round arith p q → Move arith store p q
  /-- Nothing is due, and the next token is taken in. -/
  | take {token : Token} {taken ahead : List Token} {done : List (Reduction α)}
      {w w' : Workspace α} :
      Workspace.Rests (dueBefore (token :: ahead)) w.pending →
      Workspace.Step arith store w token [] w' →
      Move arith store ⟨taken, token :: ahead, done, w⟩ ⟨taken ++ [token], ahead, done, w'⟩

/-- `Fails arith store p failure`: the pass fails at this point. -/
inductive Fails (arith : Arithmetic α) (store : Store α) : Point α → Failure → Prop
  /-- The topmost entry is due and cannot be applied. -/
  | apply {taken ahead : List Token} {done : List (Reduction α)} {entry : Pending}
      {operands : Stack α} {pending : Stack Pending} {failure : Failure} :
      dueBefore ahead entry = true →
      Workspace.applyTop arith entry operands = ⟨[], .error failure⟩ →
      Fails arith store ⟨taken, ahead, done, ⟨operands, entry :: pending⟩⟩ failure
  /-- Nothing is due, and the next token cannot be taken in. -/
  | take {token : Token} {taken ahead : List Token} {done : List (Reduction α)}
      {w : Workspace α} {position : Nat} {failure : Failure} :
      Workspace.Rests (dueBefore (token :: ahead)) w.pending →
      Workspace.read arith store position w token = ⟨[], .error failure⟩ →
      Fails arith store ⟨taken, token :: ahead, done, w⟩ failure
  /-- Nothing waits at the end of the line, and there is not a single operand. -/
  | result {taken : List Token} {done : List (Reduction α)} {operands : Stack α}
      {failure : Failure} :
      Workspace.result ⟨operands, []⟩ = ⟨[], .error failure⟩ →
      Fails arith store ⟨taken, [], done, ⟨operands, []⟩⟩ failure

/-- `p.Gives value`: the line ends at this point, and this is the only operand that is
left. -/
structure Point.Gives (value : α) (p : Point α) : Prop where
  ahead : p.ahead = []
  workspace : p.workspace = ⟨[value], []⟩

/-- `Arrives arith store goal outcome p`: the outcome is a result that the goal holds of at
this point, or the failure that comes up there. -/
inductive Arrives {β : Type} (arith : Arithmetic α) (store : Store α)
    (goal : β → Point α → Prop) : Except Failure β → Point α → Prop
  | ok {b : β} {p : Point α} : goal b p → Arrives arith store goal (.ok b) p
  | error {p : Point α} {failure : Failure} :
      Fails arith store p failure → Arrives arith store goal (.error failure) p

/-! ## One move at most -/

theorem Round.unique {p q r : Point α} (first : Round arith p q) (second : Round arith p r) :
    q = r := by
  cases first with
  | apply _ applied =>
    cases second with
    | apply _ applied' =>
      rw [applied] at applied'
      cases applied'
      rfl

theorem Workspace.Step.unique {w v v' : Workspace α} {token : Token}
    {early late : List (Reduction α)} (first : Step arith store w token early v)
    (second : Step arith store w token late v') : v = v' := by
  have taken := read_of_step first 0
  rw [read_of_step second 0] at taken
  cases taken
  rfl

theorem not_round_of_rests {p q : Point α}
    (rests : Workspace.Rests (dueBefore p.ahead) p.workspace.pending) : ¬ Round arith p q := by
  intro round
  cases round with
  | apply due _ =>
    have waits := rests _ rfl
    rw [due] at waits
    cases waits

theorem Move.rightUnique : Relator.RightUnique (Move arith store) := by
  intro p q r first second
  cases first with
  | round first =>
    cases second with
    | round second => exact first.unique second
    | take rests _ => exact absurd first (not_round_of_rests rests)
  | take rests step =>
    cases second with
    | round second => exact absurd second (not_round_of_rests rests)
    | take _ step' => rw [step.unique step']

theorem Round.rightUnique : Relator.RightUnique (Round arith) :=
  fun _ _ _ first second => first.unique second

theorem not_move_of_fails {p q : Point α} {failure : Failure}
    (fails : Fails arith store p failure) : ¬ Move arith store p q := by
  intro move
  cases fails with
  | apply due failed =>
    cases move with
    | round round =>
      cases round with
      | apply _ applied =>
        rw [failed] at applied
        cases applied
    | take rests _ =>
      have waits := rests _ rfl
      rw [due] at waits
      cases waits
  | @take _ _ _ _ _ position _ rests failed =>
    cases move with
    | round round => exact not_round_of_rests rests round
    | take _ step =>
      rw [Workspace.read_of_step step position] at failed
      cases failed
  | result _ =>
    cases move with
    | round round => cases round

theorem not_move_of_gives {p q : Point α} {value : α} (gives : p.Gives value) :
    ¬ Move arith store p q := by
  intro move
  obtain ⟨taken, ahead, done, w⟩ := p
  obtain ⟨rfl, rfl⟩ := gives
  cases move with
  | round round => cases round

theorem not_move_of_arrives {p q : Point α} {outcome : Except Failure α}
    (arrives : Arrives arith store Point.Gives outcome p) : ¬ Move arith store p q := by
  cases arrives with
  | ok gives => exact not_move_of_gives gives
  | error fails => exact not_move_of_fails fails

/-! ## Computations as runs of moves -/

/-- `Point.At taken ahead w p`: the point with these tokens behind and before it and these
stacks, whatever the reductions. -/
structure Point.At (taken ahead : List Token) (w : Workspace α) (p : Point α) : Prop where
  taken : p.taken = taken
  ahead : p.ahead = ahead
  workspace : p.workspace = w

theorem Point.At.eq {taken ahead : List Token} {w : Workspace α} {p : Point α}
    (arrived : Point.At taken ahead w p) : p = ⟨taken, ahead, p.reductions, w⟩ := by
  obtain ⟨_, _, done, _⟩ := p
  obtain ⟨rfl, rfl, rfl⟩ := arrived
  rfl

/-- `Realizes arith store goal p x`: moves from this point make the reductions of the
computation and arrive at its outcome. -/
def Realizes {β : Type} (arith : Arithmetic α) (store : Store α) (goal : β → Point α → Prop)
    (p : Point α) (x : Traced α β) : Prop :=
  ∃ q, ReflTransGen (Move arith store) p q ∧ q.reductions = p.reductions ++ x.reductions ∧
    Arrives arith store goal x.outcome q

namespace Realizes

variable {β γ : Type} {goal : β → Point α → Prop} {goal' : γ → Point α → Prop} {p : Point α}

theorem pure {b : β} (arrived : goal b p) : Realizes arith store goal p (Pure.pure b) :=
  ⟨p, .refl, (List.append_nil _).symm, .ok arrived⟩

theorem error {failure : Failure} (fails : Fails arith store p failure) :
    Realizes arith store goal p ⟨[], .error failure⟩ :=
  ⟨p, .refl, (List.append_nil _).symm, .error fails⟩

/-- Computations, one after the other, are runs one after the other. -/
theorem bind {x : Traced α β} {next : β → Traced α γ} (first : Realizes arith store goal p x)
    (rest : ∀ b q, goal b q → Realizes arith store goal' q (next b)) :
    Realizes arith store goal' p (x >>= next) := by
  rcases x with ⟨reductions, failure | b⟩
  · obtain ⟨q, run, made, arrives⟩ := first
    cases arrives with
    | error fails => exact ⟨q, run, made, .error fails⟩
  · obtain ⟨q, run, made, arrives⟩ := first
    cases arrives with
    | ok arrived =>
      obtain ⟨r, later, more, arrives⟩ := rest b q arrived
      refine ⟨r, run.trans later, ?_, arrives⟩
      rw [more, made, List.append_assoc]
      rfl

end Realizes

namespace Workspace

variable {taken ahead : List Token} {done : List (Reduction α)}

/-- Applying a due entry is a round of the loop, or the point where the loop fails. -/
theorem realizes_applyTop {entry : Pending} (due : dueBefore ahead entry = true)
    (operands : Stack α) (pending : Stack Pending) :
    Realizes arith store (fun left => Point.At taken ahead ⟨left, pending⟩)
      ⟨taken, ahead, done, ⟨operands, entry :: pending⟩⟩ (applyTop arith entry operands) := by
  rcases operands with _ | ⟨rhs, operands⟩
  · exact .error (.apply due rfl)
  cases entry with
  | opening => exact .error (.apply due rfl)
  | operator op =>
    rcases operands with _ | ⟨lhs, below⟩
    · exact .error (.apply due rfl)
    · exact ⟨_, .single (.round (.apply due rfl)), rfl, .ok ⟨rfl, rfl, rfl⟩⟩

/-- A loop is a run of rounds, as long as the topmost entry is due. -/
theorem realizes_unwind (operands : Stack α) (pending : Stack Pending) :
    Realizes arith store
      (fun w p => Point.At taken ahead w p ∧ Rests (dueBefore ahead) w.pending)
      ⟨taken, ahead, done, ⟨operands, pending⟩⟩
      (unwind arith (dueBefore ahead) operands pending) := by
  induction pending generalizing operands done with
  | nil => exact .pure ⟨⟨rfl, rfl, rfl⟩, fun _ top => nomatch top⟩
  | cons entry pending ih =>
    unfold unwind
    split
    · next due =>
      refine (realizes_applyTop due operands pending).bind fun left q arrived => ?_
      rw [arrived.eq]
      exact ih left
    · next stays =>
      refine .pure ⟨⟨rfl, rfl, rfl⟩, fun top same => ?_⟩
      cases same
      exact Bool.not_eq_true _ ▸ stays

/-- Where nothing is due, taking a token in is a move, or fails at this point. -/
theorem realizes_take {token : Token} {w : Workspace α}
    (rests : Rests (dueBefore (token :: ahead)) w.pending) {position : Nat}
    (none : (read arith store position w token).reductions = []) :
    Realizes arith store (Point.At (taken ++ [token]) ahead) ⟨taken, token :: ahead, done, w⟩
      (read arith store position w token) := by
  rcases known : read arith store position w token with ⟨reductions, failure | w'⟩
  · rw [known] at none
    subst none
    exact .error (.take rests known)
  · rw [known] at none
    subst none
    exact ⟨_, .single (.take rests (step_of_read known)), (List.append_nil done).symm,
      .ok ⟨rfl, rfl, rfl⟩⟩

theorem read_operator_of_rests {op : Operator} {w : Workspace α}
    (rests : Rests op.unwinds w.pending) (position : Nat) :
    read arith store position w (.operator op) = pure (w.pushPending (.operator op)) := by
  rw [read, unwind_of_rests rests]
  rfl

theorem read_closing_of_rests {w : Workspace α} (rests : Rests Pending.isOperator w.pending)
    (position : Nat) : read arith store position w .closing = w.close := by
  rw [read, unwind_of_rests rests]
  rfl

theorem reductions_close (w : Workspace α) : w.close.reductions = [] := by
  unfold close
  split <;> rfl

/-- A token is a run of rounds, as long as an entry is due, and then a move of its own. -/
theorem realizes_read (position : Nat) (token : Token) (w : Workspace α) :
    Realizes arith store (Point.At (taken ++ [token]) ahead) ⟨taken, token :: ahead, done, w⟩
      (read arith store position w token) := by
  cases token with
  | operator op =>
    refine (realizes_unwind w.operands w.pending).bind fun w₁ q arrived => ?_
    obtain ⟨arrived, rests⟩ := arrived
    have same : read arith store position w₁ (.operator op) = _ :=
      read_operator_of_rests rests position
    rw [arrived.eq, ← same]
    exact realizes_take rests (by rw [same]; rfl)
  | closing =>
    refine (realizes_unwind w.operands w.pending).bind fun w₁ q arrived => ?_
    obtain ⟨arrived, rests⟩ := arrived
    have same : read arith store position w₁ .closing = _ := read_closing_of_rests rests position
    rw [arrived.eq, ← same]
    exact realizes_take rests (by rw [same]; exact reductions_close w₁)
  | number text =>
    refine realizes_take (fun _ _ => rfl) ?_
    rw [read]
    split <;> rfl
  | identifier _ | opening | equals | ignored =>
    refine realizes_take (fun _ _ => rfl) ?_
    rfl

/-- Tokens are runs of moves, one after the other, whatever follows them. -/
theorem realizes_readAll (position : Nat) (tokens more : List Token) (w : Workspace α) :
    Realizes arith store (Point.At (taken ++ tokens) more) ⟨taken, tokens ++ more, done, w⟩
      (readAll arith store position w tokens) := by
  induction tokens generalizing position taken done w with
  | nil => exact .pure ⟨(List.append_nil taken).symm, rfl, rfl⟩
  | cons token tokens ih =>
    refine (realizes_read position token w).bind fun w₁ q arrived => ?_
    rw [arrived.eq, List.append_cons taken token tokens]
    exact ih (position + 1) w₁

/-- At the end of the line everything is due, and one operand has to be left. -/
theorem realizes_finish (w : Workspace α) :
    Realizes arith store Point.Gives ⟨taken, [], done, w⟩ (w.finish arith) := by
  refine (realizes_unwind w.operands w.pending).bind fun w₁ q arrived => ?_
  obtain ⟨arrived, rests⟩ := arrived
  rw [arrived.eq]
  obtain ⟨operands, pending⟩ := w₁
  cases pending with
  | cons entry pending =>
    have stays : true = false := rests entry rfl
    cases stays
  | nil =>
    rcases operands with _ | ⟨value, _ | ⟨next, below⟩⟩
    · exact .error (.result rfl)
    · exact .pure ⟨rfl, rfl⟩
    · exact .error (.result rfl)

/-- The pass over an expression is a run of moves, to the point where it ends. -/
theorem realizes_reckon (arith : Arithmetic α) (store : Store α) (position : Nat)
    (tokens : List Token) :
    Realizes arith store Point.Gives ⟨[], tokens, [], empty⟩
      (reckon arith store position empty tokens) := by
  have passed : Realizes arith store (Point.At ([] ++ tokens) []) ⟨[], tokens ++ [], [], empty⟩
      (readAll arith store position empty tokens) := realizes_readAll position tokens [] empty
  rw [List.append_nil] at passed
  refine passed.bind fun w q arrived => ?_
  rw [arrived.eq]
  exact realizes_finish w

end Workspace

end Calculator
