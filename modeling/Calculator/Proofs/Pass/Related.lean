import Calculator.Proofs.Pass.Reading
import Mathlib.Data.List.Forall2

/-!
# Two passes over the same tokens

Two passes over the same tokens with different variables. Whether an operand is
taken, an entry is due or a parenthesis matches depends on how many operands
there are and on what waits, never on a value. So any relation between values
that the operators respect is kept by the whole pass: both fail alike, or both
succeed with related values.

Results:
1. `Traced.Related.bind`: related computations, one after the other, are related.
2. `read_related`: a token is taken into related workspaces alike.
3. `reckon_related`: two passes over the same tokens are related if their
   operands are.
-/

namespace Calculator

/-- Two outcomes that are the same failure, or successes with related results. -/
inductive Alike {β γ : Type} (S : β → γ → Prop) : Except Failure β → Except Failure γ → Prop
  | error (failure : Failure) : Alike S (.error failure) (.error failure)
  | ok {b : β} {c : γ} : S b c → Alike S (.ok b) (.ok c)

structure Reduction.Related {α : Type} (R : α → α → Prop) (r s : Reduction α) : Prop where
  op : r.op = s.op
  lhs : R r.lhs s.lhs
  rhs : R r.rhs s.rhs
  value : R r.value s.value

/-- Two computations with related reductions in the same order, and with
outcomes that are alike. -/
structure Traced.Related {α β γ : Type} (R : α → α → Prop) (S : β → γ → Prop)
    (x : Traced α β) (y : Traced α γ) : Prop where
  reductions : List.Forall₂ (Reduction.Related R) x.reductions y.reductions
  outcome : Alike S x.outcome y.outcome

structure Workspace.Related {α : Type} (R : α → α → Prop) (v w : Workspace α) : Prop where
  operands : List.Forall₂ R v.operands w.operands
  pending : v.pending = w.pending

/-- Operators give related values for related operands. -/
def Arithmetic.Respects {α : Type} (arith : Arithmetic α) (R : α → α → Prop) : Prop :=
  ∀ op {lhs rhs lhs' rhs' : α}, R lhs lhs' → R rhs rhs' →
    R (arith.apply op lhs rhs) (arith.apply op lhs' rhs')

/-- The values of an operand under two sets of variables are related. -/
def Token.Related {α : Type} (arith : Arithmetic α) (first second : Store α) (R : α → α → Prop)
    (token : Token) : Prop :=
  ∀ value ∈ token.operand? arith first, ∀ other ∈ token.operand? arith second, R value other

namespace Traced.Related

variable {α β γ β' γ' : Type} {R : α → α → Prop} {S : β → γ → Prop} {T : β' → γ' → Prop}

theorem pure {b : β} {c : γ} (same : S b c) :
    Related R S (Pure.pure b : Traced α β) (Pure.pure c : Traced α γ) :=
  ⟨.nil, .ok same⟩

theorem failed (failure : Failure) :
    Related R S (⟨[], .error failure⟩ : Traced α β) (⟨[], .error failure⟩ : Traced α γ) :=
  ⟨.nil, .error failure⟩

/-- Related computations, one after the other, are related. -/
theorem bind {x : Traced α β} {y : Traced α γ} {next : β → Traced α β'} {next' : γ → Traced α γ'}
    (both : Related R S x y) (later : ∀ b c, S b c → Related R T (next b) (next' c)) :
    Related R T (x >>= next) (y >>= next') := by
  obtain ⟨first, outcome⟩ := x
  obtain ⟨first', outcome'⟩ := y
  obtain ⟨reductions, alike⟩ := both
  cases alike with
  | error failure => exact ⟨reductions, .error failure⟩
  | @ok b c same =>
    obtain ⟨more, alike⟩ := later b c same
    exact ⟨List.rel_append reductions more, alike⟩

end Traced.Related

namespace Workspace

variable {α : Type} {arith : Arithmetic α} {first second : Store α} {R : α → α → Prop}

theorem Related.pushOperand {v w : Workspace α} (related : v.Related R w) {value other : α}
    (same : R value other) : (v.pushOperand value).Related R (w.pushOperand other) :=
  ⟨.cons same related.operands, related.pending⟩

theorem Related.pushPending {v w : Workspace α} (related : v.Related R w) (entry : Pending) :
    (v.pushPending entry).Related R (w.pushPending entry) :=
  ⟨related.operands, congrArg (Stack.push · entry) related.pending⟩

theorem applyTop_related (respects : arith.Respects R) (entry : Pending)
    {operands operands' : Stack α} (related : List.Forall₂ R operands operands') :
    Traced.Related R (List.Forall₂ R) (applyTop arith entry operands)
      (applyTop arith entry operands') := by
  cases related with
  | nil => exact .failed _
  | cons right below =>
    cases entry with
    | opening => exact .failed _
    | operator op =>
      cases below with
      | nil => exact .failed _
      | cons left below =>
        have value := respects op left right
        exact ⟨.cons ⟨rfl, left, right, value⟩ .nil, .ok (.cons value below)⟩

theorem unwind_related (respects : arith.Respects R) (isDue : Pending → Bool)
    (pending : Stack Pending) {operands operands' : Stack α}
    (related : List.Forall₂ R operands operands') :
    Traced.Related R (Related R) (unwind arith isDue operands pending)
      (unwind arith isDue operands' pending) := by
  induction pending generalizing operands operands' with
  | nil => exact .pure (.mk related rfl)
  | cons entry pending ih =>
    unfold unwind
    split
    · exact (applyTop_related respects entry related).bind fun _ _ left => ih left
    · exact .pure (.mk related rfl)

theorem close_related {v w : Workspace α} (related : v.Related R w) :
    Traced.Related R (Related R) v.close w.close := by
  unfold close
  rw [← related.pending]
  split
  · exact .pure (.mk related.operands rfl)
  · exact .failed _

theorem read_related (respects : arith.Respects R) (position : Nat) {token : Token}
    (known : token.Related arith first second R) {v w : Workspace α} (related : v.Related R w) :
    Traced.Related R (Related R) (read arith first position v token)
      (read arith second position w token) := by
  cases token with
  | number text =>
    rw [read, read]
    cases value : arith.read? text with
    | none => exact .failed _
    | some value' =>
      exact .pure (related.pushOperand (known value' value value' value))
  | identifier name => exact .pure (related.pushOperand (known _ rfl _ rfl))
  | operator op =>
    rw [read, read, ← related.pending]
    exact (unwind_related respects op.unwinds v.pending related.operands).bind
      fun _ _ left => .pure (left.pushPending (.operator op))
  | opening => exact .pure (related.pushPending .opening)
  | closing =>
    rw [read, read, ← related.pending]
    exact (unwind_related respects Pending.isOperator v.pending related.operands).bind
      fun _ _ => close_related
  | equals => exact .failed _
  | ignored => exact .pure related

theorem readAll_related (respects : arith.Respects R) {tokens : List Token}
    (known : ∀ token ∈ tokens, token.Related arith first second R) (position : Nat)
    {v w : Workspace α} (related : v.Related R w) :
    Traced.Related R (Related R) (readAll arith first position v tokens)
      (readAll arith second position w tokens) := by
  induction tokens generalizing position v w with
  | nil => exact .pure related
  | cons token tokens ih =>
    obtain ⟨head, tail⟩ := List.forall_mem_cons.mp known
    exact (read_related respects position head related).bind fun _ _ left => ih tail _ left

theorem result_related {v w : Workspace α} (related : v.Related R w) :
    Traced.Related R R v.result w.result := by
  obtain ⟨operands, pending⟩ := v
  obtain ⟨operands', pending'⟩ := w
  cases related.operands with
  | nil => exact .failed _
  | cons top below =>
    cases below with
    | nil => exact .pure top
    | cons next below =>
      unfold result
      simp only [List.length_cons, below.length_eq]
      exact .failed _

/-- Two passes over the same tokens fail alike or have related values, if their
operands are related. -/
theorem reckon_related (respects : arith.Respects R) {tokens : List Token}
    (known : ∀ token ∈ tokens, token.Related arith first second R) (position : Nat) :
    Traced.Related R R (reckon arith first position empty tokens)
      (reckon arith second position empty tokens) := by
  refine (readAll_related respects known position (.mk .nil rfl)).bind ?_
  intro v w left
  rw [finish, finish, ← left.pending]
  exact (unwind_related respects _ v.pending left.operands).bind fun _ _ => result_related

end Workspace

end Calculator
