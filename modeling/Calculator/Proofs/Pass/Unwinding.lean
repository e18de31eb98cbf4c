import Calculator.Evaluator.Workspace
import Mathlib.Data.List.TakeWhile

/-!
# Unwinding as applying a list of entries

`Workspace.unwind` tests the waiting entries and applies them one at a time.
This module separates the two: which entries are due is a prefix of the stack,
and applying a list of entries is a function of its own, `applyAll`.

Results:
1. `unwind_eq_applyAll`: unwinding applies the longest run of due entries and
   leaves the rest of the stack as it is.
2. `applyAll_succeeds_iff`: entries can be applied iff all of them are operators
   and there are more operands than entries.
3. `applyAll_above`: operands that lie deeper do not matter to entries that can
   be applied.
-/

namespace Calculator

namespace Traced

variable {α β γ : Type}

theorem bind_eq_ok {x : Traced α β} {next : β → Traced α γ} {reductions : List (Reduction α)}
    {c : γ} :
    x >>= next = ⟨reductions, .ok c⟩ ↔
      ∃ first b later, x = ⟨first, .ok b⟩ ∧ next b = ⟨later, .ok c⟩ ∧
        reductions = first ++ later := by
  rcases x with ⟨first, failure | b⟩
  · rw [mk_error_bind]
    constructor
    · intro equal
      cases equal
    · rintro ⟨_, _, _, equal, _, _⟩
      cases equal
  · rw [mk_ok_bind]
    constructor
    · intro equal
      obtain ⟨rfl, succeeded⟩ := Traced.mk.inj equal
      exact ⟨first, b, (next b).reductions, rfl, by rw [← succeeded], rfl⟩
    · rintro ⟨_, _, later, equal, succeeded, rfl⟩
      cases equal
      rw [succeeded]

theorem pure_eq_ok {b c : β} {reductions : List (Reduction α)} :
    (pure b : Traced α β) = ⟨reductions, .ok c⟩ ↔ b = c ∧ reductions = [] := by
  rw [pure_eq, Traced.mk.injEq, Except.ok.injEq]
  exact ⟨fun ⟨same, equal⟩ => ⟨equal, same.symm⟩, fun ⟨equal, same⟩ => ⟨same.symm, equal⟩⟩

theorem bind_pure_eq (x : Traced α β) (f : β → γ) :
    (x >>= fun b => pure (f b)) = ⟨x.reductions, x.outcome.map f⟩ := by
  rcases x with ⟨reductions, failure | b⟩
  · rfl
  · rw [mk_ok_bind, pure_eq, List.append_nil]
    rfl

end Traced

namespace Operator

theorem level_le_two (op : Operator) : op.level ≤ 2 := by
  cases op <;> decide

theorem unwinds_eq_false_iff {op waiting : Operator} :
    op.unwinds (.operator waiting) = false ↔ op = .pow ∨ waiting.level < op.level := by
  simp only [unwinds_operator, Bool.and_eq_false_iff, decide_eq_false_iff_not, ne_eq,
    Decidable.not_not, Nat.not_le]

end Operator

namespace Workspace

variable {α : Type} {arith : Arithmetic α}

/-- The topmost entry is not due. -/
def Rests (isDue : Pending → Bool) (pending : Stack Pending) : Prop :=
  ∀ entry ∈ pending.head?, isDue entry = false

theorem rests_dropWhile (isDue : Pending → Bool) (pending : Stack Pending) :
    Rests isDue (pending.dropWhile isDue) := by
  intro entry top
  have stays := List.head?_dropWhile_not isDue pending
  rw [Option.mem_def.mp top] at stays
  exact stays

theorem unwind_of_rests {isDue : Pending → Bool} {pending : Stack Pending}
    (rests : Rests isDue pending) (operands : Stack α) :
    unwind arith isDue operands pending = ⟨[], .ok ⟨operands, pending⟩⟩ := by
  cases pending with
  | nil => rfl
  | cons entry pending =>
    unfold unwind
    rw [rests entry rfl]
    rfl

def applyAll (arith : Arithmetic α) : List Pending → Stack α → Traced α (Stack α)
  | [], operands => pure operands
  | entry :: entries, operands => do
    let operands ← applyTop arith entry operands
    applyAll arith entries operands

/-- Unwinding applies the longest run of due entries and leaves the rest. -/
theorem unwind_eq_applyAll (arith : Arithmetic α) (isDue : Pending → Bool) (operands : Stack α)
    (pending : Stack Pending) :
    unwind arith isDue operands pending =
      applyAll arith (pending.takeWhile isDue) operands >>= fun left =>
        pure ⟨left, pending.dropWhile isDue⟩ := by
  induction pending generalizing operands with
  | nil => rfl
  | cons entry pending ih =>
    cases due : isDue entry with
    | false => simp [unwind, applyAll, due]
    | true =>
      simp only [unwind, due, if_true, List.takeWhile_cons, List.dropWhile_cons, applyAll,
        bind_assoc]
      exact congrArg _ (funext ih)

theorem unwind_eq_ok {isDue : Pending → Bool} {operands : Stack α} {pending : Stack Pending}
    {reductions : List (Reduction α)} {w : Workspace α} :
    unwind arith isDue operands pending = ⟨reductions, .ok w⟩ ↔
      applyAll arith (pending.takeWhile isDue) operands = ⟨reductions, .ok w.operands⟩ ∧
        w.pending = pending.dropWhile isDue := by
  rw [unwind_eq_applyAll, Traced.bind_eq_ok]
  constructor
  · rintro ⟨first, left, later, applied, rest, rfl⟩
    obtain ⟨rfl, rfl⟩ := Traced.pure_eq_ok.mp rest
    rw [List.append_nil]
    exact ⟨applied, rfl⟩
  · rintro ⟨applied, same⟩
    exact ⟨reductions, w.operands, [], applied, by rw [← same]; rfl, by simp⟩

/-- Applying an entry succeeds only for an operator with two operands. -/
theorem applyTop_eq_ok {entry : Pending} {operands left : Stack α}
    {reductions : List (Reduction α)} :
    applyTop arith entry operands = ⟨reductions, .ok left⟩ ↔
      ∃ op lhs rhs below, entry = .operator op ∧ operands = rhs :: lhs :: below ∧
        left = arith.apply op lhs rhs :: below ∧
        reductions = [⟨op, lhs, rhs, arith.apply op lhs rhs⟩] := by
  constructor
  · intro applied
    rcases operands with _ | ⟨rhs, operands⟩
    · cases applied
    cases entry with
    | opening => cases applied
    | operator op =>
      rcases operands with _ | ⟨lhs, below⟩
      · cases applied
      · cases applied
        exact ⟨op, lhs, rhs, below, rfl, rfl, rfl, rfl⟩
  · rintro ⟨op, lhs, rhs, below, rfl, rfl, rfl, rfl⟩
    rfl

theorem applyAll_cons_eq_ok {entry : Pending} {entries : List Pending} {operands left : Stack α}
    {reductions : List (Reduction α)} :
    applyAll arith (entry :: entries) operands = ⟨reductions, .ok left⟩ ↔
      ∃ op lhs rhs below later, entry = .operator op ∧ operands = rhs :: lhs :: below ∧
        applyAll arith entries (arith.apply op lhs rhs :: below) = ⟨later, .ok left⟩ ∧
        reductions = ⟨op, lhs, rhs, arith.apply op lhs rhs⟩ :: later := by
  rw [applyAll, Traced.bind_eq_ok]
  constructor
  · rintro ⟨_, _, later, applied, rest, rfl⟩
    obtain ⟨op, lhs, rhs, below, rfl, rfl, rfl, rfl⟩ := applyTop_eq_ok.mp applied
    exact ⟨op, lhs, rhs, below, later, rfl, rfl, rest, rfl⟩
  · rintro ⟨op, lhs, rhs, below, later, rfl, rfl, rest, rfl⟩
    exact ⟨_, _, later, rfl, rest, rfl⟩

/-- Each application turns two operands into one. -/
theorem length_of_applyAll {entries : List Pending} {operands left : Stack α}
    {reductions : List (Reduction α)}
    (applied : applyAll arith entries operands = ⟨reductions, .ok left⟩) :
    left.length + entries.length = operands.length ∧ reductions.length = entries.length := by
  induction entries generalizing operands reductions with
  | nil =>
    obtain ⟨rfl, rfl⟩ := Traced.pure_eq_ok.mp applied
    exact ⟨rfl, rfl⟩
  | cons entry entries ih =>
    obtain ⟨op, lhs, rhs, below, later, rfl, rfl, rest, rfl⟩ := applyAll_cons_eq_ok.mp applied
    obtain ⟨shorter, counted⟩ := ih rest
    simp only [List.length_cons] at shorter ⊢
    omega

/-- Entries can be applied iff all of them are operators and there are more
operands than entries. -/
theorem applyAll_succeeds_iff {entries : List Pending} {operands : Stack α} :
    (∃ reductions left, applyAll arith entries operands = ⟨reductions, .ok left⟩) ↔
      (∀ entry ∈ entries, entry.isOperator = true) ∧
        (entries = [] ∨ entries.length < operands.length) := by
  induction entries generalizing operands with
  | nil =>
    refine ⟨fun _ => ⟨by simp, .inl rfl⟩, fun _ => ⟨[], operands, rfl⟩⟩
  | cons entry entries ih =>
    constructor
    · rintro ⟨reductions, left, applied⟩
      obtain ⟨op, lhs, rhs, below, later, rfl, rfl, rest, rfl⟩ := applyAll_cons_eq_ok.mp applied
      obtain ⟨operators, enough⟩ := ih.mp ⟨later, left, rest⟩
      refine ⟨List.forall_mem_cons.mpr ⟨rfl, operators⟩, .inr ?_⟩
      rcases enough with rfl | enough
      · simp
      · simpa using enough
    · rintro ⟨all, empty | enough⟩
      · cases empty
      obtain ⟨isOperator, operators⟩ := List.forall_mem_cons.mp all
      rcases operands with _ | ⟨rhs, _ | ⟨lhs, below⟩⟩
      · simp at enough
      · simp at enough
      cases entry with
      | opening => cases isOperator
      | operator op =>
        have fewer : entries.length < (arith.apply op lhs rhs :: below).length := by
          simpa using enough
        obtain ⟨later, left, rest⟩ := ih.mpr ⟨operators, .inr fewer⟩
        exact ⟨_, left, applyAll_cons_eq_ok.mpr
          ⟨op, lhs, rhs, below, later, rfl, rfl, rest, rfl⟩⟩

/-- What is due is an operator, unless opening parentheses are due. -/
theorem operators_of_takeWhile {isDue : Pending → Bool} (barrier : isDue .opening = false)
    (pending : Stack Pending) :
    ∀ entry ∈ pending.takeWhile isDue, entry.isOperator = true := by
  intro entry member
  have due : isDue entry = true := List.mem_takeWhile_imp member
  cases entry with
  | opening => rw [barrier] at due; cases due
  | operator op => rfl

theorem count_opening_eq_zero {entries : List Pending} :
    entries.count .opening = 0 ↔ ∀ entry ∈ entries, entry.isOperator = true := by
  rw [List.count_eq_zero]
  constructor
  · intro none entry member
    cases entry with
    | opening => exact absurd member none
    | operator op => rfl
  · intro all member
    cases all _ member

/-- Opening parentheses that are not due stay. -/
theorem count_opening_dropWhile {isDue : Pending → Bool} (barrier : isDue .opening = false)
    (pending : Stack Pending) :
    (pending.dropWhile isDue).count .opening = pending.count .opening := by
  have none : (pending.takeWhile isDue).count .opening = 0 :=
    count_opening_eq_zero.mpr (operators_of_takeWhile barrier pending)
  have parts : (pending.takeWhile isDue ++ pending.dropWhile isDue).count .opening =
      pending.count .opening := by rw [List.takeWhile_append_dropWhile]
  rw [List.count_append, none, Nat.zero_add] at parts
  exact parts

theorem countP_isOperator_dropWhile {isDue : Pending → Bool} (barrier : isDue .opening = false)
    (pending : Stack Pending) :
    (pending.dropWhile isDue).countP Pending.isOperator + (pending.takeWhile isDue).length =
      pending.countP Pending.isOperator := by
  have all : (pending.takeWhile isDue).countP Pending.isOperator =
      (pending.takeWhile isDue).length :=
    List.countP_eq_length.mpr (operators_of_takeWhile barrier pending)
  have parts : (pending.takeWhile isDue ++ pending.dropWhile isDue).countP Pending.isOperator =
      pending.countP Pending.isOperator := by rw [List.takeWhile_append_dropWhile]
  rw [List.countP_append, all, Nat.add_comm] at parts
  exact parts

/-- Entries that can be applied are those before an opening parenthesis, and no
such parenthesis is among them. -/
theorem applyAll_eq_ok_iff_operators {entries : List Pending} {operands left : Stack α}
    {reductions : List (Reduction α)} :
    applyAll arith entries operands = ⟨reductions, .ok left⟩ ↔
      applyAll arith (entries.takeWhile Pending.isOperator) operands = ⟨reductions, .ok left⟩ ∧
        entries.dropWhile Pending.isOperator = [] := by
  constructor
  · intro applied
    obtain ⟨operators, -⟩ := applyAll_succeeds_iff.mp ⟨reductions, left, applied⟩
    rw [List.takeWhile_eq_self_iff.mpr operators]
    exact ⟨applied, List.dropWhile_eq_nil_iff.mpr operators⟩
  · rintro ⟨applied, none⟩
    have whole : entries.takeWhile Pending.isOperator = entries :=
      List.takeWhile_eq_self_iff.mpr (List.dropWhile_eq_nil_iff.mp none)
    rw [whole] at applied
    exact applied

/-- Operands that lie deeper do not matter to entries that can be applied. -/
theorem applyAll_above {entries : List Pending} {operands left : Stack α}
    {reductions : List (Reduction α)}
    (applied : applyAll arith entries operands = ⟨reductions, .ok left⟩) (below : Stack α) :
    applyAll arith entries (operands ++ below) = ⟨reductions, .ok (left ++ below)⟩ := by
  induction entries generalizing operands reductions with
  | nil =>
    obtain ⟨rfl, rfl⟩ := Traced.pure_eq_ok.mp applied
    rfl
  | cons entry entries ih =>
    obtain ⟨op, lhs, rhs, _, later, rfl, rfl, rest, rfl⟩ := applyAll_cons_eq_ok.mp applied
    exact applyAll_cons_eq_ok.mpr ⟨op, lhs, rhs, _, later, rfl, rfl, ih rest, rfl⟩

end Workspace

end Calculator
