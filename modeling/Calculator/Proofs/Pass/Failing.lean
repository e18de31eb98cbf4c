import Calculator.Proofs.Pass.Reading

/-!
# How a pass fails

A failure comes up at a token, or after all tokens were taken in. Each way to
fail says something about the workspace that it comes up in: `Refuses` has one
constructor for each failure at a token, `Unfinished` one for each failure at the
end. Three functions share the reductions, but an opening parenthesis is applied
only at the end, and nothing is unwound to a closing one when a group is open.

Results:
1. `refuses_of_read`, `unfinished_of_finish`: the failures at a token and at the
   end.
2. `readAll_eq_error_iff`: a failure in the middle of a line comes up at one
   token, and all tokens before it are taken in.
3. `fails_of_reckon`: the two places where a line can fail.
-/

namespace Calculator

variable {α : Type} {arith : Arithmetic α} {store : Store α}

theorem Traced.outcome_bind_eq_error {β γ : Type} {x : Traced α β} {next : β → Traced α γ}
    {failure : Failure} :
    (x >>= next).outcome = .error failure ↔
      x.outcome = .error failure ∨
        ∃ reductions b, x = ⟨reductions, .ok b⟩ ∧ (next b).outcome = .error failure := by
  rcases x with ⟨reductions, first | b⟩
  · rw [mk_error_bind]
    constructor
    · intro failed
      cases failed
      exact .inl rfl
    · rintro (same | ⟨_, _, equal, _⟩)
      · cases same
        rfl
      · cases equal
  · rw [mk_ok_bind]
    constructor
    · exact fun failed => .inr ⟨reductions, b, rfl, failed⟩
    · rintro (same | ⟨_, _, equal, failed⟩)
      · cases same
      · cases equal
        exact failed

namespace Workspace

/-! ## Entries that cannot be applied -/

/-- Applying entries fails for want of an operand, or at an opening parenthesis
when there is an operand. -/
theorem outcome_applyAll_eq_error {entries : List Pending} {operands : Stack α}
    {failure : Failure} (failed : (applyAll arith entries operands).outcome = .error failure) :
    failure = .irreducible .missingOperand ∨
      failure = .malformed .unmatchedOpening ∧ .opening ∈ entries ∧ operands ≠ [] := by
  induction entries generalizing operands with
  | nil => cases failed
  | cons entry entries ih =>
    rcases operands with _ | ⟨rhs, operands⟩
    · cases failed
      exact .inl rfl
    cases entry with
    | opening =>
      cases failed
      exact .inr ⟨rfl, List.mem_cons_self, List.cons_ne_nil rhs operands⟩
    | operator op =>
      rcases operands with _ | ⟨lhs, below⟩
      · cases failed
        exact .inl rfl
      rcases Traced.outcome_bind_eq_error.mp failed with first | ⟨_, _, applied, later⟩
      · cases first
      · cases applied
        rcases ih later with missing | ⟨same, opening, -⟩
        · exact .inl missing
        · exact .inr ⟨same, List.mem_cons_of_mem _ opening, List.cons_ne_nil rhs _⟩

theorem outcome_unwind_eq_error {isDue : Pending → Bool} {operands : Stack α}
    {pending : Stack Pending} {failure : Failure}
    (failed : (unwind arith isDue operands pending).outcome = .error failure) :
    (applyAll arith (pending.takeWhile isDue) operands).outcome = .error failure := by
  rw [unwind_eq_applyAll] at failed
  rcases Traced.outcome_bind_eq_error.mp failed with first | ⟨_, _, -, later⟩
  · exact first
  · cases later

/-- Where opening parentheses are not due, only an operand can be missing. -/
theorem missing_of_unwind {isDue : Pending → Bool} (barrier : isDue .opening = false)
    {operands : Stack α} {pending : Stack Pending} {failure : Failure}
    (failed : (unwind arith isDue operands pending).outcome = .error failure) :
    failure = .irreducible .missingOperand := by
  rcases outcome_applyAll_eq_error (outcome_unwind_eq_error failed) with missing | ⟨-, opening, -⟩
  · exact missing
  · cases operators_of_takeWhile barrier pending .opening opening

/-! ## Failures at a token -/

/-- `Refuses arith w token failure`: what is the case when the token cannot be
taken into the workspace. -/
inductive Refuses (arith : Arithmetic α) (w : Workspace α) : Token → Failure → Prop
  /-- The text of a numeral is not that of a number. -/
  | numeral {text : String} :
      arith.read? text = none → Refuses arith w (.number text) (.malformed (.malformedNumber text))
  /-- An operator that is due has not got its operands. -/
  | short {token : Token} : Refuses arith w token (.irreducible .missingOperand)
  /-- No group is open that could be closed. -/
  | unmatched :
      w.pending.count .opening = 0 → Refuses arith w .closing (.malformed .unmatchedClosing)

theorem dropWhile_isOperator_cases (pending : Stack Pending) :
    pending.dropWhile Pending.isOperator = [] ∨
      ∃ below, pending.dropWhile Pending.isOperator = .opening :: below := by
  induction pending with
  | nil => exact .inl rfl
  | cons entry pending ih =>
    cases entry with
    | operator op => exact ih
    | opening => exact .inr ⟨pending, rfl⟩

/-- A token other than an equals sign is refused for one of these reasons. -/
theorem refuses_of_read {position : Nat} {w : Workspace α} {token : Token} {failure : Failure}
    (plain : token ≠ .equals)
    (failed : (read arith store position w token).outcome = .error failure) :
    Refuses arith w token failure := by
  cases token with
  | number text =>
    rw [read] at failed
    split at failed
    · cases failed
    · next unknown =>
      cases failed
      exact .numeral unknown
  | operator op =>
    rcases Traced.outcome_bind_eq_error.mp failed with unwound | ⟨_, _, -, pushed⟩
    · rw [missing_of_unwind rfl unwound]
      exact .short
    · cases pushed
  | closing =>
    rcases Traced.outcome_bind_eq_error.mp failed with unwound | ⟨_, w₁, unwound, closed⟩
    · rw [missing_of_unwind rfl unwound]
      exact .short
    · obtain ⟨operands, pending⟩ := w₁
      obtain ⟨-, rfl⟩ := unwind_eq_ok.mp unwound
      have groups : (w.pending.dropWhile Pending.isOperator).count .opening =
          w.pending.count .opening := count_opening_dropWhile rfl w.pending
      rcases dropWhile_isOperator_cases w.pending with none | ⟨below, opened⟩
      · rw [none] at closed groups
        cases closed
        exact .unmatched groups.symm
      · rw [opened] at closed
        cases closed
  | equals => exact absurd rfl plain
  | identifier _ | opening | ignored => cases failed

/-- A failure in the middle of a line comes up at one token, and the tokens before
it are taken in. -/
theorem readAll_eq_error_iff {position : Nat} {w : Workspace α} {tokens : List Token}
    {failure : Failure} :
    (readAll arith store position w tokens).outcome = .error failure ↔
      ∃ before token after reductions w₁, tokens = before ++ token :: after ∧
        readAll arith store position w before = ⟨reductions, .ok w₁⟩ ∧
        (read arith store (position + before.length) w₁ token).outcome = .error failure := by
  induction tokens generalizing position w with
  | nil =>
    constructor
    · intro failed
      cases failed
    · rintro ⟨before, token, after, _, _, none, -, -⟩
      simp at none
  | cons first tokens ih =>
    rw [readAll, Traced.outcome_bind_eq_error]
    constructor
    · rintro (failed | ⟨early, w₁, taken, failed⟩)
      · exact ⟨[], first, tokens, [], w, rfl, rfl, failed⟩
      · obtain ⟨before, token, after, late, w₂, rfl, start, failed⟩ := ih.mp failed
        refine ⟨first :: before, token, after, early ++ late, w₂, rfl, ?_, ?_⟩
        · exact readAll_cons_eq_ok.mpr ⟨early, w₁, late, step_of_read taken, start, rfl⟩
        · rw [List.length_cons, Nat.add_comm before.length, ← Nat.add_assoc]
          exact failed
    · rintro ⟨before, token, after, reductions, w₂, whole, start, failed⟩
      cases before with
      | nil =>
        obtain ⟨rfl, rfl⟩ := List.cons.inj whole
        cases start
        exact .inl failed
      | cons head before =>
        obtain ⟨rfl, rfl⟩ := List.cons.inj whole
        obtain ⟨early, w₁, late, step, rest, rfl⟩ := readAll_cons_eq_ok.mp start
        rw [List.length_cons, Nat.add_comm before.length, ← Nat.add_assoc] at failed
        exact .inr ⟨early, w₁, read_of_step step position,
          ih.mpr ⟨before, token, after, late, w₂, rfl, rest, failed⟩⟩

/-! ## Failures at the end -/

/-- `Unfinished w failure`: what is the case when what waits in the workspace does
not lead to one value. -/
inductive Unfinished (w : Workspace α) : Failure → Prop
  /-- An operator has not got its operands. -/
  | short : Unfinished w (.irreducible .missingOperand)
  /-- A group is open still. -/
  | unclosed :
      w.operands ≠ [] → .opening ∈ w.pending → Unfinished w (.malformed .unmatchedOpening)
  /-- More operands are there than the operators take. -/
  | residual {count : Nat} :
      (∀ entry ∈ w.pending, entry.isOperator = true) →
      count + w.pending.length = w.operands.length → 2 ≤ count →
      Unfinished w (.irreducible (.residualOperands count))

theorem outcome_result_eq_error {w : Workspace α} {failure : Failure}
    (failed : w.result.outcome = .error failure) :
    failure = .irreducible .missingOperand ∨
      2 ≤ w.operands.length ∧ failure = .irreducible (.residualOperands w.operands.length) := by
  obtain ⟨operands, pending⟩ := w
  rcases operands with _ | ⟨top, _ | ⟨next, below⟩⟩
  · cases failed
    exact .inl rfl
  · cases failed
  · cases failed
    exact .inr ⟨Nat.le_add_left 2 below.length, rfl⟩

theorem unfinished_of_finish {w : Workspace α} {failure : Failure}
    (failed : (w.finish arith).outcome = .error failure) : Unfinished w failure := by
  have all : w.pending.takeWhile (fun _ => true) = w.pending :=
    List.takeWhile_eq_self_iff.mpr fun _ _ => rfl
  rcases Traced.outcome_bind_eq_error.mp failed with unwound | ⟨reductions, w₁, unwound, single⟩
  · have applied := outcome_unwind_eq_error unwound
    rw [all] at applied
    rcases outcome_applyAll_eq_error applied with rfl | ⟨rfl, opening, some⟩
    · exact .short
    · exact .unclosed some opening
  · obtain ⟨applied, -⟩ := unwind_eq_ok.mp unwound
    rw [all] at applied
    obtain ⟨operators, -⟩ := applyAll_succeeds_iff.mp ⟨reductions, w₁.operands, applied⟩
    rcases outcome_result_eq_error single with rfl | ⟨many, rfl⟩
    · exact .short
    · exact .residual operators (length_of_applyAll applied).1 many

/-- A line without equals signs fails at a token, when those before it are taken
in, or at the end, when all are. -/
theorem fails_of_reckon {position : Nat} {tokens : List Token} {failure : Failure}
    (plain : .equals ∉ tokens)
    (failed : (reckon arith store position empty tokens).outcome = .error failure) :
    (∃ before token after reductions w, tokens = before ++ token :: after ∧
        readAll arith store position empty before = ⟨reductions, .ok w⟩ ∧
        Refuses arith w token failure) ∨
      ∃ reductions w, readAll arith store position empty tokens = ⟨reductions, .ok w⟩ ∧
        Unfinished w failure := by
  rcases Traced.outcome_bind_eq_error.mp failed with middle | ⟨reductions, w, taken, last⟩
  · obtain ⟨before, token, after, reductions, w, rfl, start, refused⟩ :=
      readAll_eq_error_iff.mp middle
    have other : token ≠ .equals := by
      rintro rfl
      exact plain (List.mem_append_right before List.mem_cons_self)
    exact .inl ⟨before, token, after, reductions, w, rfl, start, refuses_of_read other refused⟩
  · exact .inr ⟨reductions, w, taken, unfinished_of_finish last⟩

end Workspace

end Calculator
