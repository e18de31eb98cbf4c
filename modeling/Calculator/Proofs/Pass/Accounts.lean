import Calculator.Proofs.Acceptance.Due
import Calculator.Proofs.Pass.Reading

/-!
# What a pass keeps account of

A reduction takes one waiting operator and one operand away, and nothing else
does. So what lies on the stacks, together with the reductions made so far, is
what was read: this holds between any two tokens of a line. The opening
parentheses that wait are those that have not been closed.

The value of the latest reduction stays on the stack until another reduction
takes it. So a line's last reduction gives its value.

Results:
1. `readAll_accounts`: the counts after some tokens, from those before.
2. `closings_le_openings`: tokens that can be read close nothing that they have
   not opened.
3. `reckon_reductions`: a line that has a value makes one reduction for each
   operator, and the last one gives the value.
-/

namespace Calculator.Workspace

variable {α : Type} {arith : Arithmetic α} {store : Store α}

/-! ## Counts -/

/-- `Accounts w tokens reductions w'`: the counts of `w'` are those of `w` and of
the tokens, less what the reductions took away. -/
structure Accounts (w : Workspace α) (tokens : List Token) (reductions : List (Reduction α))
    (w' : Workspace α) : Prop where
  operands : w'.operands.length + reductions.length =
    w.operands.length + tokens.countP Token.isOperand
  operators : w'.pending.countP Pending.isOperator + reductions.length =
    w.pending.countP Pending.isOperator + tokens.countP Token.isOperator
  groups : w'.pending.count .opening + tokens.count .closing =
    w.pending.count .opening + tokens.count .opening

theorem Accounts.refl (w : Workspace α) : Accounts w [] [] w := ⟨rfl, rfl, rfl⟩

theorem Accounts.append {w w₁ w' : Workspace α} {tokens more : List Token}
    {early late : List (Reduction α)} (first : Accounts w tokens early w₁)
    (second : Accounts w₁ more late w') : Accounts w (tokens ++ more) (early ++ late) w' := by
  obtain ⟨operands, operators, groups⟩ := first
  obtain ⟨operands', operators', groups'⟩ := second
  constructor
  · rw [List.length_append, List.countP_append]
    omega
  · rw [List.length_append, List.countP_append]
    omega
  · rw [List.count_append, List.count_append]
    omega

/-- The entries that are due are taken off one for one with the operands. -/
theorem accounts_of_applyAll {isDue : Pending → Bool} (barrier : isDue .opening = false)
    {w : Workspace α} {reductions : List (Reduction α)} {left : Stack α}
    (applied : applyAll arith (w.pending.takeWhile isDue) w.operands = ⟨reductions, .ok left⟩) :
    Accounts w [] reductions ⟨left, w.pending.dropWhile isDue⟩ := by
  obtain ⟨shorter, counted⟩ := length_of_applyAll applied
  have operators := countP_isOperator_dropWhile barrier w.pending
  constructor
  · change left.length + reductions.length = w.operands.length
    omega
  · change (w.pending.dropWhile isDue).countP Pending.isOperator + reductions.length =
      w.pending.countP Pending.isOperator
    omega
  · exact count_opening_dropWhile barrier w.pending

theorem accounts_of_step {w w' : Workspace α} {token : Token} {reductions : List (Reduction α)}
    (step : Step arith store w token reductions w') : Accounts w [token] reductions w' := by
  cases step with
  | operand known =>
    cases token with
    | number _ | identifier _ => exact ⟨rfl, rfl, rfl⟩
    | operator _ | opening | closing | equals | ignored => cases known
  | opening =>
    refine ⟨rfl, ?_, ?_⟩
    · simp [pushPending, Stack.push, Pending.isOperator, Token.isOperator]
    · simp [pushPending, Stack.push]
  | @closing _ left below applied opened =>
    obtain ⟨operands, operators, groups⟩ := accounts_of_applyAll rfl applied
    rw [opened] at operators groups
    refine ⟨operands, ?_, ?_⟩
    · simpa [Pending.isOperator, Token.isOperator] using operators
    · simpa using groups
  | @operator op _ left applied =>
    have due : Accounts w [] reductions ⟨left, w.pending.dropWhile op.unwinds⟩ :=
      accounts_of_applyAll rfl applied
    obtain ⟨operands, operators, groups⟩ := due
    refine ⟨operands, ?_, ?_⟩
    · have waiting : (Pending.operator op :: w.pending.dropWhile op.unwinds).countP
          Pending.isOperator = (w.pending.dropWhile op.unwinds).countP Pending.isOperator + 1 :=
        List.countP_cons_of_pos rfl
      rw [waiting, Nat.add_right_comm]
      exact congrArg (· + 1) operators
    · simpa using groups
  | ignored => exact ⟨rfl, rfl, rfl⟩

/-- After any tokens of a line, what lies on the stacks and the reductions made
are what was read. -/
theorem readAll_accounts {position : Nat} {w w' : Workspace α} {tokens : List Token}
    {reductions : List (Reduction α)}
    (taken : readAll arith store position w tokens = ⟨reductions, .ok w'⟩) :
    Accounts w tokens reductions w' :=
  holds_of_readAll Accounts .refl (fun step rest => (accounts_of_step step).append rest) taken

/-! ## Parts of a line -/

theorem readAll_append_eq_ok {position : Nat} {w w' : Workspace α} {tokens more : List Token}
    {reductions : List (Reduction α)} :
    readAll arith store position w (tokens ++ more) = ⟨reductions, .ok w'⟩ ↔
      ∃ first w₁ later, readAll arith store position w tokens = ⟨first, .ok w₁⟩ ∧
        readAll arith store (position + tokens.length) w₁ more = ⟨later, .ok w'⟩ ∧
        reductions = first ++ later := by
  rw [readAll_append, Traced.bind_eq_ok]

/-- Tokens that can be read from the start of a line close nothing that they have
not opened, and no part of them does. -/
theorem closings_le_openings {position : Nat} {w : Workspace α} {tokens : List Token}
    {reductions : List (Reduction α)}
    (taken : readAll arith store position empty tokens = ⟨reductions, .ok w⟩) (n : Nat) :
    (tokens.take n).count .closing ≤ (tokens.take n).count .opening := by
  rw [← List.take_append_drop n tokens] at taken
  obtain ⟨first, w₁, later, start, -, -⟩ := readAll_append_eq_ok.mp taken
  have groups : w₁.pending.count .opening + (tokens.take n).count .closing =
      0 + (tokens.take n).count .opening := (readAll_accounts start).groups
  omega

/-! ## The latest reduction -/

/-- The value of the latest reduction is among the operands. -/
def Latest (reductions : List (Reduction α)) (operands : Stack α) : Prop :=
  ∀ r ∈ reductions.getLast?, r.value ∈ operands

theorem Latest.push {reductions : List (Reduction α)} {operands : Stack α}
    (latest : Latest reductions operands) (value : α) :
    Latest reductions (Stack.push operands value) :=
  fun r last => List.mem_cons_of_mem value (latest r last)

theorem Latest.applyAll {entries : List Pending} {operands left : Stack α}
    {earlier reductions : List (Reduction α)} (latest : Latest earlier operands)
    (applied : applyAll arith entries operands = ⟨reductions, .ok left⟩) :
    Latest (earlier ++ reductions) left := by
  induction entries generalizing operands earlier reductions with
  | nil =>
    obtain ⟨rfl, rfl⟩ := Traced.pure_eq_ok.mp applied
    rwa [List.append_nil]
  | cons entry entries ih =>
    obtain ⟨op, lhs, rhs, below, later, rfl, rfl, rest, rfl⟩ := applyAll_cons_eq_ok.mp applied
    have onTop : Latest (earlier ++ [⟨op, lhs, rhs, arith.apply op lhs rhs⟩])
        (arith.apply op lhs rhs :: below) := by
      intro r last
      rw [List.getLast?_concat] at last
      cases last
      exact List.mem_cons_self
    rw [← List.singleton_append, ← List.append_assoc]
    exact ih onTop rest

theorem Latest.step {w w' : Workspace α} {token : Token} {earlier reductions : List (Reduction α)}
    (latest : Latest earlier w.operands) (step : Step arith store w token reductions w') :
    Latest (earlier ++ reductions) w'.operands := by
  cases step with
  | operand known =>
    rw [List.append_nil]
    exact latest.push _
  | closing applied _ => exact latest.applyAll applied
  | operator applied => exact latest.applyAll applied
  | opening | ignored => rwa [List.append_nil]

theorem Latest.readAll {position : Nat} {w w' : Workspace α} {tokens : List Token}
    {earlier reductions : List (Reduction α)} (latest : Latest earlier w.operands)
    (taken : readAll arith store position w tokens = ⟨reductions, .ok w'⟩) :
    Latest (earlier ++ reductions) w'.operands := by
  have kept : ∀ earlier, Latest earlier w.operands →
      Latest (earlier ++ reductions) w'.operands := by
    refine holds_of_readAll (fun w _ made w' => ∀ earlier, Latest earlier w.operands →
      Latest (earlier ++ made) w'.operands) (fun w earlier latest => ?_)
      (fun step rest earlier latest => ?_) taken
    · rwa [List.append_nil]
    · rw [← List.append_assoc]
      exact rest _ (latest.step step)
  exact kept earlier latest

/-- A line that has a value makes one reduction for each of its operators, and
the last one gives the value. -/
theorem reckon_reductions {position : Nat} {tokens : List Token} {value : α}
    {reductions : List (Reduction α)}
    (found : reckon arith store position empty tokens = ⟨reductions, .ok value⟩) :
    reductions.length = tokens.countP Token.isOperator ∧
      ∀ r ∈ reductions.getLast?, r.value = value := by
  obtain ⟨first, w, later, taken, applied, rfl⟩ := reckon_eq_ok_iff.mp found
  constructor
  · obtain ⟨operators, -⟩ := applyAll_succeeds_iff.mp ⟨later, [value], applied⟩
    have waiting : w.pending.countP Pending.isOperator = w.pending.length :=
      List.countP_eq_length.mpr operators
    have counted := (length_of_applyAll applied).2
    have read : w.pending.countP Pending.isOperator + first.length =
        0 + tokens.countP Token.isOperator := (readAll_accounts taken).operators
    rw [List.length_append]
    omega
  · intro r last
    have none : Latest ([] : List (Reduction α)) (empty : Workspace α).operands := by
      rintro _ ⟨⟩
    have only := (none.readAll taken).applyAll applied r last
    exact List.mem_singleton.mp only

end Calculator.Workspace
