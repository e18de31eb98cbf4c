import Calculator.Proofs.Statement.Form

/-!
# Evaluation in place

`Evaluator.evaluate` computes a new evaluator from an old one. Here the same
line runs on a single evaluator whose stacks change step by step. A failure can
come up at any step, also between taking an operand and putting the result
back, and leaves the stacks as they are at that step; they are cleared after the
line, and only then a variable is bound.

Results:
1. `reduce_eq`: the pass has the outcome of `Evaluator.run`, and whichever way
   it ends, it has not touched the variables.
2. `evaluate_eq`: nothing of what a line leaves behind shows after it.
-/

namespace Calculator

/-- A computation on an evaluator that changes in place. A failure leaves the
evaluator as it is at that point. -/
abbrev InPlace (α β : Type) := EStateM Failure (Evaluator α) β

namespace InPlace

variable {α : Type}

/-! ## Single stacks -/

def popOperand : InPlace α α := do
  let ev ← get
  match Stack.pop? ev.workspace.operands with
  | some (value, operands) =>
    set { ev with workspace.operands := operands }
    pure value
  | none => throw (.irreducible .missingOperand)

def popPending : InPlace α Pending := do
  let ev ← get
  match Stack.pop? ev.workspace.pending with
  | some (entry, pending) =>
    set { ev with workspace.pending := pending }
    pure entry
  | none => throw (.irreducible .missingOperand)

def pushOperand (value : α) : InPlace α Unit :=
  modify fun ev => { ev with workspace := ev.workspace.pushOperand value }

def pushPending (entry : Pending) : InPlace α Unit :=
  modify fun ev => { ev with workspace := ev.workspace.pushPending entry }

/-! ## One line -/

/-- Takes an operand, an operator and another operand, and puts the result back. -/
def applyTop (arith : Arithmetic α) : InPlace α Unit := do
  let rhs ← popOperand
  match ← popPending with
  | .opening => throw (.malformed .unmatchedOpening)
  | .operator op =>
    let lhs ← popOperand
    pushOperand (arith.apply op lhs rhs)

/-- Applies the topmost entry as long as it is due, a given number of times at
most. -/
def unwindAtMost (arith : Arithmetic α) (isDue : Pending → Bool) : Nat → InPlace α Unit
  | 0 => pure ()
  | steps + 1 => do
    match Stack.top? (← get).workspace.pending with
    | some entry =>
      if isDue entry then
        applyTop arith
        unwindAtMost arith isDue steps
      else
        pure ()
    | none => pure ()

/-- Applies the topmost entry as long as it is due. Every application takes one
entry, so there are no more than wait at the start. -/
def unwind (arith : Arithmetic α) (isDue : Pending → Bool) : InPlace α Unit := do
  unwindAtMost arith isDue (← get).workspace.pending.length

/-- Removes the opening parenthesis that a closing one has unwound to. -/
def close : InPlace α Unit := do
  match Stack.top? (← get).workspace.pending with
  | some .opening => discard popPending
  | _ => throw (.malformed .unmatchedClosing)

def read (arith : Arithmetic α) (position : Nat) : Token → InPlace α Unit
  | .number text =>
    match arith.read? text with
    | some value => pushOperand value
    | none => throw (.malformed (.malformedNumber text))
  | .identifier name => do
    pushOperand (((← get).store.lookup name).getD arith.unbound)
  | .opening => pushPending .opening
  | .closing => do
    unwind arith Pending.isOperator
    close
  | .operator op => do
    unwind arith op.unwinds
    pushPending (.operator op)
  | .equals => throw (.malformed (.misplacedEquals position))
  | .ignored => pure ()

def readAll (arith : Arithmetic α) (position : Nat) : List Token → InPlace α Unit
  | [] => pure ()
  | token :: tokens => do
    read arith position token
    readAll arith (position + 1) tokens

/-- Takes all tokens of an expression in and applies what waits after them. -/
def pass (arith : Arithmetic α) (position : Nat) (tokens : List Token) : InPlace α Unit := do
  readAll arith position tokens
  unwind arith fun _ => true

def takeValue (target : Option String) : InPlace α (Evaluation α) := do
  let value ← popOperand
  let left := (← get).workspace.operands
  if left.isEmpty then pure ⟨value, target⟩
  else throw (.irreducible (.residualOperands (left.length + 1)))

/-- Evaluates a line on the stacks as they are. -/
def reduce (arith : Arithmetic α) (tokens : List Token) : InPlace α (Evaluation α) :=
  match Statement.ofTokens? tokens with
  | .error fault => throw (.malformed fault)
  | .ok statement => do
    pass arith statement.start (tokens.drop statement.start)
    takeValue statement.target

def clear (ev : Evaluator α) : Evaluator α :=
  { ev with workspace := ⟨Stack.clear ev.workspace.operands, Stack.clear ev.workspace.pending⟩ }

/-- Evaluates a line in place: the stacks are cleared whichever way the pass
ended, and a target is bound after that. -/
def evaluate (arith : Arithmetic α) (tokens : List Token) (ev : Evaluator α) :
    Evaluator α × Except Failure (Evaluation α) :=
  match reduce arith tokens ev with
  | .error failure ev => (clear ev, .error failure)
  | .ok ⟨value, none⟩ ev => (clear ev, .ok ⟨value, none⟩)
  | .ok ⟨value, some name⟩ ev =>
    let ev := clear ev
    ({ ev with store := ev.store.bind name value }, .ok ⟨value, some name⟩)

/-! ## What the steps come to -/

/-- `Ends store outcome result`: a computation has this outcome. It leaves the
variables as they were; a success leaves the workspace of the outcome, a failure
any workspace. -/
inductive Ends (store : Store α) :
    Except Failure (Workspace α) → EStateM.Result Failure (Evaluator α) Unit → Prop
  | ok (w : Workspace α) : Ends store (.ok w) (.ok () ⟨store, w⟩)
  | error (failure : Failure) (left : Workspace α) :
      Ends store (.error failure) (.error failure ⟨store, left⟩)

variable {arith : Arithmetic α} {store : Store α}

theorem Ends.bind {x : Traced α (Workspace α)} {step : InPlace α Unit} {ev : Evaluator α}
    (first : Ends store x.outcome (step ev)) {next : Workspace α → Traced α (Workspace α)}
    {later : InPlace α Unit}
    (rest : ∀ w, x.outcome = .ok w → Ends store (next w).outcome (later ⟨store, w⟩)) :
    Ends store (x >>= next).outcome ((step >>= fun _ => later) ev) := by
  obtain ⟨reductions, outcome⟩ := x
  change Ends store _ (EStateM.bind step (fun _ => later) ev)
  unfold EStateM.bind
  generalize step ev = result at first ⊢
  cases first with
  | error failure left => exact .error failure left
  | ok w => exact rest w rfl

/-- Applying an entry takes it from its stack, also when the application fails. -/
theorem applyTop_ends (operands : Stack α) (entry : Pending) (pending : Stack Pending) :
    Ends store
      (Workspace.applyTop arith entry operands >>= fun left => pure ⟨left, pending⟩).outcome
      (applyTop arith ⟨store, ⟨operands, entry :: pending⟩⟩) := by
  rcases operands with _ | ⟨rhs, operands⟩
  · exact .error _ _
  cases entry with
  | opening => exact .error _ _
  | operator op =>
    rcases operands with _ | ⟨lhs, below⟩
    · exact .error _ _
    · exact .ok _

theorem unwindAtMost_cons (isDue : Pending → Bool) (steps : Nat) (operands : Stack α)
    (entry : Pending) (pending : Stack Pending) :
    unwindAtMost arith isDue (steps + 1) ⟨store, ⟨operands, entry :: pending⟩⟩ =
      if isDue entry then
        (applyTop arith >>= fun _ => unwindAtMost arith isDue steps)
          ⟨store, ⟨operands, entry :: pending⟩⟩
      else .ok () ⟨store, ⟨operands, entry :: pending⟩⟩ := by
  change (if isDue entry then applyTop arith >>= fun _ => unwindAtMost arith isDue steps
    else pure () : InPlace α Unit) ⟨store, ⟨operands, entry :: pending⟩⟩ = _
  split <;> rfl

theorem eq_mk_of_bind_pure {x : Traced α (Stack α)} {pending : Stack Pending} {w : Workspace α}
    (succeeded : (x >>= fun left => pure (Workspace.mk left pending)).outcome = .ok w) :
    ∃ left, w = ⟨left, pending⟩ := by
  obtain ⟨reductions, failure | left⟩ := x
  · cases succeeded
  · exact ⟨left, (Except.ok.inj succeeded).symm⟩

theorem unwindAtMost_ends (isDue : Pending → Bool) {steps : Nat} {operands : Stack α}
    {pending : Stack Pending} (enough : pending.length ≤ steps) :
    Ends store (Workspace.unwind arith isDue operands pending).outcome
      (unwindAtMost arith isDue steps ⟨store, ⟨operands, pending⟩⟩) := by
  induction pending generalizing steps operands with
  | nil => cases steps <;> exact .ok _
  | cons entry pending ih =>
    obtain ⟨steps, rfl⟩ := Nat.exists_eq_add_of_le' (Nat.le_trans (Nat.le_add_left 1 _) enough)
    rw [unwindAtMost_cons, Workspace.unwind]
    split
    · have apart : (Workspace.applyTop arith entry operands >>= fun left =>
            Workspace.unwind arith isDue left pending) =
          (Workspace.applyTop arith entry operands >>= fun left =>
              pure (Workspace.mk left pending)) >>=
            fun w : Workspace α => Workspace.unwind arith isDue w.operands w.pending := by
        simp only [bind_assoc, pure_bind]
      rw [apart]
      refine (applyTop_ends operands entry pending).bind fun w applied => ?_
      obtain ⟨left, rfl⟩ := eq_mk_of_bind_pure applied
      exact ih (Nat.le_of_succ_le_succ enough)
    · exact .ok _

theorem unwind_ends (isDue : Pending → Bool) (w : Workspace α) :
    Ends store (Workspace.unwind arith isDue w.operands w.pending).outcome
      (unwind arith isDue ⟨store, w⟩) :=
  unwindAtMost_ends isDue (Nat.le_refl w.pending.length)

theorem close_ends (w : Workspace α) : Ends store w.close.outcome (close ⟨store, w⟩) := by
  obtain ⟨operands, _ | ⟨_ | _, pending⟩⟩ := w
  · exact .error _ _
  · exact .error _ _
  · exact .ok _

theorem read_ends (position : Nat) (token : Token) (w : Workspace α) :
    Ends store (Workspace.read arith store position w token).outcome
      (read arith position token ⟨store, w⟩) := by
  cases token with
  | number text =>
    rw [Workspace.read, read]
    cases arith.read? text with
    | none => exact .error _ _
    | some value => exact .ok _
  | identifier name => exact .ok _
  | operator op => exact (unwind_ends op.unwinds w).bind fun w _ => .ok _
  | opening => exact .ok _
  | closing => exact (unwind_ends Pending.isOperator w).bind fun w _ => close_ends w
  | equals => exact .error _ _
  | ignored => exact .ok _

theorem readAll_ends (position : Nat) (tokens : List Token) (w : Workspace α) :
    Ends store (Workspace.readAll arith store position w tokens).outcome
      (readAll arith position tokens ⟨store, w⟩) := by
  induction tokens generalizing position w with
  | nil => exact .ok _
  | cons token tokens ih => exact (read_ends position token w).bind fun w _ => ih _ w

/-- The result of a computation with this outcome, which ends with this evaluator. -/
def ended {β : Type} (outcome : Except Failure β) (ev : Evaluator α) :
    EStateM.Result Failure (Evaluator α) β :=
  match outcome with
  | .ok b => .ok b ev
  | .error failure => .error failure ev

theorem takeValue_eq (target : Option String) (w : Workspace α) :
    ∃ left, takeValue target ⟨store, w⟩ =
      ended (w.result >>= fun value => pure ⟨value, target⟩).outcome ⟨store, left⟩ := by
  obtain ⟨_ | ⟨value, _ | ⟨next, below⟩⟩, pending⟩ := w
  · exact ⟨_, rfl⟩
  · exact ⟨_, rfl⟩
  · exact ⟨_, rfl⟩

theorem Ends.takeValue {x : Traced α (Workspace α)} {step : InPlace α Unit} {ev : Evaluator α}
    (first : Ends store x.outcome (step ev)) (target : Option String) :
    ∃ left, (step >>= fun _ => takeValue target) ev =
      ended (x >>= fun w => w.result >>= fun value => pure ⟨value, target⟩).outcome
        ⟨store, left⟩ := by
  obtain ⟨reductions, outcome⟩ := x
  change ∃ left, EStateM.bind step (fun _ => InPlace.takeValue target) ev = _
  unfold EStateM.bind
  generalize step ev = result at first ⊢
  cases first with
  | error failure left => exact ⟨left, rfl⟩
  | ok w => exact takeValue_eq target w

/-- Whichever way the pass over a line ends, it has the outcome of
`Evaluator.run` and has not touched the variables. -/
theorem reduce_eq (arith : Arithmetic α) (tokens : List Token) (ev : Evaluator α) :
    ∃ left, reduce arith tokens ev = ended (ev.run arith tokens).outcome ⟨ev.store, left⟩ := by
  obtain ⟨store, w⟩ := ev
  unfold reduce
  cases form : Statement.ofTokens? tokens with
  | error fault =>
    rw [Evaluator.run_of_fault form]
    exact ⟨w, rfl⟩
  | ok statement =>
    let expression := tokens.drop statement.start
    have passed : Ends store
        (Workspace.readAll arith store statement.start w expression >>= fun w =>
          Workspace.unwind arith (fun _ => true) w.operands w.pending).outcome
        (pass arith statement.start expression ⟨store, w⟩) :=
      (readAll_ends statement.start expression w).bind fun w _ => unwind_ends _ w
    rw [Evaluator.run_of_statement form]
    simpa only [Workspace.reckon, Workspace.finish, bind_assoc] using
      passed.takeValue statement.target

/-- Evaluating a line in place is evaluating it: what the pass leaves on the
stacks does not show after the line. -/
theorem evaluate_eq (arith : Arithmetic α) (tokens : List Token) (ev : Evaluator α) :
    evaluate arith tokens ev =
      ((ev.evaluate arith tokens).1, (ev.evaluate arith tokens).2.outcome) := by
  obtain ⟨left, same⟩ := reduce_eq arith tokens ev
  unfold evaluate
  rw [same]
  change _ = (Evaluator.mk (Evaluator.storeAfter ev.store (ev.run arith tokens).outcome)
    Workspace.empty, (ev.run arith tokens).outcome)
  rcases (ev.run arith tokens).outcome with failure | ⟨value, _ | name⟩
  · rfl
  · rfl
  · rfl

/-- In `2 * ( +` the sum takes the operand and its own entry, and then finds
nothing: the entries below are left. -/
example : reduce .binary64
      [.number "2", .operator .mul, .opening, .operator .add] (.ofStore Store.empty) =
    .error (.irreducible .missingOperand) ⟨Store.empty, ⟨[], [.opening, .operator .mul]⟩⟩ := rfl

end InPlace

end Calculator
