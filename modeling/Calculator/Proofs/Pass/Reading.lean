import Calculator.Evaluator.Basic
import Calculator.Proofs.Pass.Unwinding

/-!
# The pass over a line

`Step` says in one place what a token can do to the workspace, one constructor
for each kind of token. `reckon` is the evaluation of an expression without the
statement around it: all tokens are taken in, and what then waits is applied.

Results:
1. `read_eq_ok_iff`: a token is taken in successfully iff there is such a step.
2. `readAll_append`: a pass over two parts is a pass over the first and then one
   over the second.
3. `finish_eq_ok_iff`: a workspace has a value iff its waiting entries apply and
   leave a single operand.
4. `evaluate_lead`, `outcome_evaluate_lead`: a line is evaluated by `reckon` on
   its expression, whether or not the expression is assigned.
-/

namespace Calculator

variable {α : Type} {arith : Arithmetic α} {store : Store α}

/-- The value of a token that is an operand. -/
def Token.operand? (arith : Arithmetic α) (store : Store α) : Token → Option α
  | .number text => arith.read? text
  | .identifier name => some ((store.lookup name).getD arith.unbound)
  | _ => none

namespace Workspace

/-! ## One token -/

/-- `Step arith store w token reductions w'`: the token is taken into `w` with
these reductions, and `w'` results. -/
inductive Step (arith : Arithmetic α) (store : Store α) :
    Workspace α → Token → List (Reduction α) → Workspace α → Prop
  | operand {w : Workspace α} {token : Token} {value : α} :
      token.operand? arith store = some value → Step arith store w token [] (w.pushOperand value)
  | opening {w : Workspace α} : Step arith store w .opening [] (w.pushPending .opening)
  | closing {w : Workspace α} {reductions : List (Reduction α)} {left : Stack α}
      {below : Stack Pending} :
      applyAll arith (w.pending.takeWhile Pending.isOperator) w.operands =
        ⟨reductions, .ok left⟩ →
      w.pending.dropWhile Pending.isOperator = .opening :: below →
      Step arith store w .closing reductions ⟨left, below⟩
  | operator {w : Workspace α} {op : Operator} {reductions : List (Reduction α)}
      {left : Stack α} :
      applyAll arith (w.pending.takeWhile op.unwinds) w.operands = ⟨reductions, .ok left⟩ →
      Step arith store w (.operator op) reductions
        ⟨left, .operator op :: w.pending.dropWhile op.unwinds⟩
  | ignored {w : Workspace α} : Step arith store w .ignored [] w

theorem close_eq_ok {w w' : Workspace α} {reductions : List (Reduction α)} :
    w.close = ⟨reductions, .ok w'⟩ ↔
      w.pending = .opening :: w'.pending ∧ w'.operands = w.operands ∧ reductions = [] := by
  obtain ⟨operands, pending⟩ := w
  constructor
  · intro closed
    unfold close at closed
    split at closed
    · next below same =>
      obtain ⟨rfl, rfl⟩ := Traced.pure_eq_ok.mp closed
      exact ⟨same, rfl, rfl⟩
    · cases closed
  · rintro ⟨same, rfl, rfl⟩
    subst same
    rfl

theorem step_of_read {position : Nat} {w w' : Workspace α} {token : Token}
    {reductions : List (Reduction α)}
    (taken : read arith store position w token = ⟨reductions, .ok w'⟩) :
    Step arith store w token reductions w' := by
  cases token with
  | number text =>
    rw [read] at taken
    split at taken
    · next value known =>
      obtain ⟨rfl, rfl⟩ := Traced.pure_eq_ok.mp taken
      exact .operand known
    · cases taken
  | identifier name =>
    obtain ⟨rfl, rfl⟩ := Traced.pure_eq_ok.mp taken
    exact .operand rfl
  | operator op =>
    obtain ⟨first, w₁, later, unwound, rest, rfl⟩ := Traced.bind_eq_ok.mp taken
    obtain ⟨applied, same⟩ := unwind_eq_ok.mp unwound
    obtain ⟨rfl, rfl⟩ := Traced.pure_eq_ok.mp rest
    rw [List.append_nil, pushPending, same]
    exact .operator applied
  | opening =>
    obtain ⟨rfl, rfl⟩ := Traced.pure_eq_ok.mp taken
    exact .opening
  | closing =>
    obtain ⟨first, w₁, later, unwound, rest, rfl⟩ := Traced.bind_eq_ok.mp taken
    obtain ⟨applied, same⟩ := unwind_eq_ok.mp unwound
    obtain ⟨opened, kept, rfl⟩ := close_eq_ok.mp rest
    rw [← kept] at applied
    rw [List.append_nil]
    exact .closing applied (same ▸ opened)
  | equals => cases taken
  | ignored =>
    obtain ⟨rfl, rfl⟩ := Traced.pure_eq_ok.mp taken
    exact .ignored

theorem read_of_step {w w' : Workspace α} {token : Token} {reductions : List (Reduction α)}
    (step : Step arith store w token reductions w') (position : Nat) :
    read arith store position w token = ⟨reductions, .ok w'⟩ := by
  cases step with
  | operand known =>
    cases token with
    | number text =>
      rw [Token.operand?] at known
      rw [read, known]
      rfl
    | identifier name =>
      cases known
      rfl
    | operator _ | opening | closing | equals | ignored => cases known
  | opening => rfl
  | @closing _ left below applied opened =>
    have unwound : unwind arith Pending.isOperator w.operands w.pending =
        ⟨reductions, .ok ⟨left, .opening :: below⟩⟩ :=
      unwind_eq_ok.mpr ⟨applied, opened.symm⟩
    exact Traced.bind_eq_ok.mpr
      ⟨reductions, _, [], unwound, close_eq_ok.mpr ⟨rfl, rfl, rfl⟩, by simp⟩
  | @operator op _ left applied =>
    have unwound : unwind arith op.unwinds w.operands w.pending =
        ⟨reductions, .ok ⟨left, w.pending.dropWhile op.unwinds⟩⟩ :=
      unwind_eq_ok.mpr ⟨applied, rfl⟩
    exact Traced.bind_eq_ok.mpr ⟨reductions, _, [], unwound, rfl, by simp⟩
  | ignored => rfl

theorem read_eq_ok_iff {position : Nat} {w w' : Workspace α} {token : Token}
    {reductions : List (Reduction α)} :
    read arith store position w token = ⟨reductions, .ok w'⟩ ↔
      Step arith store w token reductions w' :=
  ⟨step_of_read, fun step => read_of_step step position⟩

/-! ## All tokens -/

theorem readAll_cons_eq_ok {position : Nat} {w w' : Workspace α} {token : Token}
    {tokens : List Token} {reductions : List (Reduction α)} :
    readAll arith store position w (token :: tokens) = ⟨reductions, .ok w'⟩ ↔
      ∃ first w₁ later, Step arith store w token first w₁ ∧
        readAll arith store (position + 1) w₁ tokens = ⟨later, .ok w'⟩ ∧
        reductions = first ++ later := by
  rw [readAll, Traced.bind_eq_ok]
  simp only [read_eq_ok_iff]

/-- What holds before any token and is carried on by every step holds of every run. -/
theorem holds_of_readAll
    (Holds : Workspace α → List Token → List (Reduction α) → Workspace α → Prop)
    (start : ∀ w, Holds w [] [] w)
    (carried : ∀ {w w₁ w' : Workspace α} {token : Token} {tokens : List Token}
      {early late : List (Reduction α)}, Step arith store w token early w₁ →
      Holds w₁ tokens late w' → Holds w (token :: tokens) (early ++ late) w')
    {position : Nat} {w w' : Workspace α} {tokens : List Token} {reductions : List (Reduction α)}
    (taken : readAll arith store position w tokens = ⟨reductions, .ok w'⟩) :
    Holds w tokens reductions w' := by
  induction tokens generalizing position w reductions with
  | nil =>
    obtain ⟨rfl, rfl⟩ := Traced.pure_eq_ok.mp taken
    exact start w
  | cons token tokens ih =>
    obtain ⟨early, w₁, late, step, rest, rfl⟩ := readAll_cons_eq_ok.mp taken
    exact carried step (ih rest)

theorem readAll_append (position : Nat) (w : Workspace α) (tokens more : List Token) :
    readAll arith store position w (tokens ++ more) =
      readAll arith store position w tokens >>= fun w =>
        readAll arith store (position + tokens.length) w more := by
  induction tokens generalizing position w with
  | nil => rfl
  | cons token tokens ih =>
    simp only [List.cons_append, readAll, bind_assoc, List.length_cons]
    refine congrArg _ (funext fun w₁ => ?_)
    rw [ih, Nat.add_assoc, Nat.add_comm 1]

/-- Only a misplaced equals sign is reported with its position. -/
theorem read_position {token : Token} (plain : token ≠ .equals) (position other : Nat)
    (w : Workspace α) :
    read arith store position w token = read arith store other w token := by
  cases token with
  | equals => exact absurd rfl plain
  | number _ | identifier _ | operator _ | opening | closing | ignored => rfl

theorem readAll_position {tokens : List Token} (plain : .equals ∉ tokens)
    (position other : Nat) (w : Workspace α) :
    readAll arith store position w tokens = readAll arith store other w tokens := by
  induction tokens generalizing position other w with
  | nil => rfl
  | cons token tokens ih =>
    rw [List.mem_cons, not_or] at plain
    unfold readAll
    rw [read_position (Ne.symm plain.1) position other]
    exact congrArg _ (funext fun w₁ => ih plain.2 _ _ w₁)

/-- Ignored tokens leave the workspace as it is. -/
theorem readAll_filter_ignored {tokens : List Token} (plain : .equals ∉ tokens)
    (position : Nat) (w : Workspace α) :
    readAll arith store position w (tokens.filter (· ≠ .ignored)) =
      readAll arith store position w tokens := by
  induction tokens generalizing position w with
  | nil => rfl
  | cons token tokens ih =>
    rw [List.mem_cons, not_or] at plain
    by_cases skipped : token = .ignored
    · subst skipped
      rw [List.filter_cons_of_neg (by simp), ih plain.2]
      exact readAll_position plain.2 position (position + 1) w
    · rw [List.filter_cons_of_pos (by simp [skipped]), readAll, readAll]
      exact congrArg _ (funext fun w₁ => ih plain.2 (position + 1) w₁)

/-! ## The end of the line -/

theorem result_eq_ok {w : Workspace α} {value : α} {reductions : List (Reduction α)} :
    w.result = ⟨reductions, .ok value⟩ ↔ w.operands = [value] ∧ reductions = [] := by
  constructor
  · intro single
    unfold result at single
    split at single
    · cases single
    · next only same =>
      obtain ⟨rfl, rfl⟩ := Traced.pure_eq_ok.mp single
      exact ⟨same, rfl⟩
    · cases single
  · rintro ⟨same, rfl⟩
    unfold result
    rw [same]
    rfl

/-- A workspace has a value iff everything that waits can be applied and leaves
a single operand. -/
theorem finish_eq_ok_iff {w : Workspace α} {value : α} {reductions : List (Reduction α)} :
    w.finish arith = ⟨reductions, .ok value⟩ ↔
      applyAll arith w.pending w.operands = ⟨reductions, .ok [value]⟩ := by
  have all : w.pending.takeWhile (fun _ => true) = w.pending :=
    List.takeWhile_eq_self_iff.mpr fun _ _ => rfl
  have rest : w.pending.dropWhile (fun _ => true) = [] :=
    List.dropWhile_eq_nil_iff.mpr fun _ _ => rfl
  unfold finish
  rw [Traced.bind_eq_ok]
  constructor
  · rintro ⟨first, w₁, later, unwound, single, rfl⟩
    obtain ⟨applied, -⟩ := unwind_eq_ok.mp unwound
    obtain ⟨same, rfl⟩ := result_eq_ok.mp single
    rw [all, same] at applied
    rw [List.append_nil, applied]
  · intro applied
    refine ⟨reductions, ⟨[value], []⟩, [], unwind_eq_ok.mpr ⟨?_, rest.symm⟩, rfl, by simp⟩
    rw [all, applied]

/-- Takes tokens into a workspace and gives the value that results. -/
def reckon (arith : Arithmetic α) (store : Store α) (position : Nat) (w : Workspace α)
    (tokens : List Token) : Traced α α :=
  readAll arith store position w tokens >>= finish arith

theorem reckon_eq_ok_iff {position : Nat} {w : Workspace α} {tokens : List Token} {value : α}
    {reductions : List (Reduction α)} :
    reckon arith store position w tokens = ⟨reductions, .ok value⟩ ↔
      ∃ first w' later, readAll arith store position w tokens = ⟨first, .ok w'⟩ ∧
        applyAll arith w'.pending w'.operands = ⟨later, .ok [value]⟩ ∧
        reductions = first ++ later := by
  unfold reckon
  rw [Traced.bind_eq_ok]
  simp only [finish_eq_ok_iff]

theorem reckon_cons_eq_ok {position : Nat} {w : Workspace α} {token : Token}
    {tokens : List Token} {value : α} {reductions : List (Reduction α)} :
    reckon arith store position w (token :: tokens) = ⟨reductions, .ok value⟩ ↔
      ∃ first w₁ later, Step arith store w token first w₁ ∧
        reckon arith store (position + 1) w₁ tokens = ⟨later, .ok value⟩ ∧
        reductions = first ++ later := by
  unfold reckon
  rw [readAll, bind_assoc, Traced.bind_eq_ok]
  simp only [read_eq_ok_iff]

theorem reckon_append (position : Nat) (w : Workspace α) (tokens more : List Token) :
    reckon arith store position w (tokens ++ more) =
      readAll arith store position w tokens >>= fun w =>
        reckon arith store (position + tokens.length) w more := by
  unfold reckon
  rw [readAll_append, bind_assoc]

theorem reckon_position {tokens : List Token} (plain : .equals ∉ tokens)
    (position other : Nat) (w : Workspace α) :
    reckon arith store position w tokens = reckon arith store other w tokens := by
  unfold reckon
  rw [readAll_position plain position other]

theorem reckon_filter_ignored {tokens : List Token} (plain : .equals ∉ tokens)
    (position : Nat) (w : Workspace α) :
    reckon arith store position w (tokens.filter (· ≠ .ignored)) =
      reckon arith store position w tokens := by
  unfold reckon
  rw [readAll_filter_ignored plain]

end Workspace

/-! ## Statements -/

namespace Statement

/-- The tokens that stand before the expression of a statement. -/
def lead : Option String → List Token
  | none => []
  | some name => [.identifier name, .equals]

theorem equalsFrom_eq_nil {tokens : List Token} (plain : .equals ∉ tokens) (position : Nat) :
    equalsFrom position tokens = [] := by
  induction tokens generalizing position with
  | nil => rfl
  | cons token tokens ih =>
    rw [List.mem_cons, not_or] at plain
    unfold equalsFrom
    rw [if_neg (Ne.symm plain.1)]
    exact ih plain.2 (position + 1)

theorem ofTokens?_lead {target : Option String}
    (assignable : ∀ name ∈ target, Token.isVariableName name = true) {tokens : List Token}
    (plain : .equals ∉ tokens) :
    ofTokens? (lead target ++ tokens) = .ok ⟨target, (lead target).length⟩ := by
  cases target with
  | none =>
    unfold ofTokens?
    rw [show lead none ++ tokens = tokens from rfl, equalsFrom_eq_nil plain]
    rfl
  | some name =>
    have single : equalsFrom 0 (lead (some name) ++ tokens) = [1] := by
      simp [lead, equalsFrom, equalsFrom_eq_nil plain]
    unfold ofTokens?
    rw [single]
    simp [lead, target?, assignable name rfl]

end Statement

namespace Evaluator

/-- The evaluator after a line differs only in its store, and only by the
outcome of the line. -/
theorem evaluate_fst (tokens : List Token) :
    ((ofStore store).evaluate arith tokens).1 =
      ofStore (storeAfter store ((ofStore store).evaluate arith tokens).2.outcome) :=
  rfl

theorem run_of_statement {ev : Evaluator α} {tokens : List Token} {statement : Statement}
    (known : Statement.ofTokens? tokens = .ok statement) :
    ev.run arith tokens =
      Workspace.reckon arith ev.store statement.start ev.workspace
        (tokens.drop statement.start) >>= fun value => pure ⟨value, statement.target⟩ := by
  unfold run Workspace.reckon
  rw [known, bind_assoc]
  rfl

/-- A line is evaluated by taking in the tokens of its expression. -/
theorem evaluate_lead (arith : Arithmetic α) (store : Store α) {target : Option String}
    (assignable : ∀ name ∈ target, Token.isVariableName name = true) {tokens : List Token}
    (plain : .equals ∉ tokens) :
    ((ofStore store).evaluate arith (Statement.lead target ++ tokens)).2 =
      Workspace.reckon arith store 0 Workspace.empty tokens >>= fun value =>
        pure ⟨value, target⟩ := by
  unfold evaluate
  rw [run_of_statement (Statement.ofTokens?_lead assignable plain), List.drop_left,
    Workspace.reckon_position plain _ 0]
  rfl

theorem outcome_evaluate_lead (arith : Arithmetic α) (store : Store α) {target : Option String}
    (assignable : ∀ name ∈ target, Token.isVariableName name = true) {tokens : List Token}
    (plain : .equals ∉ tokens) :
    ((ofStore store).evaluate arith (Statement.lead target ++ tokens)).2.outcome =
      (Workspace.reckon arith store 0 Workspace.empty tokens).outcome.map
        fun value => ⟨value, target⟩ := by
  rw [evaluate_lead arith store assignable plain, Traced.bind_pure_eq]

/-- A line without equals signs has a value iff the pass over its tokens has. -/
theorem outcome_evaluate_eq_ok {tokens : List Token} (plain : .equals ∉ tokens)
    {evaluation : Evaluation α} :
    ((ofStore store).evaluate arith tokens).2.outcome = .ok evaluation ↔
      (∃ reductions, Workspace.reckon arith store 0 Workspace.empty tokens =
        ⟨reductions, .ok evaluation.value⟩) ∧ evaluation.target = none := by
  obtain ⟨value, target⟩ := evaluation
  rw [show tokens = Statement.lead none ++ tokens from rfl,
    outcome_evaluate_lead arith store (by simp) plain]
  change Except.map _ (Workspace.reckon arith store 0 Workspace.empty tokens).outcome = _ ↔
    (∃ reductions, Workspace.reckon arith store 0 Workspace.empty tokens = _) ∧ _
  rcases Workspace.reckon arith store 0 Workspace.empty tokens with ⟨reductions, failure | only⟩
  · simp [Except.map]
  · simp [Except.map, eq_comm]

theorem exists_outcome_evaluate_iff {tokens : List Token} (plain : .equals ∉ tokens) :
    (∃ evaluation, ((ofStore store).evaluate arith tokens).2.outcome = .ok evaluation) ↔
      ∃ reductions value,
        Workspace.reckon arith store 0 Workspace.empty tokens = ⟨reductions, .ok value⟩ := by
  constructor
  · rintro ⟨evaluation, outcome⟩
    obtain ⟨⟨reductions, found⟩, -⟩ := (outcome_evaluate_eq_ok plain).mp outcome
    exact ⟨reductions, evaluation.value, found⟩
  · rintro ⟨reductions, value, found⟩
    exact ⟨⟨value, none⟩, (outcome_evaluate_eq_ok plain).mpr ⟨⟨reductions, found⟩, rfl⟩⟩

end Evaluator

end Calculator
