import Calculator.Proofs.InPlace.Atomic

/-!
# Assignments

A line that assigns an expression is read from another position and ends with a
binding. In between it does what the expression does by itself, whether that comes to
a value or fails. The binding comes last, so a variable can be assigned an expression
that mentions it: each mention reads what the variable was before.

Results:
1. `Workspace.reckon_map`: tokens can be exchanged for others that are taken in alike.
2. `Evaluator.evaluate_alone`, `Evaluator.evaluate_named`: a line that is an expression
   and a line that assigns it come to the same pass.
3. `Evaluator.evaluate_instead`: the expression reads what the variable was before.
4. `evaluate_assignment`: an assignment beside its expression.
-/

namespace Calculator

variable {α : Type} {arith : Arithmetic α} {store : Store α}

/-- A token, or another in its place if it mentions the variable. -/
def Token.instead (name : String) (token other : Token) : Token :=
  if token = .identifier name then other else token

namespace Workspace

/-- Tokens can be exchanged for others that are taken in alike. -/
theorem readAll_map {exchange : Token → Token} {tokens : List Token}
    (alike : ∀ token ∈ tokens, ∀ position (w : Workspace α),
      read arith store position w (exchange token) = read arith store position w token)
    (position : Nat) (w : Workspace α) :
    readAll arith store position w (tokens.map exchange) =
      readAll arith store position w tokens := by
  induction tokens generalizing position w with
  | nil => rfl
  | cons token tokens ih =>
    obtain ⟨first, later⟩ := List.forall_mem_cons.mp alike
    rw [List.map_cons, readAll, readAll, first]
    exact congrArg _ (funext fun w₁ => ih later (position + 1) w₁)

theorem reckon_map {exchange : Token → Token} {tokens : List Token}
    (alike : ∀ token ∈ tokens, ∀ position (w : Workspace α),
      read arith store position w (exchange token) = read arith store position w token)
    (position : Nat) (w : Workspace α) :
    reckon arith store position w (tokens.map exchange) =
      reckon arith store position w tokens := by
  unfold reckon
  rw [readAll_map alike]

/-- An operand with the value of a variable is taken in like the variable. -/
theorem read_instead {name : String} {old : Token}
    (known : old.operand? arith store = some ((store.lookup name).getD arith.unbound))
    (position : Nat) (w : Workspace α) (token : Token) :
    read arith store position w (token.instead name old) =
      read arith store position w token := by
  unfold Token.instead
  split
  · next mention =>
    rw [mention, read_of_step (.operand known)]
    rfl
  · rfl

end Workspace

namespace Evaluator

variable {expression : List Token} (plain : .equals ∉ expression)
include plain

/-- A line without equals signs is the pass over it, without a target. -/
theorem evaluate_alone :
    ((ofStore store).evaluate arith expression).2 =
      Workspace.reckon arith store 0 Workspace.empty expression >>= fun value =>
        pure ⟨value, none⟩ := by
  change ((ofStore store).evaluate arith (Statement.lead none ++ expression)).2 = _
  exact evaluate_lead arith store (by simp) plain

variable {name : String} (valid : Token.isVariableName name = true)
include valid

/-- An assignment is the pass over its expression, with its target. -/
theorem evaluate_named :
    ((ofStore store).evaluate arith (.identifier name :: .equals :: expression)).2 =
      Workspace.reckon arith store 0 Workspace.empty expression >>= fun value =>
        pure ⟨value, some name⟩ := by
  have assignable : ∀ other ∈ some name, Token.isVariableName other = true := by
    rintro _ ⟨⟩
    exact valid
  change ((ofStore store).evaluate arith (Statement.lead (some name) ++ expression)).2 = _
  exact evaluate_lead arith store assignable plain

/-- What the expression of an assignment reads for the variable is what it was
before. -/
theorem evaluate_instead {old : Token}
    (known : old.operand? arith store = some ((store.lookup name).getD arith.unbound)) :
    ((ofStore store).evaluate arith
        (.identifier name :: .equals :: expression.map fun token => token.instead name old)).2 =
      ((ofStore store).evaluate arith (.identifier name :: .equals :: expression)).2 := by
  have plainInstead : .equals ∉ expression.map fun token => token.instead name old := by
    rw [List.mem_map]
    rintro ⟨token, member, same⟩
    unfold Token.instead at same
    split at same
    · rw [same] at known
      cases known
    · exact plain (same ▸ member)
  rw [evaluate_named plainInstead valid, evaluate_named plain valid,
    Workspace.reckon_map fun token _ position w => Workspace.read_instead known position w token]

end Evaluator

/-- An assignment does what its expression does by itself: both have the same value,
or both fail with the same failure, by the same reductions. They differ in the target,
and when there is a value, in the binding of that variable afterwards. The variable may
be mentioned in the expression, and any operand with the value that it has before the
line may stand there instead. -/
theorem evaluate_assignment (arith : Arithmetic α) (store : Store α) {name : String}
    (valid : Token.isVariableName name = true) {expression : List Token}
    (plain : .equals ∉ expression) :
    let assign := fun expression =>
      (Evaluator.ofStore store).evaluate arith (.identifier name :: .equals :: expression)
    let assigned := assign expression
    let alone := (Evaluator.ofStore store).evaluate arith expression
    ((∃ value, alone.2.outcome = .ok ⟨value, none⟩ ∧ assigned.2.outcome = .ok ⟨value, some name⟩ ∧
        alone.1 = .ofStore store ∧ assigned.1 = .ofStore (store.bind name value) ∧
        Store.Rebound name value store.bindings (store.bind name value).bindings) ∨
      ∃ failure, alone.2.outcome = .error failure ∧ assigned.2.outcome = .error failure ∧
        alone.1 = .ofStore store ∧ assigned.1 = .ofStore store) ∧
    assigned.2.reductions = alone.2.reductions ∧
    ∀ old : Token, old.operand? arith store = some ((store.lookup name).getD arith.unbound) →
      (assign (expression.map fun token => token.instead name old)).2 = assigned.2 := by
  intro assign assigned alone
  let pass := Workspace.reckon arith store 0 Workspace.empty expression
  have onAlone : alone.2 = ⟨pass.reductions, pass.outcome.map fun value => ⟨value, none⟩⟩ := by
    rw [← Traced.bind_pure_eq]
    exact Evaluator.evaluate_alone plain
  have onAssigned :
      assigned.2 = ⟨pass.reductions, pass.outcome.map fun value => ⟨value, some name⟩⟩ := by
    rw [← Traced.bind_pure_eq]
    exact Evaluator.evaluate_named plain valid
  have aloneAfter : alone.1 = .ofStore (Evaluator.storeAfter store alone.2.outcome) := rfl
  have assignedAfter : assigned.1 = .ofStore (Evaluator.storeAfter store assigned.2.outcome) := rfl
  refine ⟨?outcomes, ?reductions, fun old known => Evaluator.evaluate_instead plain valid known⟩
  case outcomes =>
    rw [aloneAfter, assignedAfter, onAlone, onAssigned]
    rcases pass.outcome with failure | value
    · exact .inr ⟨failure, rfl, rfl, rfl, rfl⟩
    · exact .inl ⟨value, rfl, rfl, rfl, rfl, Store.rebound_put name value store.bindings⟩
  case reductions =>
    rw [onAlone, onAssigned]

/-- Where `r` is 2, `r = r * r + 1` does what `r = 2 * 2 + 1` does; and `r = r r` fails as
`r r` does. -/
theorem evaluate_assignment_mentioned :
    let store : Store Float := Store.seeded.bind "r" 2
    let expression : List Token := [.identifier "r", .operator .mul, .identifier "r",
      .operator .add, .number "1"]
    let crowded : List Token := [.identifier "r", .identifier "r"]
    let evaluate := (Evaluator.ofStore store).evaluate .binary64
    Token.isVariableName "r" = true ∧ .equals ∉ expression ∧ .equals ∉ crowded ∧
      (Token.number "2").operand? .binary64 store =
        some ((store.lookup "r").getD Arithmetic.binary64.unbound) ∧
      (evaluate (.identifier "r" :: .equals :: expression)).2 =
        (evaluate [.identifier "r", .equals, .number "2", .operator .mul, .number "2",
          .operator .add, .number "1"]).2 ∧
      (evaluate (.identifier "r" :: .equals :: crowded)).2.outcome =
        .error (.irreducible (.residualOperands 2)) := by
  intro store expression crowded evaluate
  have valid : Token.isVariableName "r" = true := by decide
  have plain : .equals ∉ expression := by decide
  have plainCrowded : .equals ∉ crowded := by decide
  have known : (Token.number "2").operand? .binary64 store =
      some ((store.lookup "r").getD Arithmetic.binary64.unbound) := rfl
  have failed : (evaluate crowded).2.outcome = .error (.irreducible (.residualOperands 2)) := rfl
  obtain ⟨-, -, mentions⟩ := evaluate_assignment .binary64 store valid plain
  obtain ⟨outcomes, -, -⟩ := evaluate_assignment .binary64 store valid plainCrowded
  refine ⟨valid, plain, plainCrowded, known, (mentions _ known).symm, ?_⟩
  rcases outcomes with ⟨value, succeeded, -⟩ | ⟨failure, same, assigned, -⟩
  · cases failed.symm.trans succeeded
  · cases failed.symm.trans same
    exact assigned

end Calculator
