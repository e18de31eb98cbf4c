import Calculator.Proofs.InPlace.Run

/-!
# A line happens as a whole or not at all

Whatever lines were evaluated before, a line starts with empty stacks and leaves
empty stacks. A line that fails or assigns nothing leaves the variables as they
were; an assignment changes the one variable it names, and its value is computed
with the variables from before.

Results:
1. `Store.rebound_put`: a binding overwrites one entry or adds one at the end.
2. `evaluate_atomic`: what a line leaves, after any lines before it.
-/

namespace Calculator

variable {α : Type} {arith : Arithmetic α}

/-- `Rebound name value before after`: the first binding of the name has got the
value, or, if there is none, one has been added at the end. -/
inductive Store.Rebound (name : String) (value : α) :
    List (Binding α) → List (Binding α) → Prop
  | overwritten (front : List (Binding α)) (old : α) (back : List (Binding α)) :
      name ∉ front.map (·.name) →
      Rebound name value (front ++ ⟨name, old⟩ :: back) (front ++ ⟨name, value⟩ :: back)
  | appended {bindings : List (Binding α)} :
      name ∉ bindings.map (·.name) → Rebound name value bindings (bindings ++ [⟨name, value⟩])

namespace Store

theorem Rebound.cons {name : String} {value : α} {b : Binding α} {before after : List (Binding α)}
    (rebound : Rebound name value before after) (apart : b.name ≠ name) :
    Rebound name value (b :: before) (b :: after) := by
  cases rebound with
  | overwritten front old back first =>
    exact .overwritten (b :: front) old back
      (List.not_mem_cons_of_ne_of_not_mem apart.symm first)
  | appended unbound => exact .appended (List.not_mem_cons_of_ne_of_not_mem apart.symm unbound)

theorem rebound_put (name : String) (value : α) (bindings : List (Binding α)) :
    Rebound name value bindings (put name value bindings) := by
  induction bindings with
  | nil => exact .appended List.not_mem_nil
  | cons b bindings ih =>
    unfold put
    split
    · next bound =>
      obtain ⟨_, old⟩ := b
      subst bound
      exact .overwritten [] old bindings List.not_mem_nil
    · next apart => exact ih.cons apart

end Store

namespace Evaluator

def evaluateAll (arith : Arithmetic α) (ev : Evaluator α) (lines : List (List Token)) :
    Evaluator α :=
  lines.foldl (fun ev tokens => (ev.evaluate arith tokens).1) ev

theorem eq_ofStore {ev : Evaluator α} (idle : ev.workspace = Workspace.empty) :
    ev = ofStore ev.store := by
  obtain ⟨store, w⟩ := ev
  exact congrArg (Evaluator.mk store) idle

/-- Lines that start with empty stacks leave empty stacks. -/
theorem evaluateAll_workspace {ev : Evaluator α} (idle : ev.workspace = Workspace.empty)
    (lines : List (List Token)) : (ev.evaluateAll arith lines).workspace = Workspace.empty := by
  induction lines generalizing ev with
  | nil => exact idle
  | cons tokens lines ih => exact ih rfl

end Evaluator

/-- After any lines, a line starts and ends with empty stacks, in place as well.
If it fails or has no target, the variables stay as they are; if it has one,
this variable is bound to the value and nothing else changes. The value is
computed with the variables from before the line. -/
theorem evaluate_atomic (arith : Arithmetic α) (store : Store α)
    (earlier : List (List Token)) (tokens : List Token) :
    let ev := (Evaluator.ofStore store).evaluateAll arith earlier
    let next := (ev.evaluate arith tokens).1
    let outcome := (ev.evaluate arith tokens).2.outcome
    InPlace.evaluate arith tokens ev = (next, outcome) ∧
      (∃ left, InPlace.reduce arith tokens ev = InPlace.ended outcome ⟨ev.store, left⟩) ∧
      ev.workspace = Workspace.empty ∧ next.workspace = Workspace.empty ∧
      (∀ failure, outcome = .error failure → next.store = ev.store) ∧
      (∀ value, outcome = .ok ⟨value, none⟩ → next.store = ev.store) ∧
      (∀ value name, outcome = .ok ⟨value, some name⟩ →
        Store.Rebound name value ev.store.bindings next.store.bindings) ∧
      ∀ value target, outcome = .ok ⟨value, target⟩ →
        ∃ expression, tokens = Statement.lead target ++ expression ∧
          (Workspace.reckon arith ev.store 0 Workspace.empty expression).outcome = .ok value := by
  intro ev next outcome
  have idle : ev.workspace = Workspace.empty := Evaluator.evaluateAll_workspace rfl earlier
  have stored : next.store = Evaluator.storeAfter ev.store outcome := rfl
  refine ⟨InPlace.evaluate_eq arith tokens ev, InPlace.reduce_eq arith tokens ev, idle, rfl,
    ?failed, ?plain, ?assigned, ?computed⟩
  case failed =>
    intro failure failed
    rw [stored, failed]
    rfl
  case plain =>
    intro value plain
    rw [stored, plain]
    rfl
  case assigned =>
    intro value name assigned
    rw [stored, assigned]
    exact Store.rebound_put name value ev.store.bindings
  case computed =>
    intro value target computed
    have fresh : ev = Evaluator.ofStore ev.store := Evaluator.eq_ofStore idle
    have found : ((Evaluator.ofStore ev.store).evaluate arith tokens).2.outcome =
        .ok ⟨value, target⟩ := fresh ▸ computed
    obtain ⟨-, expression, form, -, worth⟩ := Evaluator.outcome_evaluate_eq_ok_iff.mp found
    exact ⟨expression, form, worth⟩

end Calculator
