import Calculator.Proofs.Statement.Form
import Calculator.Session.Basic

/-!
# Runs of a session

A session that has not been interrupted in the middle of a line is its
variables. What a line does to them is said by the response to it: an assignment
binds, every other response leaves them as they are.

Results:
1. `execute_fst`: the session after a line, from the response to it.
2. `isVariableName_of_assigned`: only variables' names are assigned to.
3. `executeAll_invariant`: what every line keeps, every run keeps.
-/

namespace Calculator

namespace Response

def isAssigned : Response → Bool
  | assigned .. => true
  | _ => false

def storeAfter (store : Store Float) : Response → Store Float
  | assigned name x => store.bind name x
  | _ => store

theorem storeAfter_ofOutcome (store : Store Float) (outcome : Except Failure (Evaluation Float)) :
    (ofOutcome outcome).storeAfter store = Evaluator.storeAfter store outcome := by
  rcases outcome with failure | ⟨x, _ | name⟩
  · rfl
  · rfl
  · rfl

theorem storeAfter_of_not_assigned {response : Response}
    (none : response.isAssigned = false) (store : Store Float) :
    response.storeAfter store = store := by
  cases response with
  | assigned name x => cases none
  | help | quit | listing _ | value _ | invalid => rfl

theorem ofOutcome_eq_assigned {outcome : Except Failure (Evaluation Float)} {name : String}
    {x : Float} : ofOutcome outcome = assigned name x ↔ outcome = .ok ⟨x, some name⟩ := by
  rcases outcome with failure | ⟨y, _ | other⟩
  · simp [ofOutcome]
  · simp [ofOutcome]
  · simp [ofOutcome, and_comm]

end Response

namespace Session

def ofStore (store : Store Float) : Session := ⟨Evaluator.ofStore store⟩

@[simp] theorem store_ofStore (store : Store Float) : (ofStore store).store = store := rfl

/-! ## One line -/

/-- A line that is made of tokens gets the response of their evaluation. -/
theorem execute_of_scan (s : Session) {line source : String}
    (command : Command.ofLine line = .evaluate source) {tokens : List Token}
    (scanned : Token.scan source = .ok tokens) :
    (s.execute line).1 = ⟨(s.evaluator.evaluate .binary64 tokens).1⟩ ∧
      (s.execute line).2.response =
        .ofOutcome (s.evaluator.evaluate .binary64 tokens).2.outcome := by
  have evaluated : s.execute line = s.evaluate source := by rw [execute, command]
  rw [evaluated, evaluate, scanned]
  exact ⟨rfl, rfl⟩

/-- A line that is not made of tokens leaves the session as it is and assigns
nothing. -/
theorem execute_cases (s : Session) (line : String) :
    (∃ source tokens, Command.ofLine line = .evaluate source ∧ Token.scan source = .ok tokens) ∨
      (s.execute line).1 = s ∧ (s.execute line).2.response.isAssigned = false := by
  unfold execute
  split
  · exact .inr ⟨rfl, rfl⟩
  · exact .inr ⟨rfl, rfl⟩
  · exact .inr ⟨rfl, rfl⟩
  · next source command =>
    unfold evaluate
    split
    · exact .inr ⟨rfl, rfl⟩
    · next tokens scanned => exact .inl ⟨source, tokens, command, scanned⟩

/-- The session after a line has the variables that the response says. -/
theorem execute_fst (store : Store Float) (line : String) :
    ((ofStore store).execute line).1 =
      ofStore (((ofStore store).execute line).2.response.storeAfter store) := by
  rcases execute_cases (ofStore store) line with ⟨_, _, command, scanned⟩ | ⟨same, none⟩
  · obtain ⟨next, response⟩ := execute_of_scan (ofStore store) command scanned
    rw [next, response, Response.storeAfter_ofOutcome]
    rfl
  · rw [same, Response.storeAfter_of_not_assigned none]

/-- Only variables' names are assigned to. -/
theorem isVariableName_of_assigned {store : Store Float} {line name : String} {x : Float}
    (assigned : ((ofStore store).execute line).2.response = .assigned name x) :
    Token.isVariableName name = true := by
  rcases execute_cases (ofStore store) line with ⟨_, _, command, scanned⟩ | ⟨-, none⟩
  · obtain ⟨-, response⟩ := execute_of_scan (ofStore store) command scanned
    rw [response, Response.ofOutcome_eq_assigned] at assigned
    exact (Evaluator.outcome_evaluate_eq_ok_iff.mp assigned).1 name rfl
  · rw [assigned] at none
    cases none

/-! ## Many lines -/

theorem executeAll_cons (s : Session) (line : String) (lines : List String) :
    s.executeAll (line :: lines) =
      (((s.execute line).1.executeAll lines).1,
        (s.execute line).2 :: ((s.execute line).1.executeAll lines).2) := by
  rw [executeAll]

theorem length_executeAll (s : Session) (lines : List String) :
    (s.executeAll lines).2.length = lines.length := by
  induction lines generalizing s with
  | nil => rfl
  | cons line lines ih => rw [executeAll_cons, List.length_cons, List.length_cons, ih]

/-- What every line keeps, every run keeps. -/
theorem executeAll_invariant {P : Session → Prop}
    (step : ∀ s line, P s → P (s.execute line).1) {s : Session} (holds : P s)
    (lines : List String) : P (s.executeAll lines).1 := by
  induction lines generalizing s with
  | nil => exact holds
  | cons line lines ih =>
    rw [executeAll_cons]
    exact ih (step s line holds)

end Session

end Calculator
