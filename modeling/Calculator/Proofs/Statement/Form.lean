import Calculator.Proofs.Pass.Failing

/-!
# The form of a line

Which lines are statements, and what the evaluation of a line comes to: the
pass over its expression, or the fault in its form.

Results:
1. `Statement.ofTokens?_eq_ok_iff`: a line is a statement iff it is an
   expression without equals signs, after an assignable name and an equals sign
   if it has a target.
2. `Evaluator.evaluate_cases`: a line has a fault in its form, or comes to the
   pass over its expression.
3. `Evaluator.reckon_of_failure`, `Evaluator.reckon_of_value`: what that pass does
   when the line fails, and when it has a value.
4. `Evaluator.outcome_evaluate_eq_ok_iff`: a line has a value iff it is a
   statement and the pass over its expression has this value.
-/

namespace Calculator

variable {α : Type} {arith : Arithmetic α} {store : Store α}

/-- Whether a failure is one in the form of a line: an equals sign in the wrong
place, or after something that cannot be assigned to. -/
def Failure.inForm : Failure → Bool
  | .malformed (.misplacedEquals _) | .malformed (.invalidTarget _) => true
  | _ => false

namespace Statement

/-- The tokens that follow the equals sign of an assignment, or all tokens of a
line that does not begin like one. -/
def expression : List Token → List Token
  | .identifier _ :: .equals :: tokens => tokens
  | tokens => tokens

theorem not_mem_of_equalsFrom {position : Nat} {tokens : List Token}
    (none : equalsFrom position tokens = []) : .equals ∉ tokens := by
  induction tokens generalizing position with
  | nil => exact List.not_mem_nil
  | cons token tokens ih =>
    unfold equalsFrom at none
    split at none
    · cases none
    · next apart => exact List.not_mem_cons_of_ne_of_not_mem (Ne.symm apart) (ih none)

theorem le_of_mem_equalsFrom {position found : Nat} {tokens : List Token}
    (member : found ∈ equalsFrom position tokens) : position ≤ found := by
  induction tokens generalizing position with
  | nil => cases member
  | cons token tokens ih =>
    unfold equalsFrom at member
    split at member
    · rcases List.mem_cons.mp member with rfl | later
      · exact Nat.le_refl found
      · exact Nat.le_of_succ_le (ih later)
    · exact Nat.le_of_succ_le (ih member)

/-- The only equals sign of a line is its second token. -/
theorem tokens_of_equalsFrom {first : Token} {rest : List Token}
    (single : equalsFrom 0 (first :: rest) = [1]) :
    ∃ expression, rest = .equals :: expression ∧ .equals ∉ expression := by
  have later : equalsFrom 1 rest = [1] := by
    unfold equalsFrom at single
    split at single
    · cases single
    · exact single
  cases rest with
  | nil => cases later
  | cons second expression =>
    unfold equalsFrom at later
    split at later
    · next equal =>
      obtain ⟨-, none⟩ := List.cons.inj later
      exact ⟨expression, by rw [equal], not_mem_of_equalsFrom none⟩
    · have least : 2 ≤ 1 := le_of_mem_equalsFrom (later ▸ List.mem_singleton_self 1)
      exact absurd least (by decide)

theorem target?_eq_some {token : Token} {name : String} :
    target? token = some name ↔ token = .identifier name ∧ Token.isVariableName name = true := by
  constructor
  · intro found
    unfold target? at found
    split at found
    · split at found
      · next valid =>
        obtain rfl := Option.some.inj found
        exact ⟨rfl, valid⟩
      · cases found
    · cases found
  · rintro ⟨rfl, valid⟩
    exact if_pos valid

/-- A line is a statement iff it is an expression without equals signs, after
an assignable name and an equals sign if it has a target. -/
theorem ofTokens?_eq_ok_iff {tokens : List Token} {statement : Statement} :
    ofTokens? tokens = .ok statement ↔
      (∀ name ∈ statement.target, Token.isVariableName name = true) ∧
        statement.start = (lead statement.target).length ∧
        ∃ expression, tokens = lead statement.target ++ expression ∧ .equals ∉ expression := by
  constructor
  · intro known
    obtain ⟨target, start⟩ := statement
    unfold ofTokens? at known
    split at known
    · next none =>
      obtain ⟨rfl, rfl⟩ := Statement.mk.inj (Except.ok.inj known)
      exact ⟨by simp, rfl, _, rfl, not_mem_of_equalsFrom none⟩
    · cases known
    · next first rest single =>
      obtain ⟨expression, rfl, plain⟩ := tokens_of_equalsFrom single
      split at known
      · next name found =>
        obtain ⟨rfl, rfl⟩ := Statement.mk.inj (Except.ok.inj known)
        obtain ⟨rfl, valid⟩ := target?_eq_some.mp found
        exact ⟨by rintro _ ⟨⟩; exact valid, rfl, expression, rfl, plain⟩
      · cases known
    · cases known
  · rintro ⟨assignable, counted, expression, rfl, plain⟩
    rw [ofTokens?_lead assignable plain, ← counted]

theorem inForm_of_ofTokens? {tokens : List Token} {fault : SyntaxFault}
    (known : ofTokens? tokens = .error fault) : (Failure.malformed fault).inForm = true := by
  unfold ofTokens? at known
  split at known
  · cases known
  · cases known
    rfl
  · split at known
    · cases known
    · cases known
      rfl
  · cases known
    rfl

theorem expression_lead (target : Option String) {tokens : List Token}
    (plain : .equals ∉ tokens) : expression (lead target ++ tokens) = tokens := by
  cases target with
  | some name => rfl
  | none =>
    change expression tokens = tokens
    unfold expression
    split
    · next assigned => simp at plain
    · rfl

end Statement

/-- The pass over an expression does not fail in the form of a line. -/
theorem Workspace.inForm_of_reckon {position : Nat} {tokens : List Token} {failure : Failure}
    (plain : .equals ∉ tokens)
    (failed : (reckon arith store position empty tokens).outcome = .error failure) :
    failure.inForm = false := by
  rcases fails_of_reckon plain failed with ⟨_, _, _, _, _, -, -, refused⟩ | ⟨_, _, -, unfinished⟩
  · cases refused with
    | numeral _ | short | unmatched _ => rfl
  · cases unfinished with
    | short | unclosed _ _ | residual _ _ _ => rfl

namespace Evaluator

/-- The evaluator after a line follows from the trace of its evaluation. -/
theorem evaluate_eq_of_snd {tokens others : List Token}
    (same : ((ofStore store).evaluate arith tokens).2 =
      ((ofStore store).evaluate arith others).2) :
    (ofStore store).evaluate arith tokens = (ofStore store).evaluate arith others := by
  refine Prod.ext ?_ same
  rw [evaluate_fst, evaluate_fst, same]

theorem run_of_fault {ev : Evaluator α} {tokens : List Token} {fault : SyntaxFault}
    (known : Statement.ofTokens? tokens = .error fault) :
    ev.run arith tokens = .malformed fault := by
  unfold run
  rw [known]
  rfl

/-- A line has a fault in its form, and nothing of it is read; or it is a statement
and comes to the pass over its expression. -/
theorem evaluate_cases (arith : Arithmetic α) (store : Store α) (tokens : List Token) :
    (∃ fault, (Failure.malformed fault).inForm = true ∧
        ((ofStore store).evaluate arith tokens).2 = .malformed fault) ∨
      ∃ target, (∀ name ∈ target, Token.isVariableName name = true) ∧
        tokens = Statement.lead target ++ Statement.expression tokens ∧
        .equals ∉ Statement.expression tokens ∧
        ((ofStore store).evaluate arith tokens).2 =
          Workspace.reckon arith store 0 Workspace.empty (Statement.expression tokens) >>=
            fun value => pure ⟨value, target⟩ := by
  cases known : Statement.ofTokens? tokens with
  | error fault =>
    exact .inl ⟨fault, Statement.inForm_of_ofTokens? known, run_of_fault known⟩
  | ok statement =>
    obtain ⟨assignable, -, expression, rfl, plain⟩ := Statement.ofTokens?_eq_ok_iff.mp known
    refine .inr ⟨statement.target, assignable, ?_, ?_, ?_⟩
    · rw [Statement.expression_lead _ plain]
    · rwa [Statement.expression_lead _ plain]
    · rw [Statement.expression_lead _ plain]
      exact evaluate_lead arith store assignable plain

/-- A line that fails has a fault in its form, and nothing is reduced; or the pass over
its expression fails in the same way. -/
theorem reckon_of_failure {tokens : List Token} {failure : Failure}
    (failed : ((ofStore store).evaluate arith tokens).2.outcome = .error failure) :
    (failure.inForm = true ∧ ((ofStore store).evaluate arith tokens).2.reductions = []) ∨
      (failure.inForm = false ∧ .equals ∉ Statement.expression tokens ∧
        (Workspace.reckon arith store 0 Workspace.empty (Statement.expression tokens)).outcome =
          .error failure) := by
  rcases evaluate_cases arith store tokens with
    ⟨fault, inForm, known⟩ | ⟨_, -, -, plain, known⟩
  · rw [known] at failed
    cases failed
    rw [known]
    exact .inl ⟨inForm, rfl⟩
  · rw [known] at failed
    rcases Traced.outcome_bind_eq_error.mp failed with first | ⟨_, _, -, later⟩
    · exact .inr ⟨Workspace.inForm_of_reckon plain first, plain, first⟩
    · cases later

/-- A line that has a value is a statement, and the pass over its expression makes
the same reductions and has the same value. -/
theorem reckon_of_value {tokens : List Token} {value : α} {target : Option String}
    (has : ((ofStore store).evaluate arith tokens).2.outcome = .ok ⟨value, target⟩) :
    (∀ name ∈ target, Token.isVariableName name = true) ∧
      tokens = Statement.lead target ++ Statement.expression tokens ∧
      .equals ∉ Statement.expression tokens ∧
      Workspace.reckon arith store 0 Workspace.empty (Statement.expression tokens) =
        ⟨((ofStore store).evaluate arith tokens).2.reductions, .ok value⟩ := by
  rcases evaluate_cases arith store tokens with
    ⟨_, -, known⟩ | ⟨named, assignable, whole, plain, known⟩
  · rw [known] at has
    cases has
  · obtain ⟨reductions, done⟩ : ∃ reductions,
        ((ofStore store).evaluate arith tokens).2 = ⟨reductions, .ok ⟨value, target⟩⟩ :=
      ⟨_, by rw [← has]⟩
    rw [done] at known ⊢
    obtain ⟨early, found, _, reckoned, single, rfl⟩ := Traced.bind_eq_ok.mp known.symm
    obtain ⟨equal, rfl⟩ := Traced.pure_eq_ok.mp single
    cases equal
    rw [List.append_nil]
    exact ⟨assignable, whole, plain, reckoned⟩

/-- A line has a value iff it is a statement and the pass over its expression
has this value. -/
theorem outcome_evaluate_eq_ok_iff {tokens : List Token} {value : α} {target : Option String} :
    ((ofStore store).evaluate arith tokens).2.outcome = .ok ⟨value, target⟩ ↔
      (∀ name ∈ target, Token.isVariableName name = true) ∧
        ∃ expression, tokens = Statement.lead target ++ expression ∧ .equals ∉ expression ∧
          (Workspace.reckon arith store 0 Workspace.empty expression).outcome = .ok value := by
  constructor
  · intro outcome
    obtain ⟨assignable, whole, plain, reckoned⟩ := reckon_of_value outcome
    exact ⟨assignable, _, whole, plain, congrArg Traced.outcome reckoned⟩
  · rintro ⟨assignable, expression, rfl, plain, worth⟩
    rw [outcome_evaluate_lead arith store assignable plain, worth]
    rfl

end Evaluator

end Calculator
