import Calculator.Proofs.Statement.Form
import Mathlib.Data.List.Basic

/-!
# Where equals signs stand

The places of the equals signs decide the form of a line, before any token is
read. The first one must be the second token. A second one is reported before
anything is said about the token that would be assigned to, and a fault in the form
before all that is wrong with the expression. What is left for the pass has no
equals sign, so that the pass never has to report one.

Results:
1. `Statement.equalsFrom_eq_idxsOf`: the places are those of all equals signs.
2. `Statement.ofTokens?_of_first`, `Statement.ofTokens?_of_second`,
   `Statement.ofTokens?_of_single`: the form of a line with equals signs.
3. `Evaluator.targets_of_statement`: a statement has no fault in its form.
4. `Evaluator.not_takes_equals`: no equals sign is taken into the workspace.
5. `evaluate_equals`: what equals signs do to a line.
-/

namespace Calculator

variable {α : Type} {arith : Arithmetic α} {store : Store α}

theorem Token.isVariableName_iff {name : String} :
    isVariableName name = true ↔ name ≠ "" ∧ ∀ c ∈ name.toList, c.isAlpha = true := by
  have nonempty : name.toList = [] ↔ name = "" := by
    rw [← String.toList_inj]
    rfl
  rw [isVariableName, Bool.and_eq_true, Bool.not_eq_true', List.isEmpty_eq_false_iff, ne_eq,
    nonempty, List.all_eq_true]

namespace Statement

/-- The places that decide the form of a line are those of all its equals signs. -/
theorem equalsFrom_eq_idxsOf (position : Nat) (tokens : List Token) :
    equalsFrom position tokens = List.idxsOf .equals tokens position := by
  induction tokens generalizing position with
  | nil => rfl
  | cons token tokens ih => simp [equalsFrom, List.idxsOf_cons, ih]

/-- A first equals sign that is not the second token is the fault. -/
theorem ofTokens?_of_first {tokens : List Token} {first : Nat} {later : List Nat}
    (places : equalsFrom 0 tokens = first :: later) (apart : first ≠ 1) :
    ofTokens? tokens = .error (.misplacedEquals first) := by
  unfold ofTokens?
  rw [places]
  obtain _ | _ | first := first
  · rfl
  · exact absurd rfl apart
  · rfl

/-- A second equals sign is the fault, whatever the first token is. -/
theorem ofTokens?_of_second {tokens : List Token} {second : Nat} {later : List Nat}
    (places : equalsFrom 0 tokens = 1 :: second :: later) :
    ofTokens? tokens = .error (.misplacedEquals second) := by
  unfold ofTokens?
  rw [places]
  rfl

/-- Where the only equals sign is the second token, the first one decides. -/
theorem ofTokens?_of_single {token : Token} {tokens : List Token}
    (places : equalsFrom 0 (token :: tokens) = [1]) :
    ofTokens? (token :: tokens) =
      match target? token with
      | some name => .ok ⟨some name, 2⟩
      | none => .error (.invalidTarget token.text) := by
  unfold ofTokens?
  rw [places]
  rfl

theorem target?_eq_none {token : Token}
    (other : ∀ name, token = .identifier name → Token.isVariableName name ≠ true) :
    target? token = none := by
  cases found : target? token with
  | none => rfl
  | some name =>
    obtain ⟨named, valid⟩ := target?_eq_some.mp found
    exact absurd valid (other name named)

theorem plain_of_ofTokens? {tokens : List Token} {statement : Statement}
    (known : ofTokens? tokens = .ok statement) : .equals ∉ tokens.drop statement.start := by
  obtain ⟨-, start, expression, rfl, plain⟩ := ofTokens?_eq_ok_iff.mp known
  rwa [start, List.drop_left]

end Statement

namespace Evaluator

/-- `Targets target outcome`: the line has no fault in its form, and its value, if it
has one, is for this target. -/
def Targets (target : Option String) (outcome : Except Failure (Evaluation α)) : Prop :=
  (∀ failure, outcome = .error failure →
      (∀ position, failure ≠ .malformed (.misplacedEquals position)) ∧
        ∀ text, failure ≠ .malformed (.invalidTarget text)) ∧
    ∀ evaluation, outcome = .ok evaluation → evaluation.target = target

/-- `Takes arith store tokens position token`: the evaluation of a line comes to the
token at this position, to take it into the workspace. The line is a statement, and
the tokens of its expression before this one have been taken in. -/
def Takes (arith : Arithmetic α) (store : Store α) (tokens : List Token) (position : Nat)
    (token : Token) : Prop :=
  ∃ statement before after reductions w,
    Statement.ofTokens? tokens = .ok statement ∧
      tokens.drop statement.start = before ++ token :: after ∧
      position = statement.start + before.length ∧
      Workspace.readAll arith store statement.start Workspace.empty before = ⟨reductions, .ok w⟩

theorem not_takes_equals (tokens : List Token) (position : Nat) :
    ¬ Takes arith store tokens position .equals := by
  rintro ⟨statement, before, after, _, _, known, rest, -, -⟩
  have plain := Statement.plain_of_ofTokens? known
  rw [rest] at plain
  exact plain (List.mem_append_right before List.mem_cons_self)

theorem targets_of_statement {tokens : List Token} {statement : Statement}
    (known : Statement.ofTokens? tokens = .ok statement) :
    Targets statement.target ((ofStore store).evaluate arith tokens).2.outcome := by
  have whole : ((ofStore store).evaluate arith tokens).2 =
      Workspace.reckon arith store statement.start Workspace.empty (tokens.drop statement.start) >>=
        fun value => pure ⟨value, statement.target⟩ := run_of_statement known
  have inForm : ∀ failure, (Workspace.reckon arith store statement.start Workspace.empty
      (tokens.drop statement.start)).outcome = .error failure → failure.inForm = false :=
    fun _ => Workspace.inForm_of_reckon (Statement.plain_of_ofTokens? known)
  rw [whole, Traced.bind_pure_eq]
  generalize (Workspace.reckon arith store statement.start Workspace.empty
    (tokens.drop statement.start)).outcome = outcome at inForm ⊢
  cases outcome with
  | error failure =>
    have other : failure.inForm = false := inForm failure rfl
    constructor
    · rintro _ ⟨⟩
      constructor
      · rintro position rfl
        cases other
      · rintro text rfl
        cases other
    · rintro _ ⟨⟩
  | ok value =>
    constructor
    · rintro _ ⟨⟩
    · rintro _ ⟨⟩
      rfl

end Evaluator

/-- What equals signs do to a line, by their places. Without any, the line has no
fault in its form and assigns nothing. A first one that is not the second token is
the fault, and so is a second one, whatever the line begins with. Where the only one
is the second token, the line assigns to the first if that is one or more letters and
nothing else; any other first token is the fault. Whatever else is wrong with the line
is not looked at before, and no equals sign is ever taken into the workspace. -/
theorem evaluate_equals (arith : Arithmetic α) (store : Store α) (tokens : List Token) :
    let places := List.idxsOf .equals tokens
    let traced := ((Evaluator.ofStore store).evaluate arith tokens).2
    (places = [] → Evaluator.Targets none traced.outcome) ∧
    (∀ first later, places = first :: later → first ≠ 1 →
      traced = .malformed (.misplacedEquals first)) ∧
    (∀ second later, places = 1 :: second :: later →
      traced = .malformed (.misplacedEquals second)) ∧
    (places = [1] → ∃ token expression, tokens = token :: .equals :: expression ∧
      (∀ name, token = .identifier name → name ≠ "" → (∀ c ∈ name.toList, c.isAlpha = true) →
        Evaluator.Targets (some name) traced.outcome) ∧
      ((∀ name, token = .identifier name → name ≠ "" → ¬ ∀ c ∈ name.toList, c.isAlpha = true) →
        traced = .malformed (.invalidTarget token.text))) ∧
    ∀ position, ¬ Evaluator.Takes arith store tokens position .equals := by
  intro places traced
  have counted : Statement.equalsFrom 0 tokens = places := Statement.equalsFrom_eq_idxsOf 0 tokens
  rw [← counted]
  refine ⟨fun absent => ?absent, fun first later several apart => ?first,
    fun second later several => ?second, fun single => ?single,
    Evaluator.not_takes_equals tokens⟩
  case absent =>
    have plain : .equals ∉ tokens := Statement.not_mem_of_equalsFrom absent
    have form : Statement.ofTokens? (Statement.lead none ++ tokens) = .ok ⟨none, 0⟩ :=
      Statement.ofTokens?_lead (by simp) plain
    exact Evaluator.targets_of_statement form
  case first =>
    exact Evaluator.run_of_fault (Statement.ofTokens?_of_first several apart)
  case second =>
    exact Evaluator.run_of_fault (Statement.ofTokens?_of_second several)
  case single =>
    cases tokens with
    | nil => cases single
    | cons token rest =>
      have form := Statement.ofTokens?_of_single single
      obtain ⟨expression, rfl, -⟩ := Statement.tokens_of_equalsFrom single
      refine ⟨token, expression, rfl, ?valid, ?invalid⟩
      case valid =>
        rintro name rfl nonempty letters
        have valid := Token.isVariableName_iff.mpr ⟨nonempty, letters⟩
        rw [Statement.target?_eq_some.mpr ⟨rfl, valid⟩] at form
        exact Evaluator.targets_of_statement form
      case invalid =>
        intro other
        have none : Statement.target? token = none := by
          refine Statement.target?_eq_none fun name named valid => ?_
          obtain ⟨nonempty, letters⟩ := Token.isVariableName_iff.mp valid
          exact other name named nonempty letters
        rw [none] at form
        exact Evaluator.run_of_fault form

/-- A numeral that is none and a parenthesis that nothing opened come before the equals
signs of the first line, and stand where a name should in the second; the equals
signs are reported. Without the second one, the name is. In the last line the equals
sign is in place and the pass comes to the parenthesis. -/
theorem evaluate_equals_first :
    let crowded : List Token := [.number "1.2.3", .closing, .equals, .equals]
    let repeated : List Token := [.closing, .equals, .number "1.2.3", .equals]
    let nameless : List Token := [.identifier "x2", .equals, .number "1.2.3"]
    let assigned : List Token := [.identifier "x", .equals, .closing]
    let traced := fun tokens => ((Evaluator.ofStore Store.seeded).evaluate .binary64 tokens).2
    (List.idxsOf .equals crowded = [2, 3] ∧
        traced crowded = .malformed (.misplacedEquals 2)) ∧
      (List.idxsOf .equals repeated = [1, 3] ∧
        traced repeated = .malformed (.misplacedEquals 3)) ∧
      (List.idxsOf .equals nameless = [1] ∧
        traced nameless = .malformed (.invalidTarget "x2")) ∧
      List.idxsOf .equals assigned = [1] ∧
        Evaluator.Targets (some "x") (traced assigned).outcome ∧
        Evaluator.Takes .binary64 Store.seeded assigned 2 .closing := by
  intro crowded repeated nameless assigned traced
  obtain ⟨-, first, -⟩ := evaluate_equals .binary64 Store.seeded crowded
  obtain ⟨-, -, second, -⟩ := evaluate_equals .binary64 Store.seeded repeated
  obtain ⟨-, -, -, invalid, -⟩ := evaluate_equals .binary64 Store.seeded nameless
  obtain ⟨-, -, -, valid, -⟩ := evaluate_equals .binary64 Store.seeded assigned
  obtain ⟨_, _, begins, -, rejected⟩ := invalid rfl
  obtain ⟨rfl, -⟩ := List.cons.inj begins
  obtain ⟨_, _, begins, accepted, -⟩ := valid rfl
  obtain ⟨rfl, -⟩ := List.cons.inj begins
  refine ⟨⟨rfl, first 2 [3] rfl (by decide)⟩, ⟨rfl, second 3 [] rfl⟩, ⟨rfl, rejected ?_⟩, rfl,
    accepted "x" rfl (by simp) (by simp), ?_⟩
  · rintro name ⟨⟩ -
    simp
  · exact ⟨⟨some "x", 2⟩, [], [], [], Workspace.empty, rfl, rfl, rfl, rfl⟩

end Calculator
