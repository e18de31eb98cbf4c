import Calculator.Proofs.Statement.Equals

/-!
# Ignored tokens

The pass steps over an ignored token, but the token keeps its place. The form of a
line is read off the places of its equals signs, all ignored tokens counted, before
the pass begins. Taking ignored tokens out of an expression therefore changes nothing
about its line; taking them out before an equals sign can.

Results:
1. `Statement.form_cases`: by the places of its equals signs, a line is one of three.
2. `Statement.ofTokens?_eq_misplaced_iff`: when an equals sign is reported, and where.
3. `evaluate_filter_ignored`: what ignored tokens do to a line.
-/

namespace Calculator

variable {α : Type} {arith : Arithmetic α} {store : Store α}

theorem Token.length_eq_kept_add_ignored (tokens : List Token) :
    tokens.length = (tokens.filter (· ≠ .ignored)).length + tokens.count .ignored := by
  have ignored :
      (fun token => decide (¬ decide (token ≠ Token.ignored) = true)) = (· == .ignored) :=
    funext fun token => by cases token <;> rfl
  rw [List.length_eq_countP_add_countP (· ≠ Token.ignored), List.countP_eq_length_filter,
    List.count_eq_countP, ← ignored]

namespace Statement

/-- The places of the equals signs before another one, its own, and those after it. -/
theorem equalsFrom_append (position : Nat) (before after : List Token) :
    equalsFrom position (before ++ .equals :: after) =
      equalsFrom position before ++ (position + before.length) ::
        equalsFrom (position + before.length + 1) after := by
  induction before generalizing position with
  | nil => rfl
  | cons token before ih =>
    have further : position + 1 + before.length = position + (before.length + 1) := by omega
    rw [List.cons_append, equalsFrom, equalsFrom, ih, further]
    split <;> rfl

/-- An equals sign that is the second token and the only one is at place 1. -/
theorem equalsFrom_second {token : Token} {expression : List Token}
    (plain : .equals ∉ token :: expression) :
    equalsFrom 0 (token :: .equals :: expression) = [1] := by
  obtain ⟨other, plain⟩ := not_or.mp (List.mem_cons.not.mp plain)
  rw [equalsFrom, if_neg (Ne.symm other), equalsFrom, if_pos rfl, equalsFrom_eq_nil plain]

/-- `Misplaced before`: an equals sign that stands after these tokens is reported. It is
the first one and not the second token of its line, or it is the second one and the
first is in place. -/
def Misplaced (before : List Token) : Prop :=
  (.equals ∉ before ∧ before.length ≠ 1) ∨
    ∃ token between, before = token :: .equals :: between ∧ .equals ∉ token :: between

/-- A line has no equals sign, or only one, as its second token, or one that is
misplaced. -/
theorem form_cases (tokens : List Token) :
    .equals ∉ tokens ∨
      (∃ token expression, tokens = token :: .equals :: expression ∧
        .equals ∉ token :: expression) ∨
      ∃ before after, tokens = before ++ .equals :: after ∧ Misplaced before := by
  by_cases present : .equals ∈ tokens
  swap
  · exact .inl present
  obtain ⟨before, after, rfl, plain⟩ := List.eq_append_cons_of_mem present
  by_cases second : before.length = 1
  swap
  · exact .inr (.inr ⟨before, after, rfl, .inl ⟨plain, second⟩⟩)
  obtain ⟨token, rfl⟩ := List.length_eq_one_iff.mp second
  have other : .equals ≠ token := List.ne_of_not_mem_cons plain
  by_cases again : .equals ∈ after
  · obtain ⟨between, rest, rfl, apart⟩ := List.eq_append_cons_of_mem again
    have repeated : Misplaced (token :: .equals :: between) :=
      .inr ⟨token, between, rfl, List.not_mem_cons_of_ne_of_not_mem other apart⟩
    exact .inr (.inr ⟨_, rest, rfl, repeated⟩)
  · exact .inr (.inl ⟨token, after, rfl, List.not_mem_cons_of_ne_of_not_mem other again⟩)

theorem ofTokens?_of_misplaced {before : List Token} (misplaced : Misplaced before)
    (after : List Token) :
    ofTokens? (before ++ .equals :: after) = .error (.misplacedEquals before.length) := by
  have places := equalsFrom_append 0 before after
  rw [Nat.zero_add] at places
  rcases misplaced with ⟨plain, apart⟩ | ⟨token, between, rfl, plain⟩
  · rw [equalsFrom_eq_nil plain] at places
    exact ofTokens?_of_first places apart
  · rw [equalsFrom_second plain] at places
    exact ofTokens?_of_second places

/-- An equals sign is reported iff it is misplaced, at the number of tokens before it. -/
theorem ofTokens?_eq_misplaced_iff {tokens : List Token} {position : Nat} :
    ofTokens? tokens = .error (.misplacedEquals position) ↔
      ∃ before after, tokens = before ++ .equals :: after ∧ Misplaced before ∧
        position = before.length := by
  constructor
  · intro known
    rcases form_cases tokens with
      plain | ⟨token, expression, rfl, plain⟩ | ⟨before, after, rfl, misplaced⟩
    · have form : ofTokens? (lead none ++ tokens) = .ok ⟨none, 0⟩ := ofTokens?_lead (by simp) plain
      cases form.symm.trans known
    · rw [ofTokens?_of_single (equalsFrom_second plain)] at known
      split at known <;> cases known
    · rw [ofTokens?_of_misplaced misplaced after] at known
      cases known
      exact ⟨before, after, rfl, misplaced, rfl⟩
  · rintro ⟨before, after, rfl, misplaced, rfl⟩
    exact ofTokens?_of_misplaced misplaced after

end Statement

namespace Evaluator

/-- A line fails at an equals sign iff that is the fault in its form. -/
theorem outcome_evaluate_eq_misplaced_iff {tokens : List Token} {position : Nat} :
    ((ofStore store).evaluate arith tokens).2.outcome =
        .error (.malformed (.misplacedEquals position)) ↔
      Statement.ofTokens? tokens = .error (.misplacedEquals position) := by
  constructor
  · intro failed
    cases known : Statement.ofTokens? tokens with
    | ok statement =>
      have targets : Targets statement.target ((ofStore store).evaluate arith tokens).2.outcome :=
        targets_of_statement known
      exact absurd rfl ((targets.1 _ failed).1 position)
    | error fault =>
      have whole : ((ofStore store).evaluate arith tokens).2 = .malformed fault :=
        run_of_fault known
      rw [whole] at failed
      cases failed
      rfl
  · intro known
    have whole : ((ofStore store).evaluate arith tokens).2 =
        .malformed (.misplacedEquals position) := run_of_fault known
    rw [whole]
    rfl

/-- Ignored tokens can be taken out of an expression, whatever stands before the equals
sign of its line. -/
theorem evaluate_lead_filter (arith : Arithmetic α) (store : Store α) (target : Option String)
    {tokens : List Token} (plain : .equals ∉ tokens) :
    (ofStore store).evaluate arith (Statement.lead target ++ tokens.filter (· ≠ .ignored)) =
      (ofStore store).evaluate arith (Statement.lead target ++ tokens) := by
  have kept : .equals ∉ tokens.filter (· ≠ .ignored) :=
    fun member => plain (List.mem_of_mem_filter member)
  refine evaluate_eq_of_snd ?_
  by_cases assignable : ∀ name ∈ target, Token.isVariableName name = true
  · rw [evaluate_lead arith store assignable kept, evaluate_lead arith store assignable plain,
      Workspace.reckon_filter_ignored plain]
  · obtain ⟨name, rfl, other⟩ : ∃ name, target = some name ∧ Token.isVariableName name ≠ true := by
      simpa using assignable
    have unnamed : Statement.target? (.identifier name) = none := if_neg other
    have refused : ∀ expression : List Token, .equals ∉ expression →
        Statement.ofTokens? (Statement.lead (some name) ++ expression) =
          .error (.invalidTarget name) := by
      intro expression absent
      have apart : .equals ∉ Token.identifier name :: expression :=
        List.not_mem_cons_of_ne_of_not_mem (by simp) absent
      have form := Statement.ofTokens?_of_single (Statement.equalsFrom_second apart)
      rw [unnamed] at form
      exact form
    exact (run_of_fault (refused _ kept)).trans (run_of_fault (refused _ plain)).symm

end Evaluator

/-- What ignored tokens do to a line. In the expression of a line, assigned or not, they
can be left out: the value and its target or the failure, the reductions in their order
and the variables afterwards stay the same, whether or not the name before the equals
sign can be assigned to. The place of a misplaced equals sign, though, counts all tokens
before it, those that are ignored and those that are not. -/
theorem evaluate_filter_ignored (arith : Arithmetic α) (store : Store α) :
    (∀ (target : Option String) (tokens : List Token), .equals ∉ tokens →
      (Evaluator.ofStore store).evaluate arith
          (Statement.lead target ++ tokens.filter (· ≠ .ignored)) =
        (Evaluator.ofStore store).evaluate arith (Statement.lead target ++ tokens)) ∧
    ∀ (tokens : List Token) (position : Nat),
      ((Evaluator.ofStore store).evaluate arith tokens).2.outcome =
          .error (.malformed (.misplacedEquals position)) ↔
        ∃ before after, tokens = before ++ .equals :: after ∧ Statement.Misplaced before ∧
          position = (before.filter (· ≠ .ignored)).length + before.count .ignored := by
  refine ⟨fun target tokens plain => Evaluator.evaluate_lead_filter arith store target plain,
    fun tokens position => ?_⟩
  rw [Evaluator.outcome_evaluate_eq_misplaced_iff, Statement.ofTokens?_eq_misplaced_iff]
  exact exists₂_congr fun before _ => by rw [← Token.length_eq_kept_add_ignored before]

/-- The ignored tokens of an expression make no difference to `x =` before it, and none to
`x2 =`, which is refused. An ignored token before an equals sign does: the line with it
is refused at 2 and the line without it is an assignment. -/
theorem evaluate_filter_ignored_spaced :
    let spaced : List Token := [.ignored, .number "1", .ignored, .operator .add, .number "2"]
    let bare : List Token := [.number "1", .operator .add, .number "2"]
    let indented : List Token := [.ignored, .identifier "x", .equals, .number "1"]
    let ev := Evaluator.ofStore Store.seeded
    .equals ∉ spaced ∧
      ev.evaluate .binary64 (.identifier "x" :: .equals :: bare) =
        ev.evaluate .binary64 (.identifier "x" :: .equals :: spaced) ∧
      ev.evaluate .binary64 (.identifier "x2" :: .equals :: bare) =
        ev.evaluate .binary64 (.identifier "x2" :: .equals :: spaced) ∧
      (ev.evaluate .binary64 indented).2.outcome = .error (.malformed (.misplacedEquals 2)) ∧
      Statement.ofTokens? (indented.filter (· ≠ .ignored)) = .ok ⟨some "x", 2⟩ := by
  intro spaced bare indented ev
  have plain : .equals ∉ spaced := by decide
  obtain ⟨expression, places⟩ := evaluate_filter_ignored .binary64 Store.seeded
  have apart : Statement.Misplaced [.ignored, .identifier "x"] := .inl (by decide)
  exact ⟨plain, expression (some "x") spaced plain, expression (some "x2") spaced plain,
    (places indented 2).mpr ⟨_, [.number "1"], rfl, apart, rfl⟩, rfl⟩

end Calculator
