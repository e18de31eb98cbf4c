import Calculator.Proofs.Failure.Grounds
import Calculator.Proofs.Statement.Assignment

/-!
# Lines that go on

A line fails at one of its tokens or at its end. A closing parenthesis that nothing
opened and a numeral that is no number are reported at a token, so the line fails
there whatever follows. A group that is open still and operands that are left are
reported at the end only, when every token has been taken in. More tokens may mend
that, and may bring faults of their own; the faults are theirs then.

A missing operand is of neither kind. The same reductions run in the middle of a line
and at its end, and it comes up in both places.

Results:
1. `Workspace.readAll_of_settles`, `Workspace.exists_readAll_of_completes`: what an
   outcome says about where the line ended.
2. `Workspace.refused_after`: a failure at a token comes up after the tokens that were
   taken in.
3. `evaluate_continued`: the evaluation of a line and that of a longer one.
-/

namespace Calculator

open Line

variable {α : Type} {arith : Arithmetic α} {store : Store α}

/-- `Settles failure`: the failure is reported at a token, and nothing that follows can
change it. -/
inductive Settles : Failure → Prop
  | unmatched : Settles (.malformed .unmatchedClosing)
  | numeral (text : String) : Settles (.malformed (.malformedNumber text))

/-- `Completes outcome`: there is such an outcome only when all tokens have been taken
in. -/
inductive Completes {β : Type} : Except Failure β → Prop
  | value (result : β) : Completes (.ok result)
  | unclosed : Completes (.error (.malformed .unmatchedOpening))
  | residual (count : Nat) : Completes (.error (.irreducible (.residualOperands count)))

theorem Completes.of_map {β γ : Type} {f : β → γ} {outcome : Except Failure β}
    (completes : Completes (outcome.map f)) : Completes outcome := by
  cases outcome with
  | ok result => exact .value result
  | error failure =>
    change Completes (Except.error failure : Except Failure γ) at completes
    cases completes with
    | unclosed => exact .unclosed
    | residual count => exact .residual count

namespace Workspace

variable {position : Nat} {tokens more : List Token} {failure : Failure}

theorem readAll_of_settles {w : Workspace α} (settles : Settles failure)
    (failed : (reckon arith store position w tokens).outcome = .error failure) :
    (readAll arith store position w tokens).outcome = .error failure := by
  rcases Traced.outcome_bind_eq_error.mp failed with first | ⟨_, w₁, -, last⟩
  · exact first
  · have unfinished : Unfinished w₁ failure := unfinished_of_finish last
    cases settles <;> cases unfinished

theorem exists_readAll_of_completes (plain : .equals ∉ tokens)
    (completes : Completes (reckon arith store position empty tokens).outcome) :
    ∃ reductions w, readAll arith store position empty tokens = ⟨reductions, .ok w⟩ := by
  rcases known : reckon arith store position empty tokens with ⟨reductions, failure | value⟩
  · rw [known] at completes
    rcases fails_of_reckon plain (congrArg Traced.outcome known) with
      ⟨_, _, _, _, _, -, -, refused⟩ | ⟨first, w, taken, -⟩
    · cases completes <;> cases refused
    · exact ⟨first, w, taken⟩
  · obtain ⟨first, w, _, taken, -, -⟩ := reckon_eq_ok_iff.mp known
    exact ⟨first, w, taken⟩

/-- A line that fails at a token does the same when more tokens follow. -/
theorem reckon_append_of_error {w : Workspace α}
    (failed : (readAll arith store position w tokens).outcome = .error failure)
    (more : List Token) :
    reckon arith store position w (tokens ++ more) = reckon arith store position w tokens := by
  rw [reckon_append, reckon]
  rcases taken : readAll arith store position w tokens with ⟨reductions, first | w₁⟩
  · rfl
  · rw [taken] at failed
    cases failed

/-- A failure at a token comes up after the tokens that were taken in. -/
theorem refused_after {w : Workspace α} {reductions : List (Reduction α)}
    (plain : .equals ∉ more)
    (taken : readAll arith store position empty tokens = ⟨reductions, .ok w⟩)
    (settles : Settles failure)
    (failed : (reckon arith store position empty (tokens ++ more)).outcome = .error failure) :
    ∃ before token after early w', more = before ++ token :: after ∧
      readAll arith store position empty (tokens ++ before) = ⟨early, .ok w'⟩ ∧
      Refuses arith w' token failure := by
  have middle := readAll_of_settles settles failed
  rw [readAll_append, taken, Traced.mk_ok_bind] at middle
  obtain ⟨before, token, after, late, w', rfl, rest, refused⟩ := readAll_eq_error_iff.mp middle
  have whole : readAll arith store position empty (tokens ++ before) =
      ⟨reductions ++ late, .ok w'⟩ :=
    readAll_append_eq_ok.mpr ⟨reductions, w, late, taken, rest, rfl⟩
  have other : token ≠ .equals := by
    rintro rfl
    exact plain (List.mem_append_right before List.mem_cons_self)
  exact ⟨before, token, after, _, w', rfl, whole, refuses_of_read other refused⟩

end Workspace

namespace Evaluator

variable {tokens : List Token} (plain : .equals ∉ tokens)
include plain

theorem outcome_evaluate_alone :
    ((ofStore store).evaluate arith tokens).2.outcome =
      (Workspace.reckon arith store 0 Workspace.empty tokens).outcome.map
        fun value => ⟨value, none⟩ := by
  rw [evaluate_alone plain, Traced.bind_pure_eq]

theorem outcome_evaluate_eq_error_iff {failure : Failure} :
    ((ofStore store).evaluate arith tokens).2.outcome = .error failure ↔
      (Workspace.reckon arith store 0 Workspace.empty tokens).outcome = .error failure := by
  rw [outcome_evaluate_alone plain]
  cases (Workspace.reckon arith store 0 Workspace.empty tokens).outcome with
  | error first => simp [Except.map]
  | ok value => simp [Except.map]

end Evaluator

/-- A line that is reported for a closing parenthesis that nothing opened, or for a
malformed number, is so reported whatever follows, after the same reductions. If a line
has a value, or is reported for an open group or for operands that are left, then no
fault of these two kinds lies in it when more tokens follow: a malformed number is one of
these, and so is a closing parenthesis that finds no open group. -/
theorem evaluate_continued (arith : Arithmetic α) (store : Store α) {tokens more : List Token}
    (plain : .equals ∉ tokens) (plainMore : .equals ∉ more) :
    let alone := (Evaluator.ofStore store).evaluate arith tokens
    let longer := (Evaluator.ofStore store).evaluate arith (tokens ++ more)
    (∀ failure, Settles failure → alone.2.outcome = .error failure → longer = alone) ∧
    (Completes alone.2.outcome →
      (∀ text, longer.2.outcome = .error (.malformed (.malformedNumber text)) →
        .number text ∉ tokens ∧
          ∃ before after, more = before ++ .number text :: after ∧
            Readable arith (tokens ++ before) ∧ arith.read? text = none) ∧
      (longer.2.outcome = .error (.malformed .unmatchedClosing) →
        ∃ before after, more = before ++ .closing :: after ∧
          (tokens ++ before).count .closing = (tokens ++ before).count .opening)) := by
  intro alone longer
  have plainLonger : .equals ∉ tokens ++ more := by
    rw [List.mem_append, not_or]
    exact ⟨plain, plainMore⟩
  refine ⟨fun failure settles failed => ?settled, fun completes => ?completed⟩
  case settled =>
    have middle : (Workspace.readAll arith store 0 Workspace.empty tokens).outcome =
        .error failure :=
      Workspace.readAll_of_settles settles
        ((Evaluator.outcome_evaluate_eq_error_iff plain).mp failed)
    have same : longer.2 = alone.2 := by
      show ((Evaluator.ofStore store).evaluate arith (tokens ++ more)).2 =
        ((Evaluator.ofStore store).evaluate arith tokens).2
      rw [Evaluator.evaluate_alone plainLonger, Evaluator.evaluate_alone plain,
        Workspace.reckon_append_of_error middle more]
    exact Evaluator.evaluate_eq_of_snd same
  case completed =>
    have passed : Completes (Workspace.reckon arith store 0 Workspace.empty tokens).outcome := by
      have mapped : alone.2.outcome =
          (Workspace.reckon arith store 0 Workspace.empty tokens).outcome.map
            fun value => ⟨value, none⟩ := Evaluator.outcome_evaluate_alone plain
      rw [mapped] at completes
      exact completes.of_map
    obtain ⟨reductions, w, taken⟩ := Workspace.exists_readAll_of_completes plain passed
    constructor
    · intro text failed
      obtain ⟨before, token, after, _, w', rfl, start, refused⟩ :=
        Workspace.refused_after plainMore taken (.numeral text)
          ((Evaluator.outcome_evaluate_eq_error_iff plainLonger).mp failed)
      cases refused with
      | numeral unknown =>
        refine ⟨fun member => ?_, before, after, rfl, Workspace.readable_of_readAll start, unknown⟩
        have known := Workspace.readable_of_readAll taken text member
        rw [unknown] at known
        cases known
    · intro failed
      obtain ⟨before, token, after, _, w', rfl, start, refused⟩ :=
        Workspace.refused_after plainMore taken .unmatched
          ((Evaluator.outcome_evaluate_eq_error_iff plainLonger).mp failed)
      cases refused with
      | unmatched none =>
        have closed := Workspace.open_of_readAll start
        rw [none, Nat.zero_add] at closed
        exact ⟨before, after, rfl, closed⟩

/-- `1 )` is reported in the same way when `( 2` follows. The group of `( 1` can be closed
again, and what is reported then is the numeral or the parenthesis that follows. -/
theorem evaluate_continued_open :
    let closed : List Token := [.number "1", .closing]
    let group : List Token := [.opening, .number "2"]
    let opened : List Token := [.opening, .number "1"]
    let faulty : List Token := [.closing, .operator .add, .number "1.2.3", .closing]
    let crowded : List Token := [.closing, .closing]
    let evaluate := (Evaluator.ofStore Store.seeded).evaluate .binary64
    (.equals ∉ closed ∧ .equals ∉ group ∧
        (evaluate closed).2.outcome = .error (.malformed .unmatchedClosing) ∧
        evaluate (closed ++ group) = evaluate closed) ∧
      .equals ∉ opened ∧ Completes (evaluate opened).2.outcome ∧
      (.equals ∉ faulty ∧
        (evaluate (opened ++ faulty)).2.outcome = .error (.malformed (.malformedNumber "1.2.3")) ∧
        .number "1.2.3" ∉ opened) ∧
      .equals ∉ crowded ∧
        (evaluate (opened ++ crowded)).2.outcome = .error (.malformed .unmatchedClosing) ∧
        ∃ before after, crowded = before ++ .closing :: after ∧
          (opened ++ before).count .closing = (opened ++ before).count .opening := by
  intro closed group opened faulty crowded evaluate
  have plainClosed : .equals ∉ closed := by decide
  have plainGroup : .equals ∉ group := by decide
  have plainOpened : .equals ∉ opened := by decide
  have plainFaulty : .equals ∉ faulty := by decide
  have plainCrowded : .equals ∉ crowded := by decide
  have unmatched : (evaluate closed).2.outcome = .error (.malformed .unmatchedClosing) := rfl
  have still : Completes (evaluate opened).2.outcome := .unclosed
  have malformed : (evaluate (opened ++ faulty)).2.outcome =
    .error (.malformed (.malformedNumber "1.2.3")) := rfl
  have excess : (evaluate (opened ++ crowded)).2.outcome =
    .error (.malformed .unmatchedClosing) := rfl
  obtain ⟨settled, -⟩ := evaluate_continued .binary64 Store.seeded plainClosed plainGroup
  obtain ⟨-, numerals⟩ := evaluate_continued .binary64 Store.seeded plainOpened plainFaulty
  obtain ⟨-, groups⟩ := evaluate_continued .binary64 Store.seeded plainOpened plainCrowded
  exact ⟨⟨plainClosed, plainGroup, unmatched, settled _ .unmatched unmatched⟩, plainOpened,
    still, ⟨plainFaulty, malformed, ((numerals still).1 _ malformed).1⟩, plainCrowded,
    excess, (groups still).2 excess⟩

end Calculator
