import Calculator.Proofs.Pass.Accounts
import Calculator.Proofs.Session.Names

/-!
# What the log says of a line

Events come from the scan, from every application of an operator and from the end
of the evaluation, and a line can be left at any of these points. The log of a line
has one of three shapes: nothing for a command, one event for a text that is not
made of tokens, and else one event for the scan, one for each reduction and one for
the end.

Results:
1. `Evaluator.reductions_of_ok`, `Evaluator.reductions_of_inForm`: the reductions of
   a line that has a value, and of one that is no statement.
2. `Session.execute_of_letter`, `Session.execute_of_other`: the log of a command, and
   where that of any other line comes from.
3. `events_execute`: the log of a line in every session that lines lead to.
-/

namespace Calculator

namespace Evaluator

variable {α : Type} {arith : Arithmetic α} {store : Store α} {tokens : List Token}

/-- A line that has a value makes one reduction for each operator, and the last one
gives the value. -/
theorem reductions_of_ok {value : α} {target : Option String}
    (has : ((ofStore store).evaluate arith tokens).2.outcome = .ok ⟨value, target⟩) :
    ((ofStore store).evaluate arith tokens).2.reductions.length =
        tokens.countP Token.isOperator ∧
      ∀ r ∈ ((ofStore store).evaluate arith tokens).2.reductions.getLast?, r.value = value := by
  obtain ⟨-, whole, -, reckoned⟩ := reckon_of_value has
  have noOperator : (Statement.lead target).countP Token.isOperator = 0 := by
    cases target with
    | none => rfl
    | some name => rfl
  have counted : tokens.countP Token.isOperator =
      (Statement.expression tokens).countP Token.isOperator := by
    rw [congrArg (List.countP Token.isOperator) whole, List.countP_append, noOperator,
      Nat.zero_add]
  rw [counted]
  exact Workspace.reckon_reductions reckoned

/-- A line that fails in its form makes no reduction. -/
theorem reductions_of_inForm {failure : Failure}
    (failed : ((ofStore store).evaluate arith tokens).2.outcome = .error failure)
    (inForm : failure.inForm = true) :
    ((ofStore store).evaluate arith tokens).2.reductions = [] := by
  rcases reckon_of_failure failed with ⟨-, none⟩ | ⟨other, -, -⟩
  · exact none
  · rw [inForm] at other
    cases other

end Evaluator

/-- What the log shows of an event: how important it is, its message, and the number of
tokens if it reports one. -/
def Event.entry (event : Event) : Severity × String × Option Nat :=
  (event.severity, event.message, event.tokenCount?)

/-- `Closes outcome response event message`: a line whose evaluation has this outcome gets
this response, and its log ends with this event and this message. -/
inductive Event.Closes :
    Except Failure (Evaluation Float) → Response → Event → String → Prop
  | bound (name : String) (x : Float) :
    Closes (.ok ⟨x, some name⟩) (.assigned name x) (.bound name x)
      ("bound " ++ name ++ " = " ++ number x)
  | evaluated (x : Float) :
    Closes (.ok ⟨x, none⟩) (.value x) (.evaluated x) ("evaluated to " ++ number x)
  | failed (failure : Failure) :
    Closes (.error failure) .invalid (.failed failure) ("evaluation failed: " ++ failure.message)

theorem Event.closes_ofOutcome (outcome : Except Failure (Evaluation Float)) :
    Closes outcome (.ofOutcome outcome) (.ofOutcome outcome) (ofOutcome outcome).message := by
  rcases outcome with failure | ⟨x, _ | name⟩
  · exact .failed failure
  · exact .evaluated x
  · exact .bound name x

namespace Event.Closes

variable {outcome : Except Failure (Evaluation Float)} {response : Response} {event : Event}
  {message : String}

theorem entry (closes : Closes outcome response event message) :
    event.entry = (.debug, message, none) := by
  cases closes with
  | bound _ _ | evaluated _ | failed _ => rfl

theorem bound_iff (closes : Closes outcome response event message) (name : String) (x : Float) :
    event = .bound name x ↔ response = .assigned name x := by
  cases closes with
  | bound _ _ | evaluated _ | failed _ => simp

theorem evaluated_iff (closes : Closes outcome response event message) (x : Float) :
    event = .evaluated x ↔ response = .value x := by
  cases closes with
  | bound _ _ | evaluated _ | failed _ => simp

theorem failed_iff (closes : Closes outcome response event message) :
    (∃ failure, event = .failed failure) ↔ response = .invalid := by
  cases closes with
  | bound _ _ | evaluated _ | failed _ => simp

theorem outcome_of_value (closes : Closes outcome response event message) {x : Float}
    (answered : response = .value x ∨ ∃ name, response = .assigned name x) :
    ∃ target, outcome = .ok ⟨x, target⟩ := by
  cases closes with
  | bound name y =>
    rcases answered with same | ⟨_, same⟩ <;> cases same
    exact ⟨some name, rfl⟩
  | evaluated y =>
    rcases answered with same | ⟨_, same⟩ <;> cases same
    exact ⟨none, rfl⟩
  | failed failure => rcases answered with same | ⟨_, same⟩ <;> cases same

end Event.Closes

theorem Event.entry_ofTraced {traced : Traced Float (Evaluation Float)} {response : Response}
    {message : String}
    (closes : Closes traced.outcome response (ofOutcome traced.outcome) message) :
    (ofTraced traced).map entry =
      traced.reductions.map (fun r => (.trace, (reduced r).message, none)) ++
        [(.debug, message, none)] := by
  rw [ofTraced, List.map_append, List.map_map, List.map_singleton, closes.entry]
  rfl

namespace Session

/-- The letter of a command leaves nothing in the log. -/
theorem execute_of_letter (s : Session) {line : String}
    (letter : Text.trim line = "h" ∨ Text.trim line = "q" ∨ Text.trim line = "l") :
    (s.execute line).2.events = [] := by
  unfold execute Command.ofLine
  rcases letter with same | same | same
  · rw [same]
    rfl
  · rw [same]
    rfl
  · rw [same]
    rfl

/-- Any other line is evaluated without the blanks at its ends. -/
theorem execute_of_other (s : Session) {line : String}
    (other : ¬ (Text.trim line = "h" ∨ Text.trim line = "q" ∨ Text.trim line = "l")) :
    s.execute line = s.evaluate (Text.trim line) := by
  rw [not_or, not_or] at other
  obtain ⟨help, quit, list⟩ := other
  unfold execute Command.ofLine Command.ofTrimmed
  rw [if_neg help, if_neg quit, if_neg list]

theorem evaluate_of_scan (s : Session) {source : String} {tokens : List Token}
    (scanned : Token.scan source = .ok tokens) :
    (s.evaluate source).2 =
      ⟨.ofOutcome (s.evaluator.evaluate .binary64 tokens).2.outcome,
        .scanned source tokens.length ::
          Event.ofTraced (s.evaluator.evaluate .binary64 tokens).2⟩ := by
  unfold evaluate
  rw [scanned]

end Session

/-- In every session that lines lead to, a command leaves nothing in the log, and a text that
is not made of tokens one entry that says so. Any other line leaves one entry with the number
of its tokens, one for each reduction, and one that closes with what the evaluation came to:
the binding iff the response is that of the binding, the value iff it is the value, the
failure iff the line is invalid. With a value there is one reduction for each operator of the
line, the last one giving the value; with a fault in the form of the line there is none. -/
theorem events_execute (lines : List String) (line : String) :
    let s := (Session.start.executeAll lines).1
    let source := Text.trim line
    let reply := (s.execute line).2
    let isLetter := source = "h" ∨ source = "q" ∨ source = "l"
    let written := fun r : Reduction Float => Event.number r.lhs ++ " " ++ r.op.text ++ " " ++
      Event.number r.rhs ++ " = " ++ Event.number r.value
    (isLetter → reply.events = []) ∧
      (¬ isLetter → ∀ fault, Token.scan source = .error fault →
        reply.events = [.scanFailed (.malformed fault)] ∧
          reply.events.map Event.entry =
            [(.debug, "tokenizing failed: " ++ fault.message, none)]) ∧
      (¬ isLetter → ∀ tokens, Token.scan source = .ok tokens →
        let outcome := (s.evaluator.evaluate .binary64 tokens).2.outcome
        ∃ (reductions : List (Reduction Float)) (last : Event) (message : String),
          reply.events =
            .scanned source tokens.length :: (reductions.map .reduced ++ [last]) ∧
          reply.events.map Event.entry =
            (.debug, "tokenized " ++ Text.quoted source, some tokens.length) ::
              (reductions.map (fun r => (.trace, written r, none)) ++
                [(.debug, message, none)]) ∧
          Event.Closes outcome reply.response last message ∧
          (∀ name x, last = .bound name x ↔ reply.response = .assigned name x) ∧
          (∀ x, last = .evaluated x ↔ reply.response = .value x) ∧
          ((∃ failure, last = .failed failure) ↔ reply.response = .invalid) ∧
          (∀ x, (reply.response = .value x ∨ ∃ name, reply.response = .assigned name x) →
            reductions.length = tokens.countP Token.isOperator ∧
              ∀ r ∈ reductions.getLast?, r.value = x) ∧
          ((∃ position, outcome = .error (.malformed (.misplacedEquals position))) ∨
              (∃ text, outcome = .error (.malformed (.invalidTarget text))) →
            reductions = [])) := by
  intro s source reply isLetter written
  refine ⟨s.execute_of_letter, fun other fault scanned => ?failed,
    fun other tokens scanned => ?made⟩
  case failed =>
    have left : reply.events = [.scanFailed (.malformed fault)] := by
      show (s.execute line).2.events = _
      rw [s.execute_of_other other, Session.evaluate, scanned]
    rw [left]
    exact ⟨rfl, rfl⟩
  case made =>
    intro outcome
    obtain ⟨store, reached, -⟩ := Session.named_executeAll lines
    have fresh : s.evaluator = Evaluator.ofStore store := congrArg Session.evaluator reached
    let traced := (s.evaluator.evaluate .binary64 tokens).2
    have made : reply = ⟨.ofOutcome outcome,
        .scanned source tokens.length :: Event.ofTraced traced⟩ := by
      show (s.execute line).2 = _
      rw [s.execute_of_other other, s.evaluate_of_scan scanned]
    have same : traced = ((Evaluator.ofStore store).evaluate .binary64 tokens).2 := by
      show (s.evaluator.evaluate .binary64 tokens).2 = _
      rw [fresh]
    have closes := Event.closes_ofOutcome outcome
    rw [made]
    refine ⟨traced.reductions, .ofOutcome outcome, _, rfl, ?entries, closes, closes.bound_iff,
      closes.evaluated_iff, closes.failed_iff, ?value, ?form⟩
    case entries =>
      rw [List.map_cons, Event.entry_ofTraced closes]
      rfl
    case value =>
      intro x answered
      obtain ⟨target, worth⟩ := closes.outcome_of_value answered
      change traced.outcome = _ at worth
      rw [same] at worth ⊢
      exact Evaluator.reductions_of_ok worth
    case form =>
      intro faulty
      change (∃ position, traced.outcome = _) ∨ (∃ text, traced.outcome = _) at faulty
      rw [same] at faulty ⊢
      rcases faulty with ⟨position, misplaced⟩ | ⟨text, noTarget⟩
      · exact Evaluator.reductions_of_inForm misplaced rfl
      · exact Evaluator.reductions_of_inForm noTarget rfl

/-- After `a = 2`, the line `b = 1 + a * 3` leaves its scan, the product, the sum and
the binding. -/
theorem events_execute_bound :
    let line := " b = 1 + a * 3 "
    let reply := ((Session.start.executeAll ["a = 2"]).1.execute line).2
    ¬ (Text.trim line = "h" ∨ Text.trim line = "q" ∨ Text.trim line = "l") ∧
      Token.scan (Text.trim line) = .ok [.identifier "b", .equals, .number "1", .operator .add,
        .identifier "a", .operator .mul, .number "3"] ∧
      ∃ product sum, reply.events = [.scanned (Text.trim line) 7, .reduced product, .reduced sum,
        .bound "b" 7] ∧ sum.value = 7 ∧
        reply.events.map (fun event => (event.severity, event.tokenCount?)) =
          [(.debug, some 7), (.trace, none), (.trace, none), (.debug, none)] ∧
        (Event.bound "b" 7).message = "bound b = " ++ Event.number 7 := by
  intro line reply
  have other : ¬ (Text.trim line = "h" ∨ Text.trim line = "q" ∨ Text.trim line = "l") := by
    decide +kernel
  have scanned : Token.scan (Text.trim line) = .ok [.identifier "b", .equals, .number "1",
      .operator .add, .identifier "a", .operator .mul, .number "3"] := by
    decide +kernel
  have stored : reply.response.storeAfter Store.empty = ⟨[⟨"b", 7⟩]⟩ := by decide +kernel
  have assigned : reply.response = .assigned "b" 7 := by
    cases answer : reply.response with
    | assigned name x =>
      rw [answer] at stored
      cases stored
      rfl
    | help | quit | listing _ | value _ | invalid =>
      rw [answer] at stored
      cases stored
  obtain ⟨-, -, logged⟩ := events_execute ["a = 2"] line
  obtain ⟨reductions, last, _, events, -, -, bound, -, -, worth, -⟩ :=
    logged other _ scanned
  obtain ⟨two, gives⟩ := worth 7 (.inr ⟨"b", assigned⟩)
  obtain ⟨product, sum, rfl⟩ : ∃ product sum, reductions = [product, sum] := by
    match reductions, two with
    | [product, sum], _ => exact ⟨product, sum, rfl⟩
  obtain rfl : last = .bound "b" 7 := (bound "b" 7).mpr assigned
  change reply.events = _ at events
  refine ⟨other, scanned, product, sum, events, gives sum rfl, ?_, rfl⟩
  rw [events]
  rfl

end Calculator
