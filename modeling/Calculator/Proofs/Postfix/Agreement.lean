import Calculator.Proofs.Pass.Reading
import Calculator.Proofs.Postfix.Instruction

/-!
# One pass agrees with two phases

The pass computes while it orders the operations, so it can fail on a missing
operand before it has seen a parenthesis that nothing opens. The two phases
order everything first. They fail on the same lines all the same, because the
operands of the pass are at all times what the instructions put out so far
compute, and its waiting entries are those of the translation.

Results:
1. `Simulates`: this relation between a translation and a workspace.
2. `step_iff_read?`: one token keeps it, in both directions.
3. `readAll_iff_readAll?`: so do all tokens of a line.
4. `evaluate_iff_translate`: a line has a value iff its instructions have it.
-/

namespace Calculator

open Workspace Instruction

variable {α : Type} {arith : Arithmetic α} {store : Store α}

/-! ## Applying entries and running instructions -/

theorem applyAll_iff_runAll? {entries : List Pending}
    (all : ∀ entry ∈ entries, entry.isOperator = true) {operands left : Stack α} :
    (∃ reductions, applyAll arith entries operands = ⟨reductions, .ok left⟩) ↔
      runAll? arith store operands (entries.filterMap Pending.instruction?) = some left := by
  induction entries generalizing operands with
  | nil =>
    constructor
    · rintro ⟨reductions, applied⟩
      rw [(Traced.pure_eq_ok.mp applied).1]
      rfl
    · intro same
      cases same
      exact ⟨[], rfl⟩
  | cons entry entries ih =>
    obtain ⟨isOperator, operators⟩ := List.forall_mem_cons.mp all
    cases entry with
    | opening => cases isOperator
    | operator op =>
      have same : Pending.instruction? (.operator op) = some (.apply op) := rfl
      rw [List.filterMap_cons_some same, runAll?_cons]
      constructor
      · rintro ⟨_, applied⟩
        obtain ⟨_, lhs, rhs, below, later, same, rfl, rest, rfl⟩ :=
          applyAll_cons_eq_ok.mp applied
        cases same
        exact (ih operators).mp ⟨later, rest⟩
      · intro ran
        obtain ⟨operands₁, first, rest⟩ := Option.bind_eq_some_iff.mp ran
        rcases operands with _ | ⟨rhs, _ | ⟨lhs, below⟩⟩
        · cases first
        · cases first
        · cases first
          obtain ⟨later, rest⟩ := (ih operators).mpr rest
          exact ⟨_, applyAll_cons_eq_ok.mpr ⟨op, lhs, rhs, below, later, rfl, rfl, rest, rfl⟩⟩

/-- The entries that are due and their instructions do the same. -/
theorem applyAll_iff_due {isDue : Pending → Bool} (barrier : isDue .opening = false)
    {pending : Stack Pending} {operands left : Stack α} :
    (∃ reductions, applyAll arith (pending.takeWhile isDue) operands = ⟨reductions, .ok left⟩) ↔
      runAll? arith store operands (Translation.due isDue pending) = some left :=
  applyAll_iff_runAll? (operators_of_takeWhile barrier pending)

/-! ## The simulation -/

/-- The operands of the workspace are what the output computes, and the same
entries wait. -/
def Simulates (arith : Arithmetic α) (store : Store α) (t : Translation) (w : Workspace α) :
    Prop :=
  runAll? arith store [] t.output = some w.operands ∧ t.waiting = w.pending

theorem simulates_start : Simulates arith store Translation.start empty :=
  ⟨rfl, rfl⟩

theorem Simulates.runAll?_more {t : Translation} {w : Workspace α}
    (related : Simulates arith store t w) (more : List Instruction) :
    runAll? arith store [] (t.output ++ more) = runAll? arith store w.operands more := by
  rw [runAll?_append, related.1]
  rfl

/-- If a longer program can be run, then some workspace simulates the
translation that its beginning comes from. -/
theorem exists_simulates {t : Translation} {program : List Instruction} {operands : Stack α}
    (ran : runAll? arith store [] program = some operands)
    (extended : ∃ more, program = t.output ++ more) :
    ∃ w, Simulates arith store t w := by
  obtain ⟨more, rfl⟩ := extended
  rw [runAll?_append] at ran
  obtain ⟨early, onEarly, _⟩ := Option.bind_eq_some_iff.mp ran
  exact ⟨⟨early, t.waiting⟩, onEarly, rfl⟩

theorem Simulates.read?_of_step {t : Translation} {w w' : Workspace α} {token : Token}
    {reductions : List (Reduction α)} (related : Simulates arith store t w)
    (step : Step arith store w token reductions w') :
    ∃ t', t.read? token = some t' ∧ Simulates arith store t' w' := by
  cases step with
  | operand known =>
    cases token with
    | number text =>
      refine ⟨t.put (.number text), rfl, ?_, related.2⟩
      rw [Translation.put, related.runAll?_more, runAll?_singleton, run?]
      rw [Token.operand?] at known
      rw [known]
      rfl
    | identifier name =>
      cases known
      refine ⟨t.put (.identifier name), rfl, ?_, related.2⟩
      rw [Translation.put, related.runAll?_more, runAll?_singleton]
      rfl
    | operator _ | opening | closing | equals | ignored => cases known
  | opening => exact ⟨_, rfl, related.1, congrArg _ related.2⟩
  | @closing _ left below applied opened =>
    rw [← related.2] at applied opened
    refine ⟨⟨_, below⟩, Translation.read?_closing.mpr ⟨rfl, opened⟩, ?_, rfl⟩
    rw [related.runAll?_more]
    exact (applyAll_iff_due rfl).mp ⟨reductions, applied⟩
  | @operator op _ left applied =>
    rw [← related.2] at applied
    refine ⟨_, Translation.read?_operator t op, ?_, by rw [related.2]⟩
    rw [related.runAll?_more]
    exact (applyAll_iff_due rfl).mp ⟨reductions, applied⟩
  | ignored => exact ⟨t, rfl, related⟩

theorem Simulates.step_of_read? {t t' : Translation} {w w' : Workspace α} {token : Token}
    (related : Simulates arith store t w) (found : t.read? token = some t')
    (after : Simulates arith store t' w') :
    ∃ reductions, Step arith store w token reductions w' := by
  obtain ⟨ran, same⟩ := after
  obtain ⟨operands', pending'⟩ := w'
  dsimp only at ran same
  cases token with
  | number text =>
    cases found
    rw [Translation.put, related.runAll?_more, runAll?_singleton, run?] at ran
    obtain ⟨value, known, rfl⟩ := Option.map_eq_some_iff.mp ran
    obtain rfl : w.pending = pending' := related.2.symm.trans same
    exact ⟨[], .operand known⟩
  | identifier name =>
    cases found
    rw [Translation.put, related.runAll?_more, runAll?_singleton] at ran
    cases ran
    obtain rfl : w.pending = pending' := related.2.symm.trans same
    exact ⟨[], .operand rfl⟩
  | operator op =>
    rw [Translation.read?_operator] at found
    cases found
    rw [related.runAll?_more, related.2] at ran
    obtain ⟨reductions, applied⟩ := (applyAll_iff_due rfl).mpr ran
    rw [related.2] at same
    subst same
    exact ⟨reductions, .operator applied⟩
  | opening =>
    cases found
    obtain rfl : w.operands = operands' := Option.some.inj (related.1.symm.trans ran)
    rw [related.2] at same
    subst same
    exact ⟨[], .opening⟩
  | closing =>
    obtain ⟨output, opened⟩ := Translation.read?_closing.mp found
    rw [output, related.runAll?_more, related.2] at ran
    obtain ⟨reductions, applied⟩ := (applyAll_iff_due rfl).mpr ran
    rw [related.2, same] at opened
    exact ⟨reductions, .closing applied opened⟩
  | equals => cases found
  | ignored =>
    cases found
    obtain rfl : w.operands = operands' := Option.some.inj (related.1.symm.trans ran)
    obtain rfl : w.pending = pending' := related.2.symm.trans same
    exact ⟨[], .ignored⟩

/-- One token keeps the relation: the pass takes it in and reaches a workspace
iff the translation reads it and simulates that workspace. -/
theorem step_iff_read? {t : Translation} {w w' : Workspace α} {token : Token}
    (related : Simulates arith store t w) :
    (∃ reductions, Step arith store w token reductions w') ↔
      ∃ t', t.read? token = some t' ∧ Simulates arith store t' w' :=
  ⟨fun ⟨_, step⟩ => related.read?_of_step step,
    fun ⟨_, found, after⟩ => related.step_of_read? found after⟩

/-- All tokens of a line keep the relation. The induction is on the tokens. -/
theorem readAll_iff_readAll? {t : Translation} {w w' : Workspace α} {tokens : List Token}
    (related : Simulates arith store t w) (position : Nat) :
    (∃ reductions, readAll arith store position w tokens = ⟨reductions, .ok w'⟩) ↔
      ∃ t', t.readAll? tokens = some t' ∧ Simulates arith store t' w' := by
  induction tokens generalizing t w position with
  | nil =>
    constructor
    · rintro ⟨reductions, taken⟩
      obtain ⟨rfl, -⟩ := Traced.pure_eq_ok.mp taken
      exact ⟨t, rfl, related⟩
    · rintro ⟨t', found, ran, same⟩
      cases found
      have equal : w = w' := by
        obtain ⟨operands, pending⟩ := w
        obtain ⟨operands', pending'⟩ := w'
        obtain rfl : operands = operands' := Option.some.inj (related.1.symm.trans ran)
        obtain rfl : pending = pending' := related.2.symm.trans same
        rfl
      exact ⟨[], by rw [equal]; rfl⟩
  | cons token tokens ih =>
    constructor
    · rintro ⟨reductions, taken⟩
      obtain ⟨first, w₁, later, step, rest, rfl⟩ := readAll_cons_eq_ok.mp taken
      obtain ⟨t₁, found, between⟩ := (step_iff_read? related).mp ⟨first, step⟩
      obtain ⟨t', foundRest, after⟩ := (ih between (position + 1)).mp ⟨later, rest⟩
      exact ⟨t', Translation.readAll?_cons.mpr ⟨t₁, found, foundRest⟩, after⟩
    · rintro ⟨t', found, after⟩
      obtain ⟨t₁, first, rest⟩ := Translation.readAll?_cons.mp found
      -- The output only grows, so what is put out up to here can be run too.
      obtain ⟨w₁, between⟩ :=
        exists_simulates after.1 (Translation.extends_of_readAll? rest)
      obtain ⟨early, step⟩ := (step_iff_read? related).mpr ⟨t₁, first, between⟩
      obtain ⟨late, taken⟩ := (ih between (position + 1)).mpr ⟨t', rest, after⟩
      exact ⟨_, readAll_cons_eq_ok.mpr ⟨early, w₁, late, step, taken, rfl⟩⟩

/-- What waits at the end can be applied and leaves one value iff the finished
instructions have this value. -/
theorem Simulates.applyAll_iff_finish? {t : Translation} {w : Workspace α} {value : α}
    (related : Simulates arith store t w) :
    (∃ reductions, applyAll arith w.pending w.operands = ⟨reductions, .ok [value]⟩) ↔
      ∃ instructions, t.finish? = some instructions ∧
        Instruction.value? arith store instructions = some value := by
  constructor
  · rintro ⟨reductions, applied⟩
    obtain ⟨due, none⟩ := applyAll_eq_ok_iff_operators.mp applied
    rw [← related.2] at due none
    refine ⟨_, Translation.finish?_eq_some.mpr ⟨rfl, none⟩, value?_eq_some.mpr ?_⟩
    rw [related.runAll?_more]
    exact (applyAll_iff_due rfl).mp ⟨reductions, due⟩
  · rintro ⟨instructions, finished, worth⟩
    obtain ⟨rfl, none⟩ := Translation.finish?_eq_some.mp finished
    have ran := value?_eq_some.mp worth
    rw [related.runAll?_more] at ran
    obtain ⟨reductions, due⟩ := (applyAll_iff_due rfl).mpr ran
    rw [related.2] at due none
    exact ⟨reductions, applyAll_eq_ok_iff_operators.mpr ⟨due, none⟩⟩

theorem reckon_iff_translate? {tokens : List Token} {value : α} :
    (∃ reductions, reckon arith store 0 empty tokens = ⟨reductions, .ok value⟩) ↔
      ∃ instructions, Translation.translate? tokens = some instructions ∧
        Instruction.value? arith store instructions = some value := by
  have related : Simulates arith store Translation.start empty := simulates_start
  constructor
  · rintro ⟨_, found⟩
    obtain ⟨first, w, later, taken, applied, rfl⟩ := reckon_eq_ok_iff.mp found
    obtain ⟨t, read, after⟩ := (readAll_iff_readAll? related 0).mp ⟨first, taken⟩
    obtain ⟨instructions, finished, worth⟩ := after.applyAll_iff_finish?.mp ⟨later, applied⟩
    exact ⟨instructions, Option.bind_eq_some_iff.mpr ⟨t, read, finished⟩, worth⟩
  · rintro ⟨instructions, translated, worth⟩
    obtain ⟨t, read, finished⟩ := Option.bind_eq_some_iff.mp translated
    have extended : ∃ more, instructions = t.output ++ more :=
      ⟨_, (Translation.finish?_eq_some.mp finished).1⟩
    obtain ⟨w, after⟩ := exists_simulates (value?_eq_some.mp worth) extended
    obtain ⟨first, taken⟩ := (readAll_iff_readAll? related 0).mpr ⟨t, read, after⟩
    obtain ⟨later, applied⟩ := after.applyAll_iff_finish?.mpr ⟨instructions, finished, worth⟩
    exact ⟨_, reckon_eq_ok_iff.mpr ⟨first, w, later, taken, applied, rfl⟩⟩

/-- A line without equals signs has a value iff both phases succeed with it, and
it fails iff one of the phases fails. -/
theorem evaluate_iff_translate (store : Store α) {tokens : List Token}
    (plain : .equals ∉ tokens) :
    (∀ value, ((Evaluator.ofStore store).evaluate arith tokens).2.outcome = .ok ⟨value, none⟩ ↔
        ∃ instructions, Translation.translate? tokens = some instructions ∧
          Instruction.value? arith store instructions = some value) ∧
      ((∃ failure, ((Evaluator.ofStore store).evaluate arith tokens).2.outcome = .error failure) ↔
        Translation.translate? tokens = none ∨
          ∃ instructions, Translation.translate? tokens = some instructions ∧
            Instruction.value? arith store instructions = none) := by
  have succeeds : ∀ value,
      ((Evaluator.ofStore store).evaluate arith tokens).2.outcome = .ok ⟨value, none⟩ ↔
        ∃ instructions, Translation.translate? tokens = some instructions ∧
          Instruction.value? arith store instructions = some value := by
    intro value
    rw [Evaluator.outcome_evaluate_eq_ok plain, reckon_iff_translate?]
    exact and_iff_left rfl
  refine ⟨succeeds, ?_⟩
  constructor
  · rintro ⟨failure, failed⟩
    cases translated : Translation.translate? tokens with
    | none => exact .inl rfl
    | some instructions =>
      refine .inr ⟨instructions, rfl, Option.eq_none_iff_forall_ne_some.mpr ?_⟩
      intro value worth
      have succeeded := (succeeds value).mpr ⟨instructions, translated, worth⟩
      rw [failed] at succeeded
      cases succeeded
  · intro failed
    cases outcome : ((Evaluator.ofStore store).evaluate arith tokens).2.outcome with
    | error failure => exact ⟨failure, rfl⟩
    | ok evaluation =>
      obtain ⟨value, target⟩ := evaluation
      obtain ⟨-, rfl⟩ := (Evaluator.outcome_evaluate_eq_ok plain).mp outcome
      obtain ⟨instructions, translated, worth⟩ := (succeeds value).mp outcome
      rcases failed with none | ⟨_, same, none⟩
      · rw [none] at translated
        cases translated
      · cases translated.symm.trans same
        rw [worth] at none
        cases none

/-- In `1 ( 2 * )` the product takes an operand from outside its group, in one
pass and in two phases. -/
theorem evaluate_iff_translate_reaching :
    .equals ∉ [Token.number "1", .opening, .number "2", .operator .mul, .closing] ∧
      ((Evaluator.ofStore Store.seeded).evaluate .binary64
          [.number "1", .opening, .number "2", .operator .mul, .closing]).2.outcome =
        .ok ⟨Operator.apply .mul 1 2, none⟩ := by
  have plain : .equals ∉ [Token.number "1", .opening, .number "2", .operator .mul, .closing] := by
    decide
  exact ⟨plain, ((evaluate_iff_translate Store.seeded plain).1 _).mpr
    ⟨[.number "1", .number "2", .apply .mul], rfl, rfl⟩⟩

end Calculator
