import Calculator.Proofs.Pass.Reading

/-!
# Evaluation with operands counted

Whether a line has a value does not depend on what its operands are worth. All
that matters is how many there are when entries are applied: each application
needs two and leaves one.

Results:
1. `exists_applyAll_iff`: which entries can be applied to so many operands, and
   how many operands are left.
2. `exists_step_iff`: which tokens can be taken in with operands counted.
3. `exists_reckon_iff`: a line has a value iff its numerals are numbers and it
   reduces with operands counted.
-/

namespace Calculator

variable {α : Type} {arith : Arithmetic α} {store : Store α}

/-- All numerals in these tokens are the texts of numbers. -/
def Line.Readable (arith : Arithmetic α) (tokens : List Token) : Prop :=
  ∀ text, .number text ∈ tokens → (arith.read? text).isSome = true

namespace Line

theorem readable_singleton {text : String} :
    Readable arith [.number text] ↔ (arith.read? text).isSome = true := by
  simp [Readable]

theorem readable_cons {token : Token} {tokens : List Token} :
    Readable arith (token :: tokens) ↔ Readable arith [token] ∧ Readable arith tokens := by
  simp only [Readable, List.mem_cons, List.not_mem_nil, or_false]
  constructor
  · intro all
    exact ⟨fun text here => all text (.inl here), fun text later => all text (.inr later)⟩
  · rintro ⟨first, rest⟩ text (here | later)
    · exact first text here
    · exact rest text later

end Line

namespace Workspace

/-- So many operands suffice to apply these entries. -/
def Suffices (count : Nat) (entries : List Pending) : Prop :=
  entries = [] ∨ entries.length < count

/-- One token can be taken in with so many operands below these entries, and the
goal holds of what there is then. -/
def Reaches (goal : Nat → Stack Pending → Prop) (count : Nat) (pending : Stack Pending) :
    Token → Prop
  | .number _ | .identifier _ => goal (count + 1) pending
  | .operator op =>
    Suffices count (pending.takeWhile op.unwinds) ∧
      goal (count - (pending.takeWhile op.unwinds).length)
        (.operator op :: pending.dropWhile op.unwinds)
  | .opening => goal count (.opening :: pending)
  | .closing =>
    Suffices count (pending.takeWhile Pending.isOperator) ∧
      ∃ below, pending.dropWhile Pending.isOperator = .opening :: below ∧
        goal (count - (pending.takeWhile Pending.isOperator).length) below
  | .equals => False
  | .ignored => goal count pending

/-- All tokens can be taken in, and what waits then leaves exactly one operand. -/
def Reduces : List Token → Nat → Stack Pending → Prop
  | [], count, pending =>
    (∀ entry ∈ pending, entry.isOperator = true) ∧ pending.length + 1 = count
  | token :: tokens, count, pending => Reaches (Reduces tokens) count pending token

/-- The entries that are due can be applied iff there are operands enough. Each
of them takes one operand away. -/
theorem exists_applyAll_iff (arith : Arithmetic α) {isDue : Pending → Bool}
    (barrier : isDue .opening = false) (pending : Stack Pending) (operands : Stack α)
    (goal : Nat → Prop) :
    (∃ reductions left,
        applyAll arith (pending.takeWhile isDue) operands = ⟨reductions, .ok left⟩ ∧
          goal left.length) ↔
      Suffices operands.length (pending.takeWhile isDue) ∧
        goal (operands.length - (pending.takeWhile isDue).length) := by
  constructor
  · rintro ⟨reductions, left, applied, reached⟩
    obtain ⟨-, enough⟩ := applyAll_succeeds_iff.mp ⟨reductions, left, applied⟩
    have shorter := (length_of_applyAll applied).1
    rw [← shorter, Nat.add_sub_cancel]
    exact ⟨shorter ▸ enough, reached⟩
  · rintro ⟨enough, reached⟩
    have operators := operators_of_takeWhile barrier pending
    have applicable : ∃ reductions left,
        applyAll arith (pending.takeWhile isDue) operands = ⟨reductions, .ok left⟩ :=
      applyAll_succeeds_iff.mpr ⟨operators, enough⟩
    obtain ⟨reductions, left, applied⟩ := applicable
    have shorter := (length_of_applyAll applied).1
    rw [← shorter, Nat.add_sub_cancel] at reached
    exact ⟨reductions, left, applied, reached⟩

theorem exists_applyAll_single_iff {entries : List Pending} {operands : Stack α} :
    (∃ reductions value, applyAll arith entries operands = ⟨reductions, .ok [value]⟩) ↔
      (∀ entry ∈ entries, entry.isOperator = true) ∧ entries.length + 1 = operands.length := by
  constructor
  · rintro ⟨reductions, value, applied⟩
    obtain ⟨operators, -⟩ := applyAll_succeeds_iff.mp ⟨reductions, [value], applied⟩
    have shorter := (length_of_applyAll applied).1
    rw [List.length_singleton] at shorter
    exact ⟨operators, by omega⟩
  · rintro ⟨operators, count⟩
    have enough : entries.length < operands.length := by omega
    have applicable : ∃ reductions left,
        applyAll arith entries operands = ⟨reductions, .ok left⟩ :=
      applyAll_succeeds_iff.mpr ⟨operators, .inr enough⟩
    obtain ⟨reductions, left, applied⟩ := applicable
    have shorter := (length_of_applyAll applied).1
    obtain ⟨value, rfl⟩ := List.length_eq_one_iff.mp (by omega : left.length = 1)
    exact ⟨reductions, value, applied⟩

/-- A token is taken in iff it is readable and can be taken in with operands
counted. -/
theorem exists_step_iff (arith : Arithmetic α) (store : Store α) (w : Workspace α)
    (token : Token) (goal : Nat → Stack Pending → Prop) :
    (∃ reductions w', Step arith store w token reductions w' ∧
        goal w'.operands.length w'.pending) ↔
      Line.Readable arith [token] ∧ Reaches goal w.operands.length w.pending token := by
  cases token with
  | number text =>
    rw [Line.readable_singleton]
    constructor
    · rintro ⟨_, _, step, reached⟩
      cases step with
      | operand known => exact ⟨Option.isSome_iff_exists.mpr ⟨_, known⟩, reached⟩
    · rintro ⟨readable, reached⟩
      obtain ⟨value, known⟩ := Option.isSome_iff_exists.mp readable
      exact ⟨[], _, .operand known, reached⟩
  | identifier name =>
    rw [and_iff_right (by simp [Line.Readable])]
    constructor
    · rintro ⟨_, _, step, reached⟩
      cases step with
      | operand known => exact reached
    · intro reached
      exact ⟨[], _, .operand rfl, reached⟩
  | operator op =>
    rw [and_iff_right (by simp [Line.Readable]), Reaches,
      ← exists_applyAll_iff arith rfl w.pending w.operands
        fun count => goal count (.operator op :: w.pending.dropWhile op.unwinds)]
    constructor
    · rintro ⟨reductions, _, step, reached⟩
      cases step with
      | operand known => cases known
      | operator applied => exact ⟨reductions, _, applied, reached⟩
    · rintro ⟨reductions, _, applied, reached⟩
      exact ⟨reductions, _, .operator applied, reached⟩
  | opening =>
    rw [and_iff_right (by simp [Line.Readable])]
    constructor
    · rintro ⟨_, _, step, reached⟩
      cases step with
      | operand known => cases known
      | opening => exact reached
    · intro reached
      exact ⟨[], _, .opening, reached⟩
  | closing =>
    rw [and_iff_right (by simp [Line.Readable]), Reaches,
      ← exists_applyAll_iff arith rfl w.pending w.operands fun count => ∃ below,
        w.pending.dropWhile Pending.isOperator = .opening :: below ∧ goal count below]
    constructor
    · rintro ⟨reductions, _, step, reached⟩
      cases step with
      | operand known => cases known
      | closing applied opened => exact ⟨reductions, _, applied, _, opened, reached⟩
    · rintro ⟨reductions, _, applied, _, opened, reached⟩
      exact ⟨reductions, _, .closing applied opened, reached⟩
  | equals =>
    constructor
    · rintro ⟨_, _, step, _⟩
      cases step with
      | operand known => cases known
    · rintro ⟨_, ⟨⟩⟩
  | ignored =>
    rw [and_iff_right (by simp [Line.Readable])]
    constructor
    · rintro ⟨_, _, step, reached⟩
      cases step with
      | operand known => cases known
      | ignored => exact reached
    · intro reached
      exact ⟨[], _, .ignored, reached⟩

theorem exists_reckon_cons_iff {position : Nat} {w : Workspace α} {token : Token}
    {tokens : List Token} :
    (∃ reductions value,
        reckon arith store position w (token :: tokens) = ⟨reductions, .ok value⟩) ↔
      ∃ first w₁, Step arith store w token first w₁ ∧ ∃ reductions value,
        reckon arith store (position + 1) w₁ tokens = ⟨reductions, .ok value⟩ := by
  constructor
  · rintro ⟨_, value, found⟩
    obtain ⟨first, w₁, later, step, rest, rfl⟩ := reckon_cons_eq_ok.mp found
    exact ⟨first, w₁, step, later, value, rest⟩
  · rintro ⟨first, w₁, step, later, value, rest⟩
    exact ⟨_, value, reckon_cons_eq_ok.mpr ⟨first, w₁, later, step, rest, rfl⟩⟩

/-- Tokens lead to a value iff their numerals are numbers and they reduce with
operands counted. -/
theorem exists_reckon_iff {position : Nat} {w : Workspace α} {tokens : List Token} :
    (∃ reductions value, reckon arith store position w tokens = ⟨reductions, .ok value⟩) ↔
      Line.Readable arith tokens ∧ Reduces tokens w.operands.length w.pending := by
  induction tokens generalizing position w with
  | nil =>
    have finished : ∀ reductions value,
        reckon arith store position w [] = ⟨reductions, .ok value⟩ ↔
          applyAll arith w.pending w.operands = ⟨reductions, .ok [value]⟩ :=
      fun _ _ => finish_eq_ok_iff
    simp only [finished, exists_applyAll_single_iff]
    exact ⟨fun single => ⟨by rintro _ ⟨⟩, single⟩, fun ⟨_, single⟩ => single⟩
  | cons token tokens ih =>
    rw [exists_reckon_cons_iff, Line.readable_cons, and_assoc, and_left_comm, Reduces,
      ← exists_step_iff arith store]
    simp only [ih]
    constructor
    · rintro ⟨first, w₁, step, readable, reduces⟩
      exact ⟨readable, first, w₁, step, reduces⟩
    · rintro ⟨readable, first, w₁, step, reduces⟩
      exact ⟨first, w₁, step, readable, reduces⟩

end Workspace

end Calculator
