import Calculator.Evaluator.Workspace

/-!
# Evaluation in two phases

The method that computes nothing while it orders the operations. The first
phase translates tokens to a list of instructions in postfix order, with a
stack of waiting entries and no operands. The second phase runs the
instructions on a stack of operands and knows nothing of precedence.

Results:
1. `runAll?_append`: instructions run in two parts.
2. `Translation.move_eq`: moving entries to the output takes a prefix of them.
3. `Translation.extends_of_readAll?`: a translation only adds to its output.
-/

namespace Calculator

variable {α : Type} {arith : Arithmetic α} {store : Store α}

/-- A unit of postfix order: push an operand, or apply an operator to the two
operands on top. -/
inductive Instruction
  | number (text : String)
  | identifier (name : String)
  | apply (op : Operator)
  deriving DecidableEq, Repr

/-! ## Second phase: running instructions -/

namespace Instruction

/-- Runs one instruction. It fails on a numeral that is not a number's text and
on a missing operand. -/
def run? (arith : Arithmetic α) (store : Store α) (operands : Stack α) :
    Instruction → Option (Stack α)
  | number text => (arith.read? text).map fun value => value :: operands
  | identifier name => some ((store.lookup name).getD arith.unbound :: operands)
  | apply op =>
    match operands with
    | rhs :: lhs :: below => some (arith.apply op lhs rhs :: below)
    | _ => none

/-- Runs instructions one after the other. -/
def runAll? (arith : Arithmetic α) (store : Store α) (operands : Stack α)
    (instructions : List Instruction) : Option (Stack α) :=
  instructions.foldlM (run? arith store) operands

/-- The value of instructions: the only operand that is there in the end. -/
def value? (arith : Arithmetic α) (store : Store α) (instructions : List Instruction) :
    Option α :=
  match runAll? arith store [] instructions with
  | some [value] => some value
  | _ => none

theorem runAll?_append (operands : Stack α) (first later : List Instruction) :
    runAll? arith store operands (first ++ later) =
      (runAll? arith store operands first).bind fun operands =>
        runAll? arith store operands later :=
  List.foldlM_append

theorem runAll?_cons (operands : Stack α) (instruction : Instruction)
    (later : List Instruction) :
    runAll? arith store operands (instruction :: later) =
      (run? arith store operands instruction).bind fun operands =>
        runAll? arith store operands later :=
  List.foldlM_cons

theorem runAll?_singleton (operands : Stack α) (instruction : Instruction) :
    runAll? arith store operands [instruction] = run? arith store operands instruction := by
  simp [runAll?]

theorem value?_eq_some {instructions : List Instruction} {value : α} :
    value? arith store instructions = some value ↔
      runAll? arith store [] instructions = some [value] := by
  unfold value?
  constructor
  · intro found
    split at found
    · next only single => rw [single, Option.some.inj found]
    · cases found
  · intro single
    rw [single]

end Instruction

/-! ## First phase: translating tokens -/

/-- The instructions that have been put out, and the entries that wait. -/
structure Translation where
  output : List Instruction
  waiting : Stack Pending
  deriving DecidableEq, Repr

/-- The instruction that a waiting entry stands for, if it is an operator. -/
def Pending.instruction? : Pending → Option Instruction
  | .operator op => some (.apply op)
  | .opening => none

namespace Translation

def start : Translation := ⟨[], []⟩

/-- Moves operators from the stack to the output as long as they are due. An
opening parenthesis stays. -/
def move (isDue : Pending → Bool) (output : List Instruction) : Stack Pending → Translation
  | .operator op :: waiting =>
    if isDue (.operator op) then move isDue (output ++ [.apply op]) waiting
    else ⟨output, .operator op :: waiting⟩
  | waiting => ⟨output, waiting⟩

def put (t : Translation) (instruction : Instruction) : Translation :=
  { t with output := t.output ++ [instruction] }

/-- Translates one token. An operand is put out at once. An operator first moves
those that have precedence over it, a closing parenthesis all down to the
opening one, which must be there. -/
def read? (t : Translation) : Token → Option Translation
  | .number text => some (t.put (.number text))
  | .identifier name => some (t.put (.identifier name))
  | .opening => some { t with waiting := .opening :: t.waiting }
  | .closing =>
    match move Pending.isOperator t.output t.waiting with
    | ⟨output, .opening :: waiting⟩ => some ⟨output, waiting⟩
    | _ => none
  | .operator op =>
    let moved := move op.unwinds t.output t.waiting
    some { moved with waiting := .operator op :: moved.waiting }
  | .equals => none
  | .ignored => some t

def readAll? (t : Translation) (tokens : List Token) : Option Translation :=
  tokens.foldlM read? t

/-- Moves the rest to the output. No opening parenthesis may be left. -/
def finish? (t : Translation) : Option (List Instruction) :=
  match move Pending.isOperator t.output t.waiting with
  | ⟨output, []⟩ => some output
  | _ => none

def translate? (tokens : List Token) : Option (List Instruction) :=
  (start.readAll? tokens).bind finish?

/-! ## What a translation puts out -/

/-- The instructions of the entries that are due. -/
def due (isDue : Pending → Bool) (waiting : Stack Pending) : List Instruction :=
  (waiting.takeWhile isDue).filterMap Pending.instruction?

theorem move_eq {isDue : Pending → Bool} (barrier : isDue .opening = false)
    (output : List Instruction) (waiting : Stack Pending) :
    move isDue output waiting = ⟨output ++ due isDue waiting, waiting.dropWhile isDue⟩ := by
  induction waiting generalizing output with
  | nil => simp [move, due]
  | cons entry waiting ih =>
    cases entry with
    | opening => simp [move, due, barrier]
    | operator op =>
      unfold move
      split
      · next isDue =>
        rw [ih]
        simp [due, isDue, Pending.instruction?]
      · next isDue => simp [due, isDue]

theorem read?_closing {t t' : Translation} :
    t.read? .closing = some t' ↔
      t'.output = t.output ++ due Pending.isOperator t.waiting ∧
        t.waiting.dropWhile Pending.isOperator = .opening :: t'.waiting := by
  obtain ⟨output', waiting'⟩ := t'
  rw [read?, move_eq rfl]
  constructor
  · intro found
    split at found
    · next output waiting same =>
      obtain ⟨rfl, opened⟩ := Translation.mk.inj same
      obtain ⟨rfl, rfl⟩ := Translation.mk.inj (Option.some.inj found)
      exact ⟨rfl, opened⟩
    · cases found
  · rintro ⟨rfl, opened⟩
    rw [opened]

theorem read?_operator (t : Translation) (op : Operator) :
    t.read? (.operator op) =
      some ⟨t.output ++ due op.unwinds t.waiting,
        .operator op :: t.waiting.dropWhile op.unwinds⟩ := by
  rw [read?, move_eq rfl]

theorem finish?_eq_some {t : Translation} {instructions : List Instruction} :
    t.finish? = some instructions ↔
      instructions = t.output ++ due Pending.isOperator t.waiting ∧
        t.waiting.dropWhile Pending.isOperator = [] := by
  unfold finish?
  rw [move_eq rfl]
  constructor
  · intro found
    split at found
    · next output same =>
      obtain ⟨rfl, none⟩ := Translation.mk.inj same
      exact ⟨(Option.some.inj found).symm, none⟩
    · cases found
  · rintro ⟨rfl, none⟩
    rw [none]

theorem extends_of_read? {t t' : Translation} {token : Token} (found : t.read? token = some t') :
    ∃ more, t'.output = t.output ++ more := by
  cases token with
  | number text => cases found; exact ⟨_, rfl⟩
  | identifier name => cases found; exact ⟨_, rfl⟩
  | operator op =>
    rw [read?_operator] at found
    cases found
    exact ⟨_, rfl⟩
  | opening => cases found; exact ⟨[], (List.append_nil _).symm⟩
  | closing => exact ⟨_, (read?_closing.mp found).1⟩
  | equals => cases found
  | ignored => cases found; exact ⟨[], (List.append_nil _).symm⟩

theorem readAll?_cons {t t' : Translation} {token : Token} {tokens : List Token} :
    t.readAll? (token :: tokens) = some t' ↔
      ∃ t₁, t.read? token = some t₁ ∧ t₁.readAll? tokens = some t' := by
  unfold readAll?
  rw [List.foldlM_cons]
  exact Option.bind_eq_some_iff

/-- A translation only adds to its output. -/
theorem extends_of_readAll? {t t' : Translation} {tokens : List Token}
    (found : t.readAll? tokens = some t') : ∃ more, t'.output = t.output ++ more := by
  induction tokens generalizing t with
  | nil =>
    cases found
    exact ⟨[], (List.append_nil _).symm⟩
  | cons token tokens ih =>
    obtain ⟨t₁, first, rest⟩ := readAll?_cons.mp found
    obtain ⟨early, onFirst⟩ := extends_of_read? first
    obtain ⟨late, onRest⟩ := ih rest
    exact ⟨early ++ late, by rw [onRest, onFirst, List.append_assoc]⟩

end Translation

end Calculator
