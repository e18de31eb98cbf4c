import Calculator.Arithmetic
import Calculator.Evaluator.Traced
import Calculator.Stack
import Calculator.Store
import Calculator.Token.Basic

/-!
# The workspace

A line is evaluated in one pass over its tokens, with a stack of operands and
a stack of operators that wait for their right operand. No tree is built: how
an expression groups follows from when a waiting operator is unwound.

* An incoming operator first unwinds the waiting ones that must be applied
  before it (`Operator.unwinds`).
* A closing parenthesis unwinds down to the opening one and removes it.
* The end of the line unwinds everything.

All three are one function, `unwind`, with different conditions.
-/

namespace Calculator

/-- What waits on the operator stack. -/
inductive Pending
  /-- An operator whose right operand is not complete. -/
  | operator (op : Operator)
  | opening
  deriving DecidableEq, Repr

def Pending.isOperator : Pending → Bool
  | operator _ => true
  | opening => false

/-- Whether an incoming operator makes a waiting entry be applied first. A `^` makes
nothing be applied, so it groups to the right; an opening parenthesis stays, and so do
`+` and `-` before `*`, `/` and `%`. -/
def Operator.unwinds (incoming : Operator) : Pending → Bool
  | .operator waiting => incoming ≠ .pow && !(incoming.isMultiplicative && waiting.isAdditive)
  | .opening => false

/-- By their levels: an operator other than `^` has all operators applied first that do not
bind less tightly. -/
theorem Operator.unwinds_operator (op waiting : Operator) :
    op.unwinds (.operator waiting) = (op ≠ .pow && decide (op.level ≤ waiting.level)) := by
  cases op <;> cases waiting <;> rfl

/-- The operands and the waiting operators in the middle of a line. -/
structure Workspace (α : Type) where
  operands : Stack α
  pending : Stack Pending
  deriving DecidableEq, Repr

namespace Workspace

variable {α : Type}

def empty : Workspace α := ⟨Stack.empty, Stack.empty⟩

def isEmpty (w : Workspace α) : Bool := w.operands.isEmpty && w.pending.isEmpty

def pushOperand (w : Workspace α) (value : α) : Workspace α :=
  { w with operands := Stack.push w.operands value }

def pushPending (w : Workspace α) (entry : Pending) : Workspace α :=
  { w with pending := Stack.push w.pending entry }

/-- Applies an entry that was taken from the operator stack to the topmost
operands, the upper one being the right operand. -/
def applyTop (arith : Arithmetic α) (entry : Pending) (operands : Stack α) :
    Traced α (Stack α) :=
  match operands with
  | [] => .irreducible .missingOperand
  | rhs :: operands =>
    match entry with
    | .opening => .malformed .unmatchedOpening
    | .operator op =>
      match operands with
      | [] => .irreducible .missingOperand
      | lhs :: operands =>
        let value := arith.apply op lhs rhs
        .reduced ⟨op, lhs, rhs, value⟩ (Stack.push operands value)

/-- Applies waiting entries from the top down, as long as they are due. -/
def unwind (arith : Arithmetic α) (isDue : Pending → Bool) (operands : Stack α) :
    (pending : Stack Pending) → Traced α (Workspace α)
  | [] => pure ⟨operands, []⟩
  | entry :: pending =>
    if isDue entry then do
      let operands ← applyTop arith entry operands
      unwind arith isDue operands pending
    else
      pure ⟨operands, entry :: pending⟩

/-- Removes the opening parenthesis that a closing one has unwound to. -/
def close (w : Workspace α) : Traced α (Workspace α) :=
  match w.pending with
  | .opening :: pending => pure { w with pending }
  | _ => .malformed .unmatchedClosing

/-- Takes one token into the workspace. Its position in the line is needed to
report an equals sign, which has no place in an expression. -/
def read (arith : Arithmetic α) (store : Store α) (position : Nat) (w : Workspace α) :
    Token → Traced α (Workspace α)
  | .number text =>
    match arith.read? text with
    | some value => pure (w.pushOperand value)
    | none => .malformed (.malformedNumber text)
  | .identifier name => pure (w.pushOperand ((store.lookup name).getD arith.unbound))
  | .opening => pure (w.pushPending .opening)
  | .closing => do
    let w ← unwind arith Pending.isOperator w.operands w.pending
    w.close
  | .operator op => do
    let w ← unwind arith op.unwinds w.operands w.pending
    pure (w.pushPending (.operator op))
  | .equals => .malformed (.misplacedEquals position)
  | .ignored => pure w

/-- Takes tokens into the workspace one after the other. The first one has the
given position in the line. -/
def readAll (arith : Arithmetic α) (store : Store α) (position : Nat) (w : Workspace α) :
    List Token → Traced α (Workspace α)
  | [] => pure w
  | token :: tokens => do
    let w ← read arith store position w token
    readAll arith store (position + 1) w tokens

def result (w : Workspace α) : Traced α α :=
  match w.operands with
  | [] => .irreducible .missingOperand
  | [value] => pure value
  | operands => .irreducible (.residualOperands operands.length)

/-- Applies everything that still waits and gives the one value that results. -/
def finish (arith : Arithmetic α) (w : Workspace α) : Traced α α := do
  let w ← unwind arith (fun _ => true) w.operands w.pending
  w.result

end Workspace

end Calculator
