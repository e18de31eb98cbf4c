import Calculator.Decimal.Style
import Calculator.Evaluator.Basic
import Calculator.Text.Quoted

/-!
# The event log

What happens while a line is executed, in order: its text is scanned, the
operators are applied one by one, and the line ends with a value, a binding or
a failure.
-/

namespace Calculator

inductive Severity
  | debug
  | trace
  deriving DecidableEq, Repr

/-- A step in the execution of a line. -/
inductive Event
  | scanned (source : String) (count : Nat)
  | scanFailed (failure : Failure)
  | reduced (reduction : Reduction Float)
  | bound (name : String) (x : Float)
  | evaluated (x : Float)
  | failed (failure : Failure)
  deriving Repr

namespace Event

/-- Single reductions are traced; everything else is for debugging. -/
def severity : Event → Severity
  | reduced _ => .trace
  | _ => .debug

/-- The number of tokens that an event reports, if it reports one. -/
def tokenCount? : Event → Option Nat
  | scanned _ count => some count
  | _ => none

def number (x : Float) : String := NumberStyle.log.write x

def message : Event → String
  | scanned source _ => "tokenized " ++ Text.quoted source
  | scanFailed failure => "tokenizing failed: " ++ failure.message
  | reduced r =>
    number r.lhs ++ " " ++ r.op.text ++ " " ++ number r.rhs ++ " = " ++ number r.value
  | bound name x => "bound " ++ name ++ " = " ++ number x
  | evaluated x => "evaluated to " ++ number x
  | failed failure => "evaluation failed: " ++ failure.message

/-- The event that ends the evaluation of a line. -/
def ofOutcome : Except Failure (Evaluation Float) → Event
  | .ok ⟨x, some name⟩ => bound name x
  | .ok ⟨x, none⟩ => evaluated x
  | .error failure => failed failure

def ofTraced (traced : Traced Float (Evaluation Float)) : List Event :=
  traced.reductions.map reduced ++ [ofOutcome traced.outcome]

end Event

end Calculator
