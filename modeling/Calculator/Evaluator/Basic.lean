import Calculator.Evaluator.Statement
import Calculator.Evaluator.Workspace
import Calculator.Token.Scan

/-!
# The evaluator

An evaluator holds the variables and the workspace. Evaluating a line uses the
workspace and empties it, whether the line has a value or not. Variables change
only when an assignment succeeds, and then only the one that is assigned to.
-/

namespace Calculator

/-- The value of a line and the variable it was assigned to, if any. -/
structure Evaluation (α : Type) where
  value : α
  target : Option String
  deriving DecidableEq, Repr

/-- The variables of a calculator and its workspace. -/
structure Evaluator (α : Type) where
  store : Store α
  workspace : Workspace α
  deriving DecidableEq, Repr

namespace Evaluator

variable {α : Type}

def ofStore (store : Store α) : Evaluator α := ⟨store, Workspace.empty⟩

/-- Evaluates the tokens of a line against the variables and the workspace as
they are. -/
def run (arith : Arithmetic α) (ev : Evaluator α) (tokens : List Token) :
    Traced α (Evaluation α) := do
  let statement ← Traced.ofExcept ((Statement.ofTokens? tokens).mapError Failure.malformed)
  let expression := tokens.drop statement.start
  let workspace ←
    Workspace.readAll arith ev.store statement.start ev.workspace expression
  let value ← workspace.finish arith
  pure ⟨value, statement.target⟩

def storeAfter (store : Store α) : Except Failure (Evaluation α) → Store α
  | .ok ⟨value, some name⟩ => store.bind name value
  | _ => store

/-- Evaluates the tokens of a line: the evaluator afterwards, and the outcome
with the reductions that led to it. -/
def evaluate (arith : Arithmetic α) (ev : Evaluator α) (tokens : List Token) :
    Evaluator α × Traced α (Evaluation α) :=
  let traced := ev.run arith tokens
  (⟨storeAfter ev.store traced.outcome, Workspace.empty⟩, traced)

end Evaluator

/-- The variables that every calculator starts with: `pi` and `e`. -/
def Store.seeded : Store Float :=
  (Store.empty.bind "pi" 3.141592653589793).bind "e" 2.718281828459045

/-- The value of a single line, for an evaluator that starts with the seeded
variables and is discarded afterwards. -/
def valueOfLine (source : String) : Except Failure Float := do
  let tokens ← (Token.scan source).mapError Failure.malformed
  let evaluation ← ((Evaluator.ofStore Store.seeded).evaluate .binary64 tokens).2.outcome
  pure evaluation.value

end Calculator
