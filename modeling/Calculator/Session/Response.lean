import Calculator.Decimal.Style
import Calculator.Evaluator.Basic

/-!
# Responses

What a session answers to a line, and the text of each answer. A value is
written so that it shows a point or an exponent; a listing writes two places.
-/

namespace Calculator

/-- The answer to a line. -/
inductive Response
  | help
  | quit
  | listing (bindings : List (Binding Float))
  | value (x : Float)
  | assigned (name : String) (x : Float)
  | invalid
  deriving Repr

namespace Response

def ofOutcome : Except Failure (Evaluation Float) → Response
  | .ok ⟨x, some name⟩ => assigned name x
  | .ok ⟨x, none⟩ => value x
  | .error _ => invalid

def helpText : String :=
  "\nHelp:\n" ++
  "  h - this message\n" ++
  "  q - quit\n" ++
  "  l - list variables\n" ++
  "Expressions can contain:\n" ++
  "  integers or decimal numbers\n" ++
  "  variables made of letters, assigned with name = expression\n" ++
  "  arithmetic operators +, -, *, /, %, ^\n" ++
  "  parentheses '(' and ')'\n"

/-- The answer to every line without a value. -/
def invalidText : String := "Not a valid expression. Try again."

def bindingText (b : Binding Float) : String :=
  "  " ++ b.name ++ " = " ++ Decimal.writeFixed Decimal.listingPlaces b.value ++ "\n"

def text : Response → String
  | help => helpText
  | quit => ""
  | listing bindings => "\nVariables:\n" ++ String.join (bindings.map bindingText)
  | value x => NumberStyle.result.write x
  | assigned name x => name ++ " = " ++ NumberStyle.result.write x
  | invalid => invalidText

/-- What is printed for an answer. -/
def printed (r : Response) : String := r.text ++ "\n"

def isQuit : Response → Bool
  | quit => true
  | _ => false

end Response

end Calculator
