import Calculator.Text.Blank

/-!
# Commands

A line is read without the blanks at its ends. The letters `h`, `q` and `l`
alone are commands of the session; every other line is to be evaluated.
-/

namespace Calculator

/-- What a line asks for. -/
inductive Command
  | help
  | quit
  | list
  | evaluate (expression : String)
  deriving DecidableEq, Repr

namespace Command

/-- The command of a text without blanks at its ends. -/
def ofTrimmed (text : String) : Command :=
  if text = "h" then help
  else if text = "q" then quit
  else if text = "l" then list
  else evaluate text

def ofLine (line : String) : Command := ofTrimmed (Text.trim line)

end Command

end Calculator
