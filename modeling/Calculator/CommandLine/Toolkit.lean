import Calculator.Session.Basic

/-!
# What the program is built from

Two things are done for the program and not by it: its arguments are read, and so are the
lines of its prompt. It works with any functions that do this. They are the two parts of a
toolkit, and nothing is said here about what they do, except that a line that is read is
taken off the input.
-/

namespace Calculator.CommandLine

inductive LogLevel
  | off
  | error
  | warn
  | info
  | debug
  | trace
  deriving DecidableEq, Repr

/-- Whether a level asks for the events of a severity. -/
def LogLevel.shows : LogLevel → Severity → Bool
  | .trace, _ => true
  | .debug, .debug => true
  | _, _ => false

/-- What the arguments ask for: lines to execute, a file with lines, a place for the history
of the prompt, and how much is to be logged. -/
structure Arguments where
  lines : List String
  file : Option String
  history : Option String
  logLevel : LogLevel
  deriving DecidableEq, Repr

def Arguments.none : Arguments := ⟨[], Option.none, Option.none, .warn⟩

/-- What a program leaves behind: what it printed and logged, and a path with the text that
was written there. -/
structure Outcome where
  exitCode : Nat
  output : String
  errors : String
  log : List Event
  written : Option (String × String)

namespace Outcome

def success (output : String) : Outcome := ⟨0, output, "", [], none⟩

def failure (output message : String) : Outcome := ⟨1, output, message ++ "\n", [], none⟩

end Outcome

/-- What came of reading the arguments. Wrong arguments, and those that ask for help, are
answered at once. -/
inductive ArgumentsRead
  | arguments (arguments : Arguments)
  | answered (outcome : Outcome)

/-- What came of reading a line from an input. -/
inductive LineRead
  | line (text : String) (rest : List Char)
  | ended
  /-- The line cannot be read. -/
  | failed (message : String)
  /-- The program is stopped, with an exit code. -/
  | stopped (exitCode : Nat) (message : String)

/-- A line editor. It reads the lines of the prompt and remembers them. -/
structure Editor where
  /-- The lines that are remembered. -/
  History : Type
  start : Except String History
  /-- Remembers the lines of a file, if it can be read. -/
  load : History → Option ByteArray → History
  read : List Char → LineRead
  shortens : ∀ {input rest : List Char} {text : String},
    read input = .line text rest → rest.length < input.length
  remember : History → String → Except String History
  /-- The text of the file to be written, if any. -/
  text? : History → Option String

/-- What the program is built from. -/
structure Toolkit where
  read : List String → ArgumentsRead
  editor : Editor

end Calculator.CommandLine
