import Calculator.CommandLine.Toolkit

/-!
# The prompt

Without lines and without a file the program greets, reads its input line by line and
answers each line, and says goodbye when the input ends or a line quits.
-/

namespace Calculator.CommandLine

/-- A session at the prompt and the lines it has read. -/
structure Prompt (editor : Editor) where
  session : Session
  history : editor.History

namespace Prompt

def welcome : String := "\nWelcome to stackcalc! Type h for help.\n\n"

def goodbye : String := "\nThanks for using stackcalc! Goodbye.\n\n"

inductive Ending (editor : Editor)
  /-- The input has ended, or a line quits. -/
  | over (last : Prompt editor)
  /-- A line could not be read, or not be remembered. -/
  | failed (message : String)
  | stopped (exitCode : Nat) (message : String)

variable {editor : Editor}

/-- Takes one line in: it is remembered and executed. -/
def enter (p : Prompt editor) (line : String) : Except String (Prompt editor × Reply) :=
  (editor.remember p.history line).map fun history =>
    let (session, reply) := p.session.execute line
    (⟨session, history⟩, reply)

/-- Reads lines off the input until none is left or one quits: the ending, and the replies to
the lines before it. -/
def converse (p : Prompt editor) (input : List Char) : Ending editor × List Reply :=
  match _read : editor.read input with
  | .ended => (.over p, [])
  | .failed message => (.failed message, [])
  | .stopped exitCode message => (.stopped exitCode message, [])
  | .line text rest =>
    match p.enter text with
    | .error message => (.failed message, [])
    | .ok (next, reply) =>
      if reply.response.isQuit then (.over next, [])
      else
        let (ending, replies) := next.converse rest
        (ending, reply :: replies)
termination_by input.length
decreasing_by exact editor.shortens _read

end Prompt

end Calculator.CommandLine
