import Calculator.CommandLine.LineEditor
import Calculator.CommandLine.Options
import Calculator.CommandLine.Prompt

/-!
# The program

What the program prints and returns, for given arguments, files and input. It is the same
program with every toolkit; `run` is the one with the reader of arguments and the line editor
of this library.
-/

namespace Calculator.CommandLine

/-- What a program finds around it. -/
structure Surroundings where
  /-- The bytes of a file, if it can be read. -/
  read? : String → Option ByteArray
  /-- The system's message, if a file cannot be written at a path. -/
  refusal? : String → Option String
  input : String

def unreadable (path : String) : String :=
  "Failed to read the input file '" ++ path ++ "'. Perhaps this file does not exist?"

def transcript (replies : List Reply) : String :=
  String.join (replies.map fun reply => reply.response.printed)

/-- Adds to an outcome the events of replies that a level asks for. -/
def Outcome.logging (outcome : Outcome) (level : LogLevel) (replies : List Reply) : Outcome :=
  { outcome with
    log := (replies.flatMap Reply.events).filter fun event => level.shows event.severity }

def runLines (level : LogLevel) (lines : List String) : Outcome :=
  let replies := Session.start.repliesUntilQuit lines
  (Outcome.success (transcript replies)).logging level replies

def runFile (level : LogLevel) (path : String) (bytes : Option ByteArray) : Outcome :=
  match scriptLines? bytes with
  | some lines => runLines level lines
  | none => .failure "" (unreadable path)

section Prompt

variable (editor : Editor) (around : Surroundings)

/-- Says goodbye, if the history can be written where it is kept. -/
def leave (path : Option String) (history : editor.History) (shown : String) : Outcome :=
  match path, editor.text? history with
  | some path, some text =>
    match around.refusal? path with
    | some message => .failure shown message
    | none => { Outcome.success (shown ++ Prompt.goodbye) with written := some (path, text) }
  | _, _ => .success (shown ++ Prompt.goodbye)

def runPrompt (level : LogLevel) (path : Option String) : Outcome :=
  match editor.start with
  | .error message => .failure "" message
  | .ok fresh =>
    let history :=
      match path with
      | some path => editor.load fresh (around.read? path)
      | none => fresh
    let (ending, replies) := (Prompt.mk Session.start history).converse around.input.toList
    let shown := Prompt.welcome ++ transcript replies
    let outcome :=
      match ending with
      | .over last => leave editor around path last.history shown
      | .failed message => .failure shown message
      | .stopped exitCode message => { Outcome.failure shown message with exitCode := exitCode }
    outcome.logging level replies

end Prompt

namespace Toolkit

variable (kit : Toolkit) (around : Surroundings)

/-- Does what the arguments ask for. -/
def execute (arguments : Arguments) : Outcome :=
  if !arguments.lines.isEmpty then runLines arguments.logLevel arguments.lines
  else
    match arguments.file with
    | some path => runFile arguments.logLevel path (around.read? path)
    | none => runPrompt kit.editor around arguments.logLevel arguments.history

def run (arguments : List String) : Outcome :=
  match kit.read arguments with
  | .answered outcome => outcome
  | .arguments arguments => kit.execute around arguments

/-- The toolkit of this library. -/
def standard : Toolkit := ⟨readArguments, lineEditor⟩

end Toolkit

/-- Runs the program with the toolkit of this library. -/
def run (around : Surroundings) (arguments : List String) : Outcome :=
  Toolkit.standard.run around arguments

end Calculator.CommandLine
