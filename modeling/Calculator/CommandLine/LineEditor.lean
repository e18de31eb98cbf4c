import Calculator.CommandLine.History
import Calculator.CommandLine.Toolkit
import Calculator.Text.Backspace
import Calculator.Text.Lines

/-!
# The line editor

The line editor that the program is built with. It reads one line after the other, settles
the backspaces of each, and remembers them in a history. A line whose backspaces cannot be
settled stops the program.
-/

namespace Calculator.CommandLine

/-- The lines of a file, if it is text. -/
def scriptLines? (bytes : Option ByteArray) : Option (List String) :=
  (bytes.bind String.fromUTF8?).map Text.lines

namespace LineEditor

/-- The history that a file holds. One that is not text holds none. -/
def load (bytes : Option ByteArray) : History :=
  match scriptLines? bytes with
  | some lines => .ofLines lines
  | none => .empty

/-- Reads a line off the input, with its backspaces settled. -/
def read (input : List Char) : LineRead :=
  match Text.readLine? input with
  | none => .ended
  | some (sent, rest) =>
    match Text.settle? sent with
    | some line => .line (String.ofList line) rest
    | none => .stopped 101 "A backspace cuts a character in two."

theorem length_read {input rest : List Char} {text : String} (read : read input = .line text rest) :
    rest.length < input.length := by
  unfold LineEditor.read at read
  split at read
  · cases read
  · next taken =>
    split at read
    · cases read
      exact Text.length_readLine? taken
    · cases read

end LineEditor

/-- The line editor. A history without new lines is not written. -/
def lineEditor : Editor where
  History := History
  start := .ok .empty
  load _ := LineEditor.load
  read := LineEditor.read
  shortens := LineEditor.length_read
  remember history line := .ok (history.add line)
  text? history := if history.hasNew then some history.text else none

end Calculator.CommandLine
