/-!
# Lines

A line ends at a line feed or at the end of the text. A carriage return right
before the line feed belongs to the ending; any other one belongs to the line.
A text that ends with a line feed has no empty line after it.

`lines` splits a whole text at once. `readLine?` takes one line off the front,
as a reader does that waits for its input line by line.
-/

namespace Calculator.Text

/-- The lines of a text. -/
def splitLines : List Char → List (List Char)
  | [] => []
  | '\n' :: cs => [] :: splitLines cs
  | '\r' :: '\n' :: cs => [] :: splitLines cs
  | c :: cs =>
    match splitLines cs with
    | [] => [[c]]
    | line :: rest => (c :: line) :: rest

def lines (s : String) : List String := (splitLines s.toList).map String.ofList

/-- A line without the line ending that it was read with. -/
def dropLineEnding (cs : List Char) : List Char :=
  match cs.reverse with
  | '\n' :: '\r' :: rest => rest.reverse
  | '\n' :: rest => rest.reverse
  | _ => cs

/-- The first line of a text with its line ending, and the rest. -/
def splitAtLineFeed : List Char → List Char × List Char
  | [] => ([], [])
  | c :: cs =>
    if c = '\n' then ([c], cs)
    else
      let (line, rest) := splitAtLineFeed cs
      (c :: line, rest)

/-- Takes one line off a text, unless nothing is left. -/
def readLine? (cs : List Char) : Option (List Char × List Char) :=
  if cs.isEmpty then none
  else
    let (line, rest) := splitAtLineFeed cs
    some (dropLineEnding line, rest)

theorem length_splitAtLineFeed (cs : List Char) :
    (splitAtLineFeed cs).2.length ≤ cs.length := by
  induction cs with
  | nil => exact Nat.le_refl _
  | cons c cs ih =>
    rw [splitAtLineFeed]
    split
    · exact Nat.le_succ _
    · exact Nat.le_succ_of_le ih

/-- A line that is taken off a text takes at least one character with it. -/
theorem length_splitAtLineFeed_cons (c : Char) (cs : List Char) :
    (splitAtLineFeed (c :: cs)).2.length < (c :: cs).length := by
  rw [splitAtLineFeed]
  split
  · exact Nat.lt_succ_self _
  · exact Nat.lt_succ_of_le (length_splitAtLineFeed cs)

theorem length_readLine? {cs line rest : List Char} (h : readLine? cs = some (line, rest)) :
    rest.length < cs.length := by
  cases cs with
  | nil => cases h
  | cons c cs =>
    obtain ⟨-, rfl⟩ := Prod.mk.inj (Option.some.inj h)
    exact length_splitAtLineFeed_cons c cs

end Calculator.Text
