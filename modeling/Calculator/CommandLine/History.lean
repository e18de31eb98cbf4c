/-!
# The history of the prompt

The prompt remembers the lines it has read, up to a limit. Empty lines and
repetitions of the line before are not remembered. The history can be kept in
a file: a heading, then one line per entry, with backslashes and line feeds
escaped.
-/

namespace Calculator.CommandLine

/-- The remembered lines, oldest first, and whether some of them are new. -/
structure History where
  entries : List String
  hasNew : Bool
  deriving DecidableEq, Repr

namespace History

def limit : Nat := 100

/-- The first line of a history file. -/
def heading : String := "#V2"

def empty : History := ⟨[], false⟩

def add (h : History) (line : String) : History :=
  if line.isEmpty || h.entries.getLast? = some line then h
  else
    let entries := h.entries ++ [line]
    ⟨entries.drop (entries.length - limit), true⟩

/-- An entry as it stands in a file. -/
def escape (entry : List Char) : List Char :=
  entry.flatMap fun c =>
    if c = '\\' then ['\\', '\\'] else if c = '\n' then ['\\', 'n'] else [c]

def unescape : List Char → List Char
  | '\\' :: 'n' :: cs => '\n' :: unescape cs
  | '\\' :: '\\' :: cs => '\\' :: unescape cs
  | c :: cs => c :: unescape cs
  | [] => []

/-- Remembers the lines of a history file. None of them is new. -/
def ofLines (lines : List String) : History :=
  let entries :=
    match lines with
    | first :: rest =>
      if first = heading then rest.map fun line : String => String.ofList (unescape line.toList)
      else lines
    | [] => []
  { entries.foldl add empty with hasNew := false }

def text (h : History) : String :=
  heading ++ "\n" ++
    String.join (h.entries.map fun entry => String.ofList (escape entry.toList) ++ "\n")

end History

end Calculator.CommandLine
