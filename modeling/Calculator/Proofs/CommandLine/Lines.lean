import Calculator.CommandLine.Program
import Calculator.Proofs.Session.Log

/-!
# Lines split at once and lines read one by one

The lines of a script are split off the whole text and executed up to the first one that
quits. The prompt takes one line after the other off its input and answers it before it reads
on. Both answer what one session answers to a list of lines.

What the prompt does depends on its line editor. `Editor.Reads editor text` says that the
editor reads a text as it stands: up to a line feed, without the line ending, and to the end.

Results:
1. `Text.splitLines_of_readLine?`: reading line by line gives the lines of a text.
2. `Session.repliesUntilQuit_eq`: what is answered up to the first line that quits.
3. `Editor.Reads.read_eq`: what such an editor reads at any place of the text.
4. `Prompt.converse_eq`: what the prompt answers.
5. `lineEditor_reads`: the line editor reads a text without backspaces as it stands.
-/

namespace Calculator

/-! ## Reading a text line by line -/

namespace Text

/-- A character in front of a line stays in front of it, unless it is a part of the
line ending. -/
theorem dropLineEnding_cons {c : Char} {line : List Char} (noFeed : c = '\n' → line ≠ [])
    (noReturn : c = '\r' → line ≠ ['\n']) :
    dropLineEnding (c :: line) = c :: dropLineEnding line := by
  rcases reversed : line.reverse with _ | ⟨last, _ | ⟨before, earlier⟩⟩
  · obtain rfl := List.reverse_eq_nil_iff.mp reversed
    have other : c ≠ '\n' := fun feed => noFeed feed rfl
    simp [dropLineEnding, other]
  · obtain rfl : line = [last] := by rw [← List.reverse_reverse line, reversed]; rfl
    have other : c = '\r' → last ≠ '\n' := fun ret feed => noReturn ret (feed ▸ rfl)
    by_cases feed : last = '\n' <;> by_cases ret : c = '\r' <;> simp_all [dropLineEnding]
  · by_cases feed : last = '\n' <;> by_cases ret : before = '\r' <;>
      simp [dropLineEnding, reversed, feed, ret]

theorem splitLines_cons (c : Char) (cs : List Char) :
    splitLines (c :: cs) =
      dropLineEnding (splitAtLineFeed (c :: cs)).1 :: splitLines (splitAtLineFeed (c :: cs)).2 := by
  induction cs generalizing c with
  | nil =>
    by_cases feed : c = '\n'
    · rw [feed]
      rfl
    · simp [splitLines, splitAtLineFeed, dropLineEnding, feed]
  | cons d ds ih =>
    by_cases feed : c = '\n'
    · rw [feed]
      rfl
    by_cases pair : c = '\r' ∧ d = '\n'
    · rw [pair.1, pair.2]
      rfl
    have step : splitAtLineFeed (c :: d :: ds) =
        (c :: (splitAtLineFeed (d :: ds)).1, (splitAtLineFeed (d :: ds)).2) := by
      rw [splitAtLineFeed, if_neg feed]
    have noReturn : c = '\r' → (splitAtLineFeed (d :: ds)).1 ≠ ['\n'] := by
      intro ret alone
      refine pair ⟨ret, ?_⟩
      rw [splitAtLineFeed] at alone
      split at alone
      · assumption
      · exact (List.cons.inj alone).1
    rw [step, splitLines, ih d, dropLineEnding_cons (fun isFeed => absurd isFeed feed) noReturn]
    · exact feed
    · rintro _ ret equal
      exact pair ⟨ret, (List.cons.inj equal).1⟩

/-- The line that is taken off a text is the first of its lines. -/
theorem splitLines_of_readLine? {cs line rest : List Char}
    (read : readLine? cs = some (line, rest)) : splitLines cs = line :: splitLines rest := by
  cases cs with
  | nil => cases read
  | cons c cs =>
    obtain ⟨rfl, rfl⟩ := Prod.mk.inj (Option.some.inj read)
    exact splitLines_cons c cs

theorem splitLines_of_readLine?_eq_none {cs : List Char} (read : readLine? cs = none) :
    splitLines cs = [] := by
  cases cs with
  | nil => rfl
  | cons c cs => cases read

/-! ### Where a line ends -/

theorem splitAtLineFeed_append {line : List Char} (oneLine : '\n' ∉ line) (rest : List Char) :
    splitAtLineFeed (line ++ '\n' :: rest) = (line ++ ['\n'], rest) := by
  induction line with
  | nil => rfl
  | cons c line ih =>
    obtain ⟨other, later⟩ := not_or.mp (List.mem_cons.not.mp oneLine)
    rw [List.cons_append, splitAtLineFeed, if_neg (Ne.symm other), ih later]
    rfl

theorem splitAtLineFeed_of_notMem {line : List Char} (oneLine : '\n' ∉ line) :
    splitAtLineFeed line = (line, []) := by
  induction line with
  | nil => rfl
  | cons c line ih =>
    obtain ⟨other, later⟩ := not_or.mp (List.mem_cons.not.mp oneLine)
    rw [splitAtLineFeed, if_neg (Ne.symm other), ih later]

theorem readLine?_of_split {cs line rest : List Char} (present : cs ≠ [])
    (split : splitAtLineFeed cs = (line, rest)) :
    readLine? cs = some (dropLineEnding line, rest) := by
  rw [readLine?, if_neg (by simpa using present), split]

theorem readLine?_feed {line : List Char} (oneLine : '\n' ∉ line)
    (bare : line.getLast? ≠ some '\r') (rest : List Char) :
    readLine? (line ++ '\n' :: rest) = some (line, rest) := by
  have dropped : dropLineEnding (line ++ ['\n']) = line := by
    rcases line.eq_nil_or_concat with rfl | ⟨front, last, rfl⟩
    · rfl
    · have other : last ≠ '\r' := fun equal => bare (by simp [equal])
      simp [dropLineEnding, other]
  rw [readLine?_of_split (by simp) (splitAtLineFeed_append oneLine rest), dropped]

theorem readLine?_returnFeed {line : List Char} (oneLine : '\n' ∉ line) (rest : List Char) :
    readLine? (line ++ '\r' :: '\n' :: rest) = some (line, rest) := by
  have split : splitAtLineFeed (line ++ '\r' :: '\n' :: rest) =
      (line ++ ['\r'] ++ ['\n'], rest) := by
    rw [← splitAtLineFeed_append (by simpa using oneLine), List.append_assoc, List.singleton_append]
  have dropped : dropLineEnding (line ++ ['\r'] ++ ['\n']) = line := by simp [dropLineEnding]
  rw [readLine?_of_split (by simp) split, dropped]

theorem readLine?_last {line : List Char} (oneLine : '\n' ∉ line) (present : line ≠ []) :
    readLine? line = some (line, []) := by
  have dropped : dropLineEnding line = line := by
    obtain ⟨front, last, rfl⟩ := line.eq_nil_or_concat.resolve_left present
    have other : last ≠ '\n' := by rintro rfl; exact oneLine (by simp)
    simp [dropLineEnding, other]
  rw [readLine?_of_split present (splitAtLineFeed_of_notMem oneLine), dropped]

/-- A text has no line feed, or its first line ends in one of the two ways. -/
theorem line_cases (cs : List Char) :
    '\n' ∉ cs ∨
      (∃ line rest, cs = line ++ '\n' :: rest ∧ '\n' ∉ line ∧ line.getLast? ≠ some '\r') ∨
      ∃ line rest, cs = line ++ '\r' :: '\n' :: rest ∧ '\n' ∉ line := by
  by_cases present : '\n' ∈ cs
  case neg => exact .inl present
  obtain ⟨line, rest, rfl, oneLine⟩ := List.eq_append_cons_of_mem present
  by_cases bare : line.getLast? = some '\r'
  · obtain ⟨front, rfl⟩ := List.getLast?_eq_some_iff.mp bare
    refine .inr (.inr ⟨front, rest, List.append_assoc _ _ _, fun feed => ?_⟩)
    exact oneLine (List.mem_append_left _ feed)
  · exact .inr (.inl ⟨line, rest, rfl, oneLine, bare⟩)

/-- What is left after a line is the end of the text. -/
theorem isSuffix_of_readLine? {cs line rest : List Char}
    (read : readLine? cs = some (line, rest)) : rest <:+ cs := by
  rcases line_cases cs with oneLine | ⟨_, _, rfl, oneLine, bare⟩ | ⟨_, _, rfl, oneLine⟩
  · rcases cs.eq_nil_or_concat with rfl | ⟨front, last, rfl⟩
    · cases read
    · rw [readLine?_last oneLine (by simp)] at read
      cases read
      exact List.nil_suffix
  · rw [readLine?_feed oneLine bare] at read
    cases read
    exact ⟨line ++ ['\n'], by simp⟩
  · rw [readLine?_returnFeed oneLine] at read
    cases read
    exact ⟨line ++ ['\r', '\n'], by simp⟩

end Text

/-! ## Executing lines up to one that quits -/

theorem Response.isQuit_ofOutcome (outcome : Except Failure (Evaluation Float)) :
    (ofOutcome outcome).isQuit = false := by
  rcases outcome with _ | ⟨_, _ | _⟩ <;> rfl

namespace Session

/-- The lines before the first one that quits. -/
def beforeQuit (lines : List String) : List String :=
  lines.takeWhile fun line => Text.trim line ≠ "q"

theorem beforeQuit_of_quit {line : String} (lines : List String) (quits : Text.trim line = "q") :
    beforeQuit (line :: lines) = [] := by
  simp [beforeQuit, quits]

theorem beforeQuit_of_other {line : String} (lines : List String) (other : Text.trim line ≠ "q") :
    beforeQuit (line :: lines) = line :: beforeQuit lines := by
  simp [beforeQuit, other]

/-- Only the letter `q` with blanks around it quits. -/
theorem isQuit_execute (s : Session) (line : String) :
    (s.execute line).2.response.isQuit = true ↔ Text.trim line = "q" := by
  by_cases letter : Text.trim line = "h" ∨ Text.trim line = "q" ∨ Text.trim line = "l"
  · rcases letter with same | same | same <;>
      simp [execute, Command.ofLine, Command.ofTrimmed, same, Response.isQuit]
  · have evaluated : (s.execute line).2.response.isQuit = false := by
      rw [s.execute_of_other letter, evaluate]
      split
      · rfl
      · exact Response.isQuit_ofOutcome _
    rw [evaluated]
    exact iff_of_false Bool.false_ne_true fun quits => letter (.inr (.inl quits))

theorem repliesUntilQuit_cons (s : Session) (line : String) (lines : List String) :
    s.repliesUntilQuit (line :: lines) =
      if (s.execute line).2.response.isQuit then []
      else (s.execute line).2 :: (s.execute line).1.repliesUntilQuit lines := by
  rw [repliesUntilQuit]

/-- The replies up to the first line that quits are those to the lines before it. -/
theorem repliesUntilQuit_eq (s : Session) (lines : List String) :
    s.repliesUntilQuit lines = (s.executeAll (beforeQuit lines)).2 := by
  induction lines generalizing s with
  | nil => rfl
  | cons line lines ih =>
    rw [repliesUntilQuit_cons]
    by_cases quits : Text.trim line = "q"
    · rw [if_pos ((s.isQuit_execute line).mpr quits), beforeQuit_of_quit lines quits]
      rfl
    · rw [if_neg fun isQuit => quits ((s.isQuit_execute line).mp isQuit),
        beforeQuit_of_other lines quits, executeAll_cons, ih]

end Session

/-! ## What is printed -/

namespace CommandLine

/-- What a fresh session answers to lines, a line feed after every answer. -/
def answers (lines : List String) : String :=
  String.join ((Session.start.executeAll lines).2.map fun reply => reply.response.text ++ "\n")

/-! ## The prompt -/

/-- `Reads editor text`: the editor can be used, and it reads a text line by line as it
stands. A line ends at a line feed, with or without a carriage return before it, or at the
end of the text, and the input has ended when nothing is left of it. -/
structure Editor.Reads (editor : Editor) (text : List Char) : Prop where
  starts : ∃ fresh, editor.start = .ok fresh
  remembers : ∀ history line, ∃ next, editor.remember history line = .ok next
  ended : editor.read [] = .ended
  feed : ∀ {line rest : List Char}, line ++ '\n' :: rest <:+ text → '\n' ∉ line →
    line.getLast? ≠ some '\r' →
    editor.read (line ++ '\n' :: rest) = .line (String.ofList line) rest
  returnFeed : ∀ {line rest : List Char}, line ++ '\r' :: '\n' :: rest <:+ text → '\n' ∉ line →
    editor.read (line ++ '\r' :: '\n' :: rest) = .line (String.ofList line) rest
  last : ∀ {line : List Char}, line <:+ text → '\n' ∉ line → line ≠ [] →
    editor.read line = .line (String.ofList line) []

namespace Editor.Reads

variable {editor : Editor} {text : List Char}

theorem read_eq (reads : editor.Reads text) {input : List Char} (within : input <:+ text) :
    editor.read input =
      match Text.readLine? input with
      | none => .ended
      | some (line, rest) => .line (String.ofList line) rest := by
  rcases Text.line_cases input with oneLine | ⟨_, _, rfl, oneLine, bare⟩ | ⟨_, _, rfl, oneLine⟩
  · by_cases present : input = []
    · rw [present, reads.ended]
      rfl
    · rw [reads.last within oneLine present, Text.readLine?_last oneLine present]
  · rw [reads.feed within oneLine bare, Text.readLine?_feed oneLine bare]
  · rw [reads.returnFeed within oneLine, Text.readLine?_returnFeed oneLine]

end Editor.Reads

namespace Prompt

variable {editor : Editor}

theorem converse_of_ended (p : Prompt editor) {input : List Char}
    (ended : editor.read input = .ended) : p.converse input = (.over p, []) := by
  rw [converse]
  split <;> simp_all

theorem converse_of_line {p : Prompt editor} {input rest : List Char} {line : String}
    {history : editor.History} (taken : editor.read input = .line line rest)
    (remembered : editor.remember p.history line = .ok history) :
    let next : Prompt editor := ⟨(p.session.execute line).1, history⟩
    p.converse input =
      if Text.trim line = "q" then (.over next, [])
      else ((next.converse rest).1, (p.session.execute line).2 :: (next.converse rest).2) := by
  intro next
  have entered : p.enter line = .ok (next, (p.session.execute line).2) := by
    rw [enter, remembered]
    rfl
  rw [converse]
  split <;> simp_all [p.session.isQuit_execute line]

/-- The prompt answers the lines of a text that its editor reads as it stands, up to the first
line that quits. -/
theorem converse_eq {text : List Char} (reads : editor.Reads text) (p : Prompt editor)
    {input : List Char} (within : input <:+ text) :
    let lines := (Text.splitLines input).map String.ofList
    ∃ last, p.converse input =
      (.over last, (p.session.executeAll (Session.beforeQuit lines)).2) := by
  intro lines
  have heard := reads.read_eq within
  rcases taken : Text.readLine? input with _ | ⟨line, rest⟩
  case none =>
    rw [taken] at heard
    have empty : lines = [] := by
      rw [← List.map_nil, ← Text.splitLines_of_readLine?_eq_none taken]
    exact ⟨p, by rw [p.converse_of_ended heard, empty]; rfl⟩
  case some =>
    rw [taken] at heard
    have split : lines = String.ofList line :: (Text.splitLines rest).map String.ofList := by
      rw [← List.map_cons, ← Text.splitLines_of_readLine? taken]
    obtain ⟨history, remembered⟩ := reads.remembers p.history (String.ofList line)
    let next : Prompt editor := ⟨(p.session.execute (String.ofList line)).1, history⟩
    have later : rest <:+ text := (Text.isSuffix_of_readLine? taken).trans within
    obtain ⟨last, answered⟩ := converse_eq reads next later
    rw [converse_of_line heard remembered, split]
    split_ifs with quits
    · rw [Session.beforeQuit_of_quit _ quits]
      exact ⟨_, rfl⟩
    · rw [Session.beforeQuit_of_other _ quits, Session.executeAll_cons, answered]
      exact ⟨last, rfl⟩
termination_by input.length
decreasing_by exact Text.length_readLine? taken

end Prompt

/-! ## The line editor -/

theorem LineEditor.read_of_readLine? {input line rest : List Char}
    (taken : Text.readLine? input = some (line, rest)) (plain : Text.backspace ∉ line) :
    LineEditor.read input = .line (String.ofList line) rest := by
  rw [LineEditor.read, taken]
  simp only [Text.settle?_eq_some plain]

/-- The line editor reads a text without backspaces as it stands. -/
theorem lineEditor_reads {text : List Char} (plain : Text.backspace ∉ text) :
    lineEditor.Reads text where
  starts := ⟨.empty, rfl⟩
  remembers history line := ⟨history.add line, rfl⟩
  ended := rfl
  feed within oneLine bare :=
    LineEditor.read_of_readLine? (Text.readLine?_feed oneLine bare _) fun present =>
      plain (within.subset (List.mem_append_left _ present))
  returnFeed within oneLine :=
    LineEditor.read_of_readLine? (Text.readLine?_returnFeed oneLine _) fun present =>
      plain (within.subset (List.mem_append_left _ present))
  last within oneLine present :=
    LineEditor.read_of_readLine? (Text.readLine?_last oneLine present) fun member =>
      plain (within.subset member)

end CommandLine

end Calculator
