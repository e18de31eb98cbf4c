import Calculator.Proofs.CommandLine.Lines

/-!
# Three ways of feeding lines

A text can be fed to the program as a file, line by line in its arguments, or at the prompt.
A fresh session executes the same lines each time, so the program prints the same answers;
only the prompt greets and says goodbye.

This is so with every toolkit whose reader of arguments knows the options
(`Toolkit.ReadsArguments`) and whose line editor reads the text as it stands
(`Editor.Reads`). The standard toolkit is one (`standard_readsArguments`), for a text without
backspaces (`lineEditor_reads`).

Results:
1. `execute_lines`, `execute_file`, `execute_prompt`: what is printed for each source.
2. `feeds_agree`: the three sources with the lines of one text.
-/

namespace Calculator.CommandLine

/-- `Succeeds outcome output`: the program succeeds, prints this, and leaves nothing else
behind, events in the log apart. -/
def Outcome.Succeeds (outcome : Outcome) (output : String) : Prop :=
  outcome.exitCode = 0 ∧ outcome.output = output ∧ outcome.errors = "" ∧ outcome.written = none

namespace Toolkit

/-! ## Arguments -/

/-- `Accepts kit option value`: an option is accepted with a value when it is given alone. -/
def Accepts (kit : Toolkit) (option value : String) : Prop :=
  ∃ asked, kit.read [option, value] = .arguments asked

/-- `ReadsArguments kit`: no argument needs to be given, `-f` asks for a file, and `-e` asks
for a line and can be repeated. -/
structure ReadsArguments (kit : Toolkit) : Prop where
  bare : kit.read [] = .arguments .none
  file : ∀ {path : String}, kit.Accepts "-f" path →
    kit.read ["-f", path] = .arguments { Arguments.none with file := some path }
  lines : ∀ {lines : List String}, (∀ line ∈ lines, kit.Accepts "-e" line) →
    kit.read (lines.flatMap fun line => ["-e", line]) = .arguments { Arguments.none with lines }

/-! ## Sources -/

section Sources

variable {kit : Toolkit} {around : Surroundings} {asked : Arguments}

theorem succeeds_runLines (level : LogLevel) (lines : List String) :
    (runLines level lines).Succeeds (answers (Session.beforeQuit lines)) := by
  rw [runLines, Session.repliesUntilQuit_eq]
  exact ⟨rfl, rfl, rfl, rfl⟩

theorem execute_lines (present : asked.lines ≠ []) :
    (kit.execute around asked).Succeeds (answers (Session.beforeQuit asked.lines)) := by
  rw [execute, if_pos (by simpa using present)]
  exact succeeds_runLines _ _

theorem execute_file {path text : String} (noLines : asked.lines = [])
    (named : asked.file = some path) (found : around.read? path = some text.toUTF8) :
    (kit.execute around asked).Succeeds (answers (Session.beforeQuit (Text.lines text))) := by
  have decoded : String.fromUTF8? text.toUTF8 = some text := dif_pos text.isValidUTF8
  have read : scriptLines? (around.read? path) = some (Text.lines text) := by
    rw [found, scriptLines?, Option.bind_some, decoded, Option.map_some]
  rw [execute, noLines, named]
  change (runFile asked.logLevel path (around.read? path)).Succeeds _
  rw [runFile, read]
  exact succeeds_runLines _ _

/-- The prompt greets, answers the lines of a text that its editor reads as it stands, and
says goodbye. -/
theorem execute_prompt (reads : kit.editor.Reads around.input.toList) (noLines : asked.lines = [])
    (noFile : asked.file = none) (noHistory : asked.history = none) :
    (kit.execute around asked).Succeeds
      (Prompt.welcome ++ answers (Session.beforeQuit (Text.lines around.input)) ++
        Prompt.goodbye) := by
  obtain ⟨fresh, started⟩ := reads.starts
  obtain ⟨last, talked⟩ :=
    Prompt.converse_eq reads ⟨Session.start, fresh⟩ (List.suffix_refl around.input.toList)
  rw [execute, noLines, noFile, noHistory]
  change (runPrompt kit.editor around asked.logLevel none).Succeeds _
  rw [runPrompt, started]
  simp only [talked]
  exact ⟨rfl, rfl, rfl, rfl⟩

end Sources

/-! ## The reader of arguments -/

/-- An option and its value in an argument of its own. -/
theorem readFrom_awaits {argument : String} {setting : Setting}
    (awaits : Argument.ofText argument = .awaits setting) (o : Options) (value : String)
    (rest : List String) :
    Request.readFrom o (argument :: value :: rest) =
      if Argument.looksLikeOption value then .error (.missingValue setting)
      else (o.set setting value).bind fun o => Request.readFrom o rest := by
  rw [Request.readFrom.eq_def]
  simp only [awaits]
  rfl

theorem ofText_line : Argument.ofText "-e" = .awaits .expr := by decide

theorem ofText_file : Argument.ofText "-f" = .awaits .file := by decide

theorem readFrom_lines (o : Options) {lines : List String}
    (plain : ∀ line ∈ lines, Argument.looksLikeOption line = false) :
    Request.readFrom o (lines.flatMap fun line => ["-e", line]) =
      Request.ofOptions { o with lines := o.lines ++ lines } := by
  induction lines generalizing o with
  | nil =>
    rw [List.append_nil]
    rfl
  | cons line lines ih =>
    rw [List.forall_mem_cons] at plain
    change Request.readFrom o ("-e" :: line :: lines.flatMap fun line => ["-e", line]) = _
    rw [readFrom_awaits ofText_line, plain.1, if_neg Bool.false_ne_true]
    change Request.readFrom { o with lines := o.lines ++ [line] } _ = _
    rw [ih _ plain.2, List.append_assoc]
    rfl

/-- A value that is accepted does not look like an option and can be entered. -/
theorem set_of_accepts {option value : String} {setting : Setting}
    (awaits : Argument.ofText option = .awaits setting)
    (accepted : standard.Accepts option value) :
    Argument.looksLikeOption value = false ∧ ∃ o, Options.empty.set setting value = .ok o := by
  obtain ⟨asked, read⟩ := accepted
  change readArguments [option, value] = _ at read
  rw [readArguments, Request.ofArguments, readFrom_awaits awaits] at read
  cases dashed : Argument.looksLikeOption value with
  | true =>
    rw [dashed] at read
    cases read
  | false =>
    rw [dashed] at read
    cases entered : Options.empty.set setting value with
    | error fault =>
      rw [entered] at read
      cases read
    | ok o => exact ⟨rfl, o, rfl⟩

theorem standard_readsArguments : standard.ReadsArguments where
  bare := rfl
  file {path} accepted := by
    obtain ⟨plain, o, entered⟩ := set_of_accepts ofText_file accepted
    have present : path.isEmpty = false := by
      by_contra empty
      rw [Options.set, Options.setPath, if_pos (by simpa using empty)] at entered
      cases entered
    change readArguments ["-f", path] = _
    rw [readArguments, Request.ofArguments, readFrom_awaits ofText_file, plain, Options.set,
      Options.setPath, present]
    rfl
  lines {lines} accepted := by
    have plain : ∀ line ∈ lines, Argument.looksLikeOption line = false := fun line member =>
      (set_of_accepts ofText_line (accepted line member)).1
    change readArguments _ = _
    rw [readArguments, Request.ofArguments, readFrom_lines _ plain]
    cases lines <;> rfl

end Toolkit

/-! ## One text, three sources -/

/-- With the lines of one text in a file, in the arguments or at the prompt without a
history, the program succeeds and prints what a fresh session answers to the lines
before the first one that quits. The prompt greets before and says goodbye after it.
So it is for `-f`, for repeated `-e` and without arguments, and for all arguments
that ask for the same. -/
theorem feeds_agree (kit : Toolkit) (declared : kit.ReadsArguments) (around : Surroundings)
    (text : String) :
    let lines := Text.lines text
    let printed := answers (Session.beforeQuit lines)
    let greeted := Prompt.welcome ++ printed ++ Prompt.goodbye
    (∀ path, around.read? path = some text.toUTF8 → kit.Accepts "-f" path →
        (kit.run around ["-f", path]).Succeeds printed) ∧
      (lines ≠ [] → (∀ line ∈ lines, kit.Accepts "-e" line) →
        (kit.run around (lines.flatMap fun line => ["-e", line])).Succeeds printed) ∧
      (around.input = text → kit.editor.Reads text.toList →
        (kit.run around []).Succeeds greeted) ∧
      ∀ arguments asked, kit.read arguments = .arguments asked →
        (∀ path, around.read? path = some text.toUTF8 → asked.lines = [] →
          asked.file = some path → (kit.run around arguments).Succeeds printed) ∧
        (lines ≠ [] → asked.lines = lines → (kit.run around arguments).Succeeds printed) ∧
        (around.input = text → kit.editor.Reads text.toList → asked.lines = [] →
          asked.file = none → asked.history = none →
          (kit.run around arguments).Succeeds greeted) := by
  intro lines printed greeted
  have runs {arguments : List String} {asked : Arguments}
      (read : kit.read arguments = .arguments asked) :
      kit.run around arguments = kit.execute around asked := by
    rw [Toolkit.run, read]
  refine ⟨?file, ?lines, ?prompt, ?all⟩
  case file =>
    intro path found accepted
    rw [runs (declared.file accepted)]
    exact Toolkit.execute_file rfl rfl found
  case lines =>
    intro present accepted
    rw [runs (declared.lines accepted)]
    exact Toolkit.execute_lines present
  case prompt =>
    rintro rfl reads
    rw [runs declared.bare]
    exact Toolkit.execute_prompt reads rfl rfl rfl
  case all =>
    intro arguments asked read
    rw [runs read]
    refine ⟨fun path found noLines named => Toolkit.execute_file noLines named found, ?_, ?_⟩
    · intro present same
      change (kit.execute around asked).Succeeds (answers (Session.beforeQuit lines))
      rw [← same] at present ⊢
      exact Toolkit.execute_lines present
    · rintro rfl reads noLines noFile noHistory
      exact Toolkit.execute_prompt reads noLines noFile noHistory

/-- A text with both line endings, an empty line and blanks around `q`: in a file, in the
arguments and at the prompt. -/
theorem feeds_agree_script :
    let text := "x = 2\r\n\n q \nx"
    let around : Surroundings := ⟨fun _ => some text.toUTF8, fun _ => none, text⟩
    let printed := "x = 2.0\nNot a valid expression. Try again.\n"
    let run := Toolkit.standard.run around
    (run ["-f", "script"]).Succeeds printed ∧
      (run ["-e", "x = 2", "-e", "", "-e", " q ", "-e", "x"]).Succeeds printed ∧
      (run []).Succeeds (Prompt.welcome ++ printed ++ Prompt.goodbye) ∧
      (run ["--log-level", "off", "--file=script"]).Succeeds printed := by
  intro text around printed run
  have split : Text.lines text = ["x = 2", "", " q ", "x"] := by decide +kernel
  have answered : answers (Session.beforeQuit (Text.lines text)) = printed := by
    rw [split]
    decide +kernel
  obtain ⟨file, lines, prompt, all⟩ :=
    feeds_agree Toolkit.standard Toolkit.standard_readsArguments around text
  rw [answered] at file lines prompt all
  rw [split] at lines
  have accepted : ∀ line ∈ ["x = 2", "", " q ", "x"], Toolkit.standard.Accepts "-e" line := by
    simp only [List.forall_mem_cons, List.not_mem_nil, false_implies, implies_true, and_true]
    exact ⟨⟨_, rfl⟩, ⟨_, rfl⟩, ⟨_, rfl⟩, ⟨_, rfl⟩⟩
  refine ⟨file "script" rfl ⟨_, rfl⟩, lines (by simp) accepted, prompt rfl ?_, ?_⟩
  · exact lineEditor_reads (by decide +kernel)
  · have read : Toolkit.standard.read ["--log-level", "off", "--file=script"] =
        .arguments ⟨[], some "script", none, .off⟩ := rfl
    exact (all _ _ read).1 "script" rfl rfl rfl

end Calculator.CommandLine
