import Calculator.CommandLine.Program

/-!
# Running the program

Looks up what the program needs of its surroundings, runs it, and puts what it leaves behind
where it belongs. That the history cannot be written is found out by trying.
-/

namespace Calculator.CommandLine

def readBytes? (path : String) : IO (Option ByteArray) := do
  try
    return some (← IO.FS.readBinFile path)
  catch _ =>
    return none

/-- What the program finds around it, as far as its arguments ask for it. -/
def surroundings (arguments : List String) : IO Surroundings := do
  match Toolkit.standard.read arguments with
  | .answered _ => return ⟨fun _ => none, fun _ => none, ""⟩
  | .arguments arguments =>
    let bytes ←
      match arguments.file <|> arguments.history with
      | some path => readBytes? path
      | none => pure none
    let input ←
      if arguments.lines.isEmpty && arguments.file.isNone then (← IO.getStdin).readToEnd
      else pure ""
    return ⟨fun _ => bytes, fun _ => none, input⟩

def systemMessage : IO.Error → String
  | .noFileOrDirectory _ code details
  | .inappropriateType _ code details
  | .permissionDenied _ code details => details ++ " (os error " ++ toString code ++ ")"
  | e => toString e

/-- Writes the file that an outcome leaves behind: the system's message if that fails. -/
def write (outcome : Outcome) : IO (Option String) := do
  match outcome.written with
  | none => return none
  | some (path, text) =>
    try
      IO.FS.writeFile path text
      return none
    catch e =>
      return some (systemMessage e)

def report (outcome : Outcome) : IO UInt32 := do
  for event in outcome.log do
    IO.eprintln event.message
  IO.print outcome.output
  IO.eprint outcome.errors
  return outcome.exitCode.toUInt32

end Calculator.CommandLine

open Calculator.CommandLine in
def main (arguments : List String) : IO UInt32 := do
  let around ← surroundings arguments
  let outcome := run around arguments
  match ← write outcome with
  | none => report outcome
  | some message =>
    report (run { around with refusal? := fun _ => some message } arguments)
