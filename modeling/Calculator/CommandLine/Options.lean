import Calculator.CommandLine.Toolkit

/-!
# Options

The reader of arguments that the program is built with. The arguments of the program are:

* `-e LINE`, `--expr LINE`: a line to execute, may be repeated;
* `-f PATH`, `--file PATH`: a file with the lines to execute;
* `--history PATH`: where the lines read at the prompt are kept;
* `--log-level LEVEL`: how much is logged;
* `-V`, `--version` and `-h`, `--help`.

The value of an option is the next argument, which must not look like an
option itself, or it is attached: `--file=PATH`, `-fPATH`, `-f=PATH`. The first
argument that is wrong, or that asks for the version or for help, decides.
-/

namespace Calculator.CommandLine

/-- The level that a word names. -/
def LogLevel.ofName? : String → Option LogLevel
  | "off" => some off
  | "error" => some error
  | "warn" => some warn
  | "info" => some info
  | "debug" => some debug
  | "trace" => some trace
  | _ => none

/-- The options that take a value. -/
inductive Setting
  | expr
  | file
  | history
  | logLevel
  deriving DecidableEq, Repr

def Setting.name : Setting → String
  | expr => "expr"
  | file => "file"
  | history => "history"
  | logLevel => "log-level"

/-- What is wrong with the arguments. -/
inductive UsageFault
  | unexpectedArgument (argument : String)
  | missingValue (setting : Setting)
  | invalidValue (setting : Setting) (value : String)
  | repeated (setting : Setting)
  | conflict
  deriving DecidableEq, Repr

def UsageFault.message : UsageFault → String
  | unexpectedArgument argument => "unexpected argument '" ++ argument ++ "' found"
  | missingValue setting =>
    "a value is required for '--" ++ setting.name ++ "' but none was supplied"
  | invalidValue setting value => "invalid value '" ++ value ++ "' for '--" ++ setting.name ++ "'"
  | repeated setting => "the argument '--" ++ setting.name ++ "' cannot be used multiple times"
  | conflict => "the argument '--expr' cannot be used with '--file'"

/-- The values of the options that were given. -/
structure Options where
  lines : List String
  file : Option String
  history : Option String
  logLevel : Option LogLevel
  deriving DecidableEq, Repr

namespace Options

def empty : Options := ⟨[], none, none, none⟩

/-- Enters a path where there is none yet. -/
def setPath (setting : Setting) (old : Option String) (path : String) :
    Except UsageFault (Option String) :=
  if path.isEmpty then .error (.invalidValue setting path)
  else if old.isSome then .error (.repeated setting)
  else .ok (some path)

/-- Enters the value of an option. Lines add up; everything else can be given
once. A path is not empty, and a level is one of the known ones. -/
def set (o : Options) (setting : Setting) (value : String) : Except UsageFault Options :=
  match setting with
  | .expr => .ok { o with lines := o.lines ++ [value] }
  | .file => (setPath .file o.file value).map fun path => { o with file := path }
  | .history => (setPath .history o.history value).map fun path => { o with history := path }
  | .logLevel =>
    match LogLevel.ofName? value with
    | none => .error (.invalidValue .logLevel value)
    | some level =>
      if o.logLevel.isSome then .error (.repeated .logLevel)
      else .ok { o with logLevel := some level }

end Options

/-- What one argument says, read on its own. -/
inductive Argument
  | awaits (setting : Setting)
  | attached (setting : Setting) (value : String)
  | version
  | help
  | terminator
  | unexpected
  deriving DecidableEq, Repr

namespace Argument

def long? (name : List Char) : Option Setting :=
  [Setting.expr, .file, .history, .logLevel].find? fun setting => setting.name.toList = name

def short? : Char → Option Setting
  | 'e' => some .expr
  | 'f' => some .file
  | _ => none

/-- Reads an argument after its two dashes. The first equals sign ends the
name and starts the value. -/
def ofLong (cs : List Char) : Argument :=
  let name := cs.takeWhile (· ≠ '=')
  match long? name, cs.dropWhile (· ≠ '=') with
  | some setting, [] => awaits setting
  | some setting, _ :: value => attached setting (String.ofList value)
  | none, [] =>
    if name = "version".toList then version
    else if name = "help".toList then help
    else unexpected
  | none, _ :: _ => unexpected

/-- Reads an argument after its single dash. What follows the letter of an
option is its value, with or without an equals sign in front. -/
def ofShort (letter : Char) (rest : List Char) : Argument :=
  match short? letter with
  | some setting =>
    match rest with
    | [] => awaits setting
    | '=' :: value => attached setting (String.ofList value)
    | value => attached setting (String.ofList value)
  | none =>
    if letter = 'V' then version
    else if letter = 'h' then help
    else unexpected

/-- Reads an argument where an option is expected. A single dash alone is no
option. -/
def ofText (text : String) : Argument :=
  match text.toList with
  | ['-', '-'] => terminator
  | '-' :: '-' :: name => ofLong name
  | '-' :: letter :: rest => ofShort letter rest
  | _ => unexpected

def looksLikeOption (text : String) : Bool :=
  match text.toList with
  | '-' :: _ :: _ => true
  | _ => false

end Argument

/-- What the arguments ask for. -/
inductive Request
  | version
  | help
  | execute (arguments : Arguments)
  deriving DecidableEq, Repr

namespace Request

/-- Lines and a file exclude each other. -/
def ofOptions (o : Options) : Except UsageFault Request :=
  if !o.lines.isEmpty && o.file.isSome then .error .conflict
  else .ok (execute ⟨o.lines, o.file, o.history, o.logLevel.getD .warn⟩)

def readFrom (o : Options) : List String → Except UsageFault Request
  | [] => ofOptions o
  | argument :: rest =>
    match Argument.ofText argument with
    | .version => .ok version
    | .help => .ok help
    | .unexpected => .error (.unexpectedArgument argument)
    | .terminator =>
      match rest with
      | [] => ofOptions o
      | extra :: _ => .error (.unexpectedArgument extra)
    | .attached setting value => do
      let o ← o.set setting value
      readFrom o rest
    | .awaits setting =>
      match rest with
      | [] => .error (.missingValue setting)
      | value :: rest =>
        if Argument.looksLikeOption value then .error (.missingValue setting)
        else do
          let o ← o.set setting value
          readFrom o rest

def ofArguments (arguments : List String) : Except UsageFault Request :=
  readFrom Options.empty arguments

end Request

def versionText : String := "stackcalc 0.1.0\n"

def usageText : String :=
  "Usage: stackcalc [OPTIONS]\n\n" ++
  "Options:\n" ++
  "  -e, --expr <LINE>        Evaluates LINE, may be given more than once\n" ++
  "  -f, --file <PATH>        Evaluates the lines of a file\n" ++
  "      --history <PATH>     Keeps the lines of the prompt at this path\n" ++
  "      --log-level <LEVEL>  off, error, warn, info, debug or trace\n" ++
  "  -h, --help               Print help\n" ++
  "  -V, --version            Print version\n"

def Outcome.misuse (fault : UsageFault) : Outcome :=
  { failure "" ("error: " ++ fault.message) with exitCode := 2 }

def readArguments (arguments : List String) : ArgumentsRead :=
  match Request.ofArguments arguments with
  | .error fault => .answered (.misuse fault)
  | .ok .version => .answered (.success versionText)
  | .ok .help => .answered (.success usageText)
  | .ok (.execute arguments) => .arguments arguments

end Calculator.CommandLine
