import ActionRelay.Command
import ActionRelay.Log
/-!
# The command line

The arguments of the program are read into an `Invocation`, which runs
against a function that reads files and ends in a `Report`. Options of a
command follow its name; `--verbose` may also come before it.
-/

namespace ActionRelay

/-! ## Options -/

/-- The options of the program. -/
inductive OptionKey where
  | verbose
  | input
  | config
  | naming
  | output
deriving DecidableEq

namespace OptionKey

/-- The option written with one letter. -/
def ofLetter? : Char → Option OptionKey
  | 'v' => some verbose
  | 'i' => some input
  | 'c' => some config
  | 'n' => some naming
  | 'o' => some output
  | _ => none

/-- The option written out. -/
def ofWord? : String → Option OptionKey
  | "verbose" => some verbose
  | "input" => some input
  | "config" => some config
  | "naming" => some naming
  | "output" => some output
  | _ => none

/-- Whether a value follows the option. -/
def takesValue : OptionKey → Bool
  | verbose => false
  | _ => true

end OptionKey

/-- Whether a command has the option. -/
def Command.accepts (command : Command) : OptionKey → Bool
  | .naming | .output => command == .generate
  | _ => true

/-- Options that were given, with their values; a flag has an empty one. -/
abbrev Given := List (OptionKey × String)

/-- An argument by its form. -/
inductive Argument where
  /-- Two dashes alone, behind which there are no options. -/
  | separator
  /-- Two dashes and a word, with a value behind an equals sign or none. -/
  | long (word : String) (value : Option String)
  /-- One dash and letters. -/
  | short (letters : List Char)
  /-- Anything else. -/
  | plain (text : String)

namespace Argument

/-- The form of an argument. -/
def ofText (text : String) : Argument :=
  match text.toList with
  | ['-', '-'] => .separator
  | '-' :: '-' :: rest =>
    let word := String.ofList (rest.takeWhile (· != '='))
    match rest.dropWhile (· != '=') with
    | [] => .long word none
    | _ :: value => .long word (some (String.ofList value))
  | '-' :: c :: rest => .short (c :: rest)
  | _ => .plain text

/-- Whether an argument can be the value of the option before it. -/
def isValue (text : String) : Bool :=
  match ofText text with
  | .plain _ => true
  | _ => false

end Argument

/-- The options of letters behind one dash: flags first, and at the end
perhaps an option whose value is the remaining letters, or, without any, the
next argument. -/
def readLetters (accepts : OptionKey → Bool) :
    List Char → Option (Given × Option OptionKey)
  | [] => some ([], none)
  | letter :: rest =>
    match (OptionKey.ofLetter? letter).filter accepts with
    | none => none
    | some key =>
      if key.takesValue then
        match rest with
        | [] => some ([], some key)
        | '=' :: value => some ([(key, String.ofList value)], none)
        | value => some ([(key, String.ofList value)], none)
      else
        (readLetters accepts rest).map fun (given, pending) => ((key, "") :: given, pending)

/-- What one argument gives: options, and perhaps one that awaits its value
in the next argument. -/
def readArgument (accepts : OptionKey → Bool) :
    Argument → Option (Given × Option OptionKey)
  | .long word value =>
    match (OptionKey.ofWord? word).filter accepts, value with
    | none, _ => none
    | some key, some value => if key.takesValue then some ([(key, value)], none) else none
    | some key, none => if key.takesValue then some ([], some key) else some ([(key, "")], none)
  | .short letters => readLetters accepts letters
  | _ => none

/-- The options given by the arguments behind a command. -/
def readOptions (accepts : OptionKey → Bool) : List String → Option Given
  | [] => some []
  | text :: rest =>
    match Argument.ofText text with
    | .separator => if rest.isEmpty then some [] else none
    | argument =>
      match readArgument accepts argument, rest with
      | none, _ => none
      | some (given, none), rest => (readOptions accepts rest).map (given ++ ·)
      | some (given, some key), value :: rest =>
        if Argument.isValue value then
          (readOptions accepts rest).map (given ++ (key, value) :: ·)
        else none
      | some (_, some _), [] => none

/-- The options before the command, the command, and the arguments behind
it. -/
def readCommand : List String → Option (Given × Command × List String)
  | [] => none
  | text :: rest =>
    match Argument.ofText text with
    | .separator => none
    | .plain word => (Command.ofWord? word).map ([], ·, rest)
    | argument =>
      match readArgument (· == .verbose) argument with
      | some (given, none) =>
        (readCommand rest).map fun (later, command, behind) => (given ++ later, command, behind)
      | _ => none

/-- Whether no option is given twice. -/
def Given.distinct (given : Given) : Bool :=
  (given.map Prod.fst).eraseDups.length == given.length

/-! ## Invocations -/

/-- What the program was asked to do. -/
structure Invocation where
  command : Command
  verbose : Bool
  input : String
  config : Option String
  naming : Option Naming
  output : Option String

/-- The naming that was asked for, which has to be a known one. -/
def Given.naming? (given : Given) : Option (Option Naming) :=
  match given.lookup .naming with
  | none => some none
  | some word => (Naming.ofWord? word).map some

/-- What the arguments of the program ask for; `none` if they are wrong. -/
def Invocation.ofArguments? (arguments : List String) : Option Invocation := do
  let (before, command, behind) ← readCommand arguments
  let given ← readOptions command.accepts behind
  if Given.distinct before && Given.distinct given then
    return {
      command
      verbose := (before ++ given).any (·.1 == .verbose)
      input := ← given.lookup .input
      config := given.lookup .config
      naming := ← Given.naming? given
      output := given.lookup .output }
  else none

/-- How a run of the program ends. -/
structure Report where
  exit : Nat
  stdout : String := ""
  /-- Lines for the error output. -/
  stderr : List String := []
  /-- A file to write, by its path and text. -/
  output : Option (String × String) := none
  /-- What is shown of the log. -/
  log : List LogRecord := []

namespace Report

/-- The arguments are wrong. -/
def wrongUsage : Report :=
  { exit := 2, stderr := ["error: wrong usage"] }

/-- The run cannot go on. -/
def failure (reason : String) : Report :=
  { exit := 1, stderr := ["Error: " ++ reason] }

/-- The output file of a report cannot be written. -/
def cannotWrite (report : Report) (path : String) : Report :=
  { failure ("cannot write " ++ path) with log := report.log }

/-- The texts that go to the error output: the log, and then the errors. -/
def errorOutput (report : Report) : List String :=
  report.log.map LogRecord.text ++ report.stderr

end Report

/-- The configuration of a run, the usual one if no file is named. -/
def Invocation.configuration (invocation : Invocation) (read : String → Option String) :
    Except Report Configuration :=
  match invocation.config with
  | none => .ok {}
  | some path =>
    match read path with
    | none => .error (.failure ("cannot read configuration " ++ path))
    | some text =>
      match Configuration.ofText? text with
      | none => .error (.failure "invalid configuration")
      | some configuration => .ok configuration

/-- The annotated declaration of a run. -/
def Invocation.declaration (invocation : Invocation) (read : String → Option String) :
    Except Report Input :=
  match read invocation.input with
  | none => .error (.failure ("cannot read input " ++ invocation.input))
  | some text =>
    match Input.ofText? text with
    | none => .error (.failure "invalid input declaration")
    | some input => .ok input

/-- The report of an answer, which goes to the output file if one is
named. -/
def Report.ofAnswer (output : Option String) : Except (List Diagnostic) String → Report
  | .error diagnostics => { exit := 1, stderr := diagnostics.map Diagnostic.line }
  | .ok text =>
    match output with
    | none => { exit := 0, stdout := text }
    | some path => { exit := 0, output := some (path, text) }

/-- A report with as much of the log as is shown. -/
def Invocation.logged (invocation : Invocation) (log : List LogRecord) (report : Report) :
    Report :=
  { report with log := log.filter (LogRecord.isShown invocation.verbose) }

/-- Runs an invocation; `read` gives the texts of files. The configuration
is looked at before the declaration. -/
def Invocation.run (invocation : Invocation) (read : String → Option String) : Report :=
  let loading := invocation.config.toList.map (LogRecord.loading "configuration")
  match invocation.configuration read with
  | .error report => invocation.logged loading report
  | .ok configuration =>
    let loading := loading ++ [.loading "input" invocation.input]
    match invocation.declaration read with
    | .error report => invocation.logged loading report
    | .ok input =>
      let settings := configuration.settings invocation.naming
      let events := invocation.command.events input settings
      invocation.logged (loading ++ events.map Event.logRecord)
        (.ofAnswer invocation.output (invocation.command.run input settings))

/-- Runs the program on its arguments. -/
def runArguments (arguments : List String) (read : String → Option String) : Report :=
  match Invocation.ofArguments? arguments with
  | none => .wrongUsage
  | some invocation => invocation.run read

end ActionRelay
