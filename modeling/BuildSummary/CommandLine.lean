import BuildSummary.Text.Number
import BuildSummary.Verdict

/-!
# The command line

The program takes the path of a log and some options, in any order. After `--` every argument is a
path. A value is checked when the next option or the next path is reached, or at the end, so an
unknown argument is told before a bad value that stands directly before it.

## Main definitions

* `Options`: what the program is asked to do
* `UsageError`: why arguments are refused
* `Options.parse`: the options that the arguments give
-/

namespace BuildSummary

/-- The terminal width for which reports are laid out by default. -/
def defaultWidth : Nat := 80

/-- The narrowest terminal in which the table of the build can be laid out. -/
def minWidth : Nat := 40

/-- How much the program tells of its work. -/
inductive LogLevel where
  | warn
  | info
  | debug
  deriving DecidableEq

/-- What the program is asked to do. -/
structure Options where
  logFile : Text := "build.sh.log"
  verbose : Bool := false
  quiet : Bool := false
  /-- The terminal width for which the report is laid out. -/
  width : Nat := defaultWidth
  gateCppcheck : Bool := false
  deriving DecidableEq

namespace Options

/-- How much to tell; details win over silence. -/
def logLevel (options : Options) : LogLevel :=
  if options.verbose then .debug else if options.quiet then .warn else .info

/-- Which findings decide on the build. -/
def policy (options : Options) : Policy :=
  ⟨options.gateCppcheck⟩

end Options

/-- Why arguments are refused. -/
inductive UsageError where
  /-- No option has this name, or there is a second path. -/
  | unknownArgument
  /-- An option is given twice. -/
  | repeatedOption
  /-- An option that takes no value has one. -/
  | unexpectedValue
  /-- The width has no value, or the path is empty. -/
  | missingValue
  /-- The width is not a number below `2 ^ 64`. -/
  | malformedWidth
  /-- There is no path. -/
  | missingLogFile
  deriving DecidableEq

/-- Why the arguments give no options. -/
inductive Interruption where
  | help
  | version
  | refused (error : UsageError)
  deriving DecidableEq

/-! ## Reading arguments -/

/-- The options that are only on or off, and the two that interrupt. -/
inductive Switch where
  | verbose
  | quiet
  | gateCppcheck
  | help
  | version
  deriving DecidableEq

namespace Switch

/-- The switch with the given long name. -/
def ofName? (name : Text) : Option Switch :=
  if name = ("verbose" : Text) then some verbose
  else if name = ("quiet" : Text) then some quiet
  else if name = ("gate-cppcheck" : Text) then some gateCppcheck
  else if name = ("help" : Text) then some help
  else if name = ("version" : Text) then some version
  else none

/-- The switch with the given letter. -/
def ofLetter? : Char → Option Switch
  | 'v' => some verbose
  | 'q' => some quiet
  | 'h' => some help
  | 'V' => some version
  | _ => none

end Switch

/-- A value that is not yet checked. -/
inductive Pending where
  /-- None. -/
  | none
  /-- The width is to come. -/
  | widthToCome
  /-- The width. -/
  | width (value : Text)
  /-- The path of the log. -/
  | logFile (path : Text)

/-- What is known after some arguments. -/
structure Arguments where
  /-- Whether details are asked for. -/
  verbose : Bool := false
  /-- Whether silence is asked for. -/
  quiet : Bool := false
  /-- Whether Cppcheck is to be a gate. -/
  gateCppcheck : Bool := false
  /-- The width, if it is given. -/
  width : Option Nat := none
  /-- The path, if it is given. -/
  logFile : Option Text := none
  /-- The value that is not yet checked. -/
  pending : Pending := .none

namespace Arguments

/-- The given error. -/
def refuse {α : Type} (error : UsageError) : Except Interruption α :=
  .error (.refused error)

/-- Takes the value of the width. -/
def setWidth (arguments : Arguments) (value : Text) : Except Interruption Arguments :=
  if arguments.width.isSome then refuse .repeatedOption
  else match Text.number? value with
    | none => refuse .malformedWidth
    | some width => .ok { arguments with width := some width, pending := .none }

/-- Checks the value that is not yet checked. -/
def settle (arguments : Arguments) : Except Interruption Arguments :=
  match arguments.pending with
  | .none => .ok arguments
  | .widthToCome => refuse .missingValue
  | .width value => arguments.setWidth value
  | .logFile [] => refuse .missingValue
  | .logFile path => .ok { arguments with logFile := some path, pending := .none }

/-- Takes a switch. -/
def takeSwitch (arguments : Arguments) (switch : Switch) : Except Interruption Arguments := do
  let arguments ← arguments.settle
  match switch with
  | .verbose =>
    if arguments.verbose then refuse .repeatedOption else return { arguments with verbose := true }
  | .quiet =>
    if arguments.quiet then refuse .repeatedOption else return { arguments with quiet := true }
  | .gateCppcheck =>
    if arguments.gateCppcheck then refuse .repeatedOption
    else return { arguments with gateCppcheck := true }
  | .help => .error .help
  | .version => .error .version

/-- Takes the letters after a single hyphen, each of them a switch. -/
def takeLetters (arguments : Arguments) : Text → Except Interruption Arguments
  | [] => .ok arguments
  | letter :: rest =>
    match Switch.ofLetter? letter with
    | none => refuse .unknownArgument
    | some switch => do takeLetters (← arguments.takeSwitch switch) rest

/-- Takes what follows two hyphens: a name, and a value after an equals sign if there is one. -/
def takeNamed (arguments : Arguments) (argument : Text) : Except Interruption Arguments :=
  let name := argument.takeWhile (· ≠ '=')
  let value := argument.dropWhile (· ≠ '=')
  if name = ("width" : Text) then do
    let arguments ← arguments.settle
    match value with
    | [] => return { arguments with pending := .widthToCome }
    | _ :: value => arguments.setWidth value
  else match Switch.ofName? name, value with
    | some switch, [] => arguments.takeSwitch switch
    | some _, _ :: _ => refuse .unexpectedValue
    | none, _ => refuse .unknownArgument

/-- Takes an argument as a path. Only one path is known. -/
def takePath (arguments : Arguments) (path : Text) : Except Interruption Arguments :=
  match arguments.logFile, arguments.pending with
  | some _, _ | _, .logFile _ => refuse .unknownArgument
  | none, _ => do return { ← arguments.settle with pending := .logFile path }

/-- Takes an argument before `--`. -/
def take (arguments : Arguments) (argument : Text) : Except Interruption Arguments :=
  match argument with
  | '-' :: '-' :: named => arguments.takeNamed named
  | '-' :: letter :: rest => arguments.takeLetters (letter :: rest)
  | value =>
    match arguments.pending with
    | .widthToCome => .ok { arguments with pending := .width value }
    | _ => arguments.takePath value

/-- Takes all arguments. -/
def takeAll (arguments : Arguments) : List Text → Except Interruption Arguments
  | [] => arguments.settle
  | argument :: rest =>
    if argument = ("--" : Text) then do (← rest.foldlM takePath arguments).settle
    else do takeAll (← arguments.take argument) rest

end Arguments

/-- The options that the arguments give. -/
def Options.parse (arguments : List Text) : Except Interruption Options := do
  let arguments ← Arguments.takeAll {} arguments
  match arguments.logFile with
  | none => Arguments.refuse .missingLogFile
  | some logFile => return {
      logFile
      verbose := arguments.verbose
      quiet := arguments.quiet
      width := arguments.width.getD defaultWidth
      gateCppcheck := arguments.gateCppcheck }

end BuildSummary
