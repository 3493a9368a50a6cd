import LogicCircuit.Level
import LogicCircuit.Text.Count
import LogicCircuit.Text.Terminal

/-!
# Arguments

The arguments of the command: the path of a definition, `-c` or `--cycles` with a count, `-s` or
`--switch` with a switch and its level, and `-v` or `--verbose`. A value stands in the same argument
as its option, or in the next one. Arguments are read from left to right and the first one that is
wrong is reported.
-/

namespace LogicCircuit.CommandLine

open Text.Terminal (emphasize)

/-- The options that take a value. -/
inductive Setting where
  | cycles
  | switch
  deriving DecidableEq, Repr

/-- How the usage text writes a setting. -/
def Setting.usage : Setting → String
  | cycles => "--cycles <CYCLES>"
  | switch => "--switch <NAME=0|1>"

/-- What is wrong with the arguments. -/
inductive UsageError where
  | badValue (setting : Setting) (value reason : String)
  | noValue (setting : Setting)
  | repeated (setting : Setting)
  /-- A value for the option that takes none. -/
  | needlessValue (value : String)
  | unexpected (argument : String)
  | emptyPath
  | noPath
  deriving DecidableEq, Repr

namespace UsageError

/-- The wording of the error for a terminal, which emphasizes what is at fault. -/
def message : UsageError → String
  | badValue setting value reason =>
    "invalid value '" ++ emphasize value ++ "' for '" ++ emphasize setting.usage ++ "': " ++ reason
  | noValue setting =>
    "a value is required for '" ++ emphasize setting.usage ++ "' but none was supplied"
  | repeated setting =>
    "the argument '" ++ emphasize setting.usage ++ "' cannot be used multiple times"
  | needlessValue value =>
    "unexpected value '" ++ emphasize value ++ "' for '" ++ emphasize "--verbose..."
      ++ "' found; no more were expected"
  | unexpected argument => "unexpected argument '" ++ emphasize argument ++ "' found"
  | emptyPath =>
    "a value is required for '" ++ emphasize "<CIRCUIT_FILE>" ++ "' but none was supplied"
  | noPath =>
    "the following required arguments were not provided:\n  " ++ emphasize "<CIRCUIT_FILE>"

/-- The error as a terminal gets it, with advice. -/
def report (error : UsageError) : String :=
  emphasize "error:" ++ " " ++ error.message ++ "\n\nFor more information, try '"
    ++ emphasize "--help" ++ "'.\n"

end UsageError

/-- The arguments as far as they have been read. -/
structure Partial where
  path : Option String
  cycles : Option Nat
  /-- The switches to be set, in order. -/
  switches : List (String × Level)
  deriving DecidableEq, Repr

/-- The arguments of a command. -/
structure Arguments where
  path : String
  cycles : Nat
  switches : List (String × Level)
  deriving DecidableEq, Repr

/-- The number of cycles to run when none is given. -/
def defaultCycles : Nat :=
  10

/-- Reads the value of a switch: its name, `=`, and its level. -/
def readSwitch (value : String) : Except String (String × Level) :=
  let chars := value.toList
  let name := String.ofList (chars.takeWhile (· ≠ '='))
  match chars.dropWhile (· ≠ '=') with
  | [] => .error ("expected NAME=0|1, got '" ++ value ++ "'")
  | _ :: rest =>
    let literal := String.ofList rest
    match Level.ofLiteral? literal with
    | some level => .ok (name, level)
    | none => .error ("switch level must be 0 or 1, got '" ++ literal ++ "'")

namespace Partial

def none : Partial :=
  { path := .none, cycles := .none, switches := [] }

/-- Takes the value of a setting. -/
def set (found : Partial) (setting : Setting) (value : String) : Except UsageError Partial :=
  match setting with
  | .cycles =>
    if found.cycles.isSome then .error (.repeated .cycles)
    else match Text.readCount value with
      | .ok cycles => .ok { found with cycles := some cycles }
      | .error reason => .error (.badValue .cycles value reason.message)
  | .switch =>
    match readSwitch value with
    | .ok switch => .ok { found with switches := found.switches ++ [switch] }
    | .error reason => .error (.badValue .switch value reason)

/-- Takes an argument that belongs to no option. -/
def setPath (found : Partial) (argument : String) : Except UsageError Partial :=
  if found.path.isSome then .error (.unexpected argument)
  else if argument.isEmpty then .error .emptyPath
  else .ok { found with path := some argument }

/-- The arguments, once all have been read. -/
def finish (found : Partial) : Except UsageError Arguments :=
  match found.path with
  | some path =>
    .ok { path, cycles := found.cycles.getD defaultCycles, switches := found.switches }
  | .none => .error .noPath

end Partial

/-- What one argument says. -/
inductive Word where
  | path (text : String)
  | setting (setting : Setting) (value : String)
  /-- A setting whose value is the next argument. -/
  | pending (setting : Setting)
  | verbose
  /-- The option that takes no value, with a value. -/
  | verboseWith (value : String)
  | endOfOptions
  | unknown (text : String)
  deriving DecidableEq, Repr

namespace Word

/-- What the letters after a single dash say. -/
def ofLetters : List Char → Word
  | [] => verbose
  | c :: rest =>
    let word (option : Setting) : Word :=
      match rest with
      | [] => pending option
      | '=' :: value => setting option (String.ofList value)
      | value => setting option (String.ofList value)
    if c = 'c' then word .cycles
    else if c = 's' then word .switch
    else if c = 'v' then ofLetters rest
    else unknown ("-" ++ String.singleton c)

/-- What a name after two dashes says, with the value after its `=` if it has one. -/
def ofName (name : List Char) (value : Option (List Char)) : Word :=
  let word (option : Setting) : Word :=
    match value with
    | some value => setting option (String.ofList value)
    | none => pending option
  if name = "cycles".toList then word .cycles
  else if name = "switch".toList then word .switch
  else if name = "verbose".toList then
    match value with
    | some value => verboseWith (String.ofList value)
    | none => verbose
  else unknown ("--" ++ String.ofList name)

def ofArgument (argument : String) : Word :=
  match argument.toList with
  | ['-', '-'] => endOfOptions
  | '-' :: '-' :: rest =>
    let value := (rest.dropWhile (· ≠ '=')).tail?
    ofName (rest.takeWhile (· ≠ '=')) value
  | '-' :: c :: rest => ofLetters (c :: rest)
  | _ => path argument

end Word

/-- Reads arguments after those already found. -/
def readArguments (found : Partial) : List String → Except UsageError Arguments
  | [] => found.finish
  | argument :: rest =>
    match Word.ofArgument argument with
    | .path text => do readArguments (← found.setPath text) rest
    | .setting setting value => do readArguments (← found.set setting value) rest
    | .pending setting =>
      match rest with
      | value :: rest =>
        match Word.ofArgument value with
        | .path value => do readArguments (← found.set setting value) rest
        | .unknown text => .error (.unexpected text)
        | _ => .error (.noValue setting)
      | [] => .error (.noValue setting)
    | .verbose => readArguments found rest
    | .verboseWith value => .error (.needlessValue value)
    | .endOfOptions => do (← rest.foldlM Partial.setPath found).finish
    | .unknown text => .error (.unexpected text)

/-- Reads the arguments of a command. -/
def Arguments.read (arguments : List String) : Except UsageError Arguments :=
  readArguments .none arguments

end LogicCircuit.CommandLine
