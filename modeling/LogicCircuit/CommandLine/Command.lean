import LogicCircuit.CommandLine.Arguments
import LogicCircuit.Session
import LogicCircuit.Text.Quoted

/-!
# The command

Runs the circuit of a definition for a number of cycles and shows the traces of its monitors. What
is reported about the definition, and the fault that ends the command, go to the error output. The
command is a function of its arguments and of the files it finds.
-/

namespace LogicCircuit.CommandLine

/-- What is found at a path. -/
inductive FileContent where
  | missing
  | bytes (content : ByteArray)

/-- Why a definition cannot be read from a file. -/
inductive FileFault where
  | notFound
  | notText
  deriving DecidableEq, Repr

/-- Why a command fails. -/
inductive Failure where
  | file (path : String) (fault : FileFault)
  | circuit (fault : Fault)
  deriving DecidableEq, Repr

/-- The text in a file. -/
def FileContent.text : FileContent → Except FileFault String
  | missing => .error .notFound
  | bytes content =>
    match String.fromUTF8? content with
    | some text => .ok text
    | none => .error .notText

/-! ## Wording of failures -/

/-- A cause with its details, as the error output shows them. -/
def showRecord (tag : String) (fields : List (String × String)) : String :=
  tag ++ " \x7b " ++
    String.intercalate ", " (fields.map fun (name, value) => name ++ ": " ++ value) ++ " \x7d"

/-- A fault as the error output shows it. -/
def showFault : Fault → String
  | .invalidArgument misuse =>
    showRecord "InvalidArgument" [("message", Text.quote misuse.message)]
  | .devicePresent name => showRecord "DevicePresent" [("name", Text.quote name)]
  | .deviceAbsent name => showRecord "DeviceAbsent" [("name", Text.quote name)]
  | .notASwitch name => showRecord "NotASwitch" [("name", Text.quote name)]
  | .portAbsent device port =>
    showRecord "PortAbsent" [("device", Text.quote device), ("port", Text.quote port)]
  | .inputConnected input => showRecord "InputConnected" [("input", Text.quote input)]
  | .invalidQualifier name reason =>
    showRecord "InvalidQualifier"
      [("name", Text.quote name), ("message", Text.quote reason.message)]
  | .monitorPresent signal => showRecord "MonitorPresent" [("signal", Text.quote signal)]
  | .monitorAbsent signal => showRecord "MonitorAbsent" [("signal", Text.quote signal)]
  | .oscillating cycle passes =>
    showRecord "Oscillating" [("cycle", toString cycle), ("passes", toString passes)]
  | .parseFailed errors => showRecord "ParseFailed" [("errors", toString errors)]
  | .nothingToContinue => "NothingToContinue"
  | .unknownSignal name => showRecord "UnknownSignal" [("name", Text.quote name)]

/-- The cause of a file fault as the error output shows it. -/
def FileFault.cause : FileFault → String
  | notFound =>
    showRecord "Os"
      [("code", "2"), ("kind", "NotFound"), ("message", Text.quote "No such file or directory")]
  | notText =>
    showRecord "Error"
      [("kind", "InvalidData"), ("message", Text.quote "stream did not contain valid UTF-8")]

namespace Failure

/-- A failure as the error output shows it. -/
def label : Failure → String
  | file path fault =>
    showRecord "FileReadError" [("path", Text.quote path), ("source", fault.cause)]
  | circuit fault => showFault fault

end Failure

/-! ## Running -/

/-- What a command leaves: its exit code and its two outputs. -/
structure Outcome where
  code : UInt8
  stdout : String
  stderr : String
  deriving DecidableEq, Repr

namespace Outcome

/-- The outcome of a command that has done its work. -/
def success (stdout stderr : String) : Outcome :=
  { code := 0, stdout, stderr }

/-- The outcome of a command that has failed, after `stderr` has been written. -/
def failure (stdout stderr : String) (failure : Failure) : Outcome :=
  { code := 1, stdout, stderr := stderr ++ "Error: " ++ failure.label ++ "\n" }

/-- The outcome of a command that is not used as it should be. The error output is no terminal. -/
def usage (error : UsageError) : Outcome :=
  { code := 2, stdout := "", stderr := Text.Terminal.plain error.report }

end Outcome

/-- Sets switches in order, up to the first fault. -/
def setSwitches (session : Session) : List (String × Level) → Except Fault Session
  | [] => .ok session
  | (name, level) :: rest => do setSwitches (← session.setSwitch name level) rest

/-- Simulates the circuit of a definition. A run that does not settle shows the cycles before. -/
def simulate (arguments : Arguments) (definition : String) : Outcome :=
  let (session, diagnostics) := Session.load definition none
  let report := String.join (diagnostics.map fun diagnostic => diagnostic.render ++ "\n")
  let errors := Diagnostic.errorCount diagnostics
  if errors ≠ 0 then .failure "" report (.circuit (.parseFailed errors))
  else match setSwitches session arguments.switches with
    | .error fault => .failure "" report (.circuit fault)
    | .ok session =>
      match session.run arguments.cycles with
      | (session, .ok ()) => .success session.render report
      | (session, .error fault) => .failure session.render report (.circuit fault)

/-- Runs the command. -/
def run (arguments : List String) (file : String → FileContent) : Outcome :=
  match Arguments.read arguments with
  | .error error => .usage error
  | .ok arguments =>
    match (file arguments.path).text with
    | .error fault => .failure "" "" (.file arguments.path fault)
    | .ok definition => simulate arguments definition

end LogicCircuit.CommandLine
