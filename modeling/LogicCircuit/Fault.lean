import LogicCircuit.Name

/-!
# Faults

Why an operation on a circuit, its simulation or its monitors was refused. Each fault is a cause
with what is needed to word it; `Fault.message` is the only place where the wording is chosen.
Mistakes in the text of a definition are not faults: they are reported as diagnostics.
-/

namespace LogicCircuit

/-- An argument that makes no sense to a name table. -/
inductive Misuse where
  | negativeId (raw : Int)
  | unissuedId (id : NameId)
  | noCodes
  deriving DecidableEq, Repr

namespace Misuse

def message : Misuse → String
  | negativeId raw => "name id " ++ toString raw ++ " is negative"
  | unissuedId id => "name id " ++ toString id.index ++ " was never issued"
  | noCodes => "expected a positive number of error codes"

end Misuse

/-- A device qualifier outside its legal range. -/
inductive BadQualifier where
  | gateInputs
  | xorInputs
  | halfPeriod
  deriving DecidableEq, Repr

namespace BadQualifier

def message : BadQualifier → String
  | gateInputs => "gate must have 1 to 16 inputs"
  | xorInputs => "XOR has exactly 2 inputs"
  | halfPeriod => "clock half period must be at least 1 cycle"

end BadQualifier

/-- Why an operation was refused. -/
inductive Fault where
  | invalidArgument (misuse : Misuse)
  | devicePresent (name : String)
  | deviceAbsent (name : String)
  | notASwitch (name : String)
  | portAbsent (device port : String)
  | inputConnected (input : String)
  | invalidQualifier (name : String) (reason : BadQualifier)
  | monitorPresent (signal : String)
  | monitorAbsent (signal : String)
  | oscillating (cycle passes : Nat)
  | parseFailed (errors : Nat)
  | nothingToContinue
  | unknownSignal (name : String)
  deriving DecidableEq, Repr

namespace Fault

/-- The text shown to a user. -/
def message : Fault → String
  | invalidArgument misuse => "Invalid argument: " ++ misuse.message
  | devicePresent name => "Device '" ++ name ++ "' is already defined"
  | deviceAbsent name => "Device '" ++ name ++ "' does not exist"
  | notASwitch name => "Device '" ++ name ++ "' is not a switch"
  | portAbsent device port => "Device '" ++ device ++ "' has no port '" ++ port ++ "'"
  | inputConnected input => "Input '" ++ input ++ "' is already connected"
  | invalidQualifier name reason =>
    "Invalid qualifier for device '" ++ name ++ "': " ++ reason.message
  | monitorPresent signal => "Signal '" ++ signal ++ "' is already monitored"
  | monitorAbsent signal => "Signal '" ++ signal ++ "' is not monitored"
  | oscillating cycle passes =>
    "Network oscillating at cycle " ++ toString cycle ++ " (no fixed point after "
      ++ toString passes ++ " passes)"
  | parseFailed errors => "Circuit definition has " ++ toString errors ++ " error(s)"
  | nothingToContinue => "Nothing to continue, run the simulation first"
  | unknownSignal name => "Unknown signal '" ++ name ++ "'"

end Fault

end LogicCircuit
