import LogicCircuit.Definition.Keyword
import LogicCircuit.Diagnostic

/-!
# Problems

Everything that can be wrong with a definition, as a cause with what is needed to word it. Problems
are numbered in a fixed order; the number of a problem picks its error code from the block that was
issued to the reader of the definition.
-/

namespace LogicCircuit.Definition

/-- What the grammar wants at a place where it finds something else. -/
inductive Wanted where
  | statement
  | name
  | keyword (word : Keyword)
  | semicolon
  | deviceType
  | switchState
  /-- The first level of a waveform. -/
  | waveformStart
  /-- A further level of a waveform, or its end. -/
  | waveformRest
  | number
  | inputDot
  | outputPort
  | inputPort
  /-- The final `END`. -/
  | finalEnd
  deriving DecidableEq, Repr

/-- A well-formed piece of a definition that has no meaning. -/
inductive Mistake where
  | duplicateDevice (name : String)
  | inputCount
  | shortPeriod
  | zeroCycles
  | longWaveform
  | unknownDevice (name : String)
  | unexpectedDot
  | missingOutputPort (name : String)
  | portAbsent (device port : String)
  | inputConnected (input : String)
  | duplicateMonitor (signal : String)
  | floatingInputs (inputs : List String)
  /-- The circuit refused for a reason of its own. -/
  | refused (message : String)
  deriving DecidableEq, Repr

/-- What is wrong at a place of a definition. -/
inductive Problem where
  | invalidCharacter (c : Char)
  | wanted (what : Wanted)
  | mistake (what : Mistake)
  deriving DecidableEq, Repr

namespace Wanted

def message : Wanted → String
  | statement => "Invalid symbol for start of line."
  | name => "Invalid name, may be keyword"
  | keyword word => "Expected keyword '" ++ word.spelling ++ "'"
  | semicolon => "Expected ';' at end of statement"
  | deviceType => "Expected a device type"
  | switchState => "Expected 0 or 1 for switch state"
  | waveformStart => "Expected 0 or 1 for signal level"
  | waveformRest => "Expected 0 or 1 or keyword 'waveform'"
  | number => "Expected a number"
  | inputDot => "Expected '.' and an input port"
  | outputPort => "Expected Q or QBAR after '.'"
  | inputPort => "Expected DATA, CLK, SET, CLEAR or I<n> after '.'"
  | finalEnd => "Expected END at end of file"

/-- The place in the order of all problems. -/
def ordinal : Wanted → Nat
  | statement => 1
  | name => 2
  | keyword _ => 3
  | semicolon => 4
  | deviceType => 5
  | switchState => 6
  | waveformStart => 7
  | waveformRest => 8
  | number => 9
  | inputDot => 10
  | outputPort => 11
  | inputPort => 12
  | finalEnd => 13

end Wanted

namespace Mistake

def message : Mistake → String
  | duplicateDevice name => "Device '" ++ name ++ "' is already defined"
  | inputCount => "Number of inputs must be integer in range(1, 17)"
  | shortPeriod => "Clock period must be at least 2 cycles"
  | zeroCycles => "Number of cycles must be positive"
  | longWaveform => "Signal generator waveform is too long"
  | unknownDevice name => "Device '" ++ name ++ "' is not defined"
  | unexpectedDot => "Unexpected dot. Can only specify port for DTYPE."
  | missingOutputPort name =>
    "DTYPE output must be given as " ++ name ++ ".Q or " ++ name ++ ".QBAR"
  | portAbsent device port => "Device '" ++ device ++ "' has no input '" ++ port ++ "'"
  | inputConnected input => "Input '" ++ input ++ "' is already connected"
  | duplicateMonitor signal => "Signal '" ++ signal ++ "' is already monitored"
  | floatingInputs inputs =>
    "The following inputs are floating: " ++ String.intercalate ", " inputs
  | refused message => message

/-- The place in the order of all problems. -/
def ordinal : Mistake → Nat
  | duplicateDevice _ => 14
  | inputCount => 15
  | shortPeriod => 16
  | zeroCycles => 17
  | longWaveform => 18
  | unknownDevice _ => 19
  | unexpectedDot => 20
  | missingOutputPort _ => 21
  | portAbsent _ _ => 22
  | inputConnected _ => 23
  | duplicateMonitor _ => 24
  | floatingInputs _ => 25
  | refused _ => 26

/-- Floating inputs do not make a definition unusable; every other mistake does. -/
def severity : Mistake → Severity
  | floatingInputs _ => .warning
  | _ => .error

end Mistake

namespace Problem

/-- The number of kinds of problem, which is the size of a reader's block of error codes. -/
def kindCount : Nat :=
  27

/-- The text shown to a user. -/
def message : Problem → String
  | invalidCharacter c => "Invalid character '" ++ String.singleton c ++ "'"
  | wanted what => what.message
  | mistake what => what.message

/-- The place in the order of all problems. -/
def ordinal : Problem → Nat
  | invalidCharacter _ => 0
  | wanted what => what.ordinal
  | mistake what => what.ordinal

def category : Problem → Category
  | invalidCharacter _ => .lexical
  | wanted _ => .grammatical
  | mistake _ => .semantic

def severity : Problem → Severity
  | invalidCharacter _ | wanted _ => .error
  | mistake what => what.severity

/-- The error code of the problem in a block of codes. -/
def code? (problem : Problem) (codes : ErrorCodes) : Option ErrorCode :=
  codes.get? problem.ordinal

/-- The diagnostic that reports the problem, without an excerpt. -/
def diagnostic (problem : Problem) (codes : ErrorCodes) : Diagnostic :=
  { severity := problem.severity
    category := some problem.category
    code := problem.code? codes
    message := problem.message
    excerpt := none }

end Problem

end LogicCircuit.Definition
