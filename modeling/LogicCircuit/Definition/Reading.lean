import LogicCircuit.Definition.Scanner
import LogicCircuit.Definition.Statement

/-!
# Reading definitions

Reads the text of a definition into a circuit. Mistakes do not stop the reading: they are reported,
and the circuit holds whatever was valid. The same tables can take several definitions one after the
other.

`readOnto` scans the text through its first `END`, reads the statements, and reports what was found in
the order of the text, followed by warnings about inputs that nothing drives and about a circuit
without monitors.
-/

namespace LogicCircuit.Definition

/-- What has come of reading a definition. -/
structure Reading where
  names : NameTable
  circuit : Circuit
  /-- The error codes issued to this reading. -/
  codes : ErrorCodes
  diagnostics : List Diagnostic

namespace Reading

/-- The number of errors, warnings not counted. -/
def errorCount (reading : Reading) : Nat :=
  Diagnostic.errorCount reading.diagnostics

/-- Whether the definition has no errors. -/
def isOk (reading : Reading) : Bool :=
  reading.errorCount = 0

end Reading

/-- The offset of a place in a text of `size` bytes. -/
def Place.offset (size : Nat) : Place → Nat
  | atOffset offset => offset
  | textEnd => size

/-- Reports a finding, with an excerpt if it has a place. -/
def Finding.report (codes : ErrorCodes) (scanner : Scanner) (finding : Finding) : Scanner :=
  scanner.report (finding.problem.diagnostic codes)
    (finding.place.map (Place.offset scanner.document.size))

/-- The warning about inputs that nothing drives, if there are any. -/
def floatingWarning? (net : Network) (codes : ErrorCodes) : Option Diagnostic :=
  if net.floatingNames.isEmpty then none
  else some ((Problem.mistake (.floatingInputs net.floatingNames)).diagnostic codes)

/-- The warning about a circuit without monitors. -/
def monitorWarning? (monitors : Monitors) : Option Diagnostic :=
  if monitors.isEmpty then some (.warning "No monitors have been declared") else none

/-- What is to be said about a circuit as a whole. -/
def warnings (circuit : Circuit) (codes : ErrorCodes) : List Diagnostic :=
  (floatingWarning? circuit.network codes).toList ++ (monitorWarning? circuit.monitors).toList

/-- Reads a definition into a circuit, on top of what the tables hold already. The codes are counted without
overflow checks. -/
def readOnto (names : NameTable) (circuit : Circuit) (text : String) : Reading :=
  let (scanner, names) := Scanner.new text names
  let (codes, names) := names.takeCodes (UInt64.ofNat Problem.kindCount)
  let (symbols, scanner, names) := scanner.throughEnd names
  let (circuit, findings) := statements names circuit symbols
  let scanner := findings.foldl (Finding.report codes) scanner
  { names, circuit, codes, diagnostics := scanner.diagnostics.toList ++ warnings circuit codes }

/-- Reads a definition in a build, which may be stopped when the codes are issued, before anything is read. -/
def readIn (build : Build) (names : NameTable) (circuit : Circuit) (text : String) :
    Except Panic Reading :=
  ((Scanner.new text names).2.takeCodesIn build (UInt64.ofNat Problem.kindCount)).map fun _ =>
    readOnto names circuit text

/-- Reads a definition of its own. -/
def read (text : String) : Reading :=
  readOnto .empty .empty text

end LogicCircuit.Definition
