import LogicCircuit.Definition.Reading
import LogicCircuit.Simulator
import LogicCircuit.Trace

/-!
# Sessions

A session is a circuit with a simulator and monitors, kept in step: the monitors record once for
each completed cycle, and a run stops at the first cycle whose gates do not settle. Signals and
switches are addressed by their display names.

Operations that a fault leaves without effect answer either the new session or the fault. Runs
answer both, since the cycles before a fault count.
-/

namespace LogicCircuit

/-- A circuit ready to be simulated. -/
structure Session where
  names : NameTable
  simulator : Simulator
  monitors : Monitors

namespace Session

/-! ## Loading -/

/-- The session of a definition, with all that was reported about it. A faulty definition gives a
session with whatever part of the circuit is valid. -/
def load (text : String) (fixedLimit : Option Nat) : Session × List Diagnostic :=
  let reading := Definition.read text
  ({ names := reading.names
     simulator := .new reading.circuit.network fixedLimit
     monitors := reading.circuit.monitors },
   reading.diagnostics)

/-- The session of a definition without errors. -/
def ofDefinition (text : String) : Except Fault Session :=
  let (session, diagnostics) := load text none
  let errors := Diagnostic.errorCount diagnostics
  if errors = 0 then .ok session else .error (.parseFailed errors)

def network (session : Session) : Network :=
  session.simulator.network

/-- The cycles completed since the last cold start. -/
def cyclesCompleted (session : Session) : Nat :=
  session.simulator.cycle

/-! ## Running -/

/-- Runs one cycle, and records it if it is completed. -/
def cycle (session : Session) : Session × Except Fault Unit :=
  match session.simulator.step with
  | (simulator, .ok ()) =>
    ({ session with simulator, monitors := session.monitors.record simulator.network }, .ok ())
  | (simulator, .error fault) => ({ session with simulator }, .error fault)

/-- Runs cycles up to the first fault. -/
def execute (session : Session) : Nat → Session × Except Fault Unit
  | 0 => (session, .ok ())
  | cycles + 1 =>
    match session.cycle with
    | (session, .ok ()) => session.execute cycles
    | (session, .error fault) => (session, .error fault)

/-- Empties the histories and goes back to the state before the first cycle. -/
def restart (session : Session) : Session :=
  { session with simulator := session.simulator.coldStart, monitors := session.monitors.clear }

/-- Runs cycles from a cold start. -/
def run (session : Session) (cycles : Nat) : Session × Except Fault Unit :=
  session.restart.execute cycles

/-- Runs further cycles. There must have been some. -/
def continueRun (session : Session) (cycles : Nat) : Session × Except Fault Unit :=
  if session.cyclesCompleted = 0 then (session, .error .nothingToContinue)
  else session.execute cycles

/-! ## Switches and signals -/

/-- Sets a switch. It keeps the level over later cold starts. -/
def setSwitch (session : Session) (name : String) (level : Level) : Except Fault Session :=
  match (session.names.id? name).filter fun id => (session.network.device? id).isSome with
  | none => .error (.unknownSignal name)
  | some id =>
    match session.simulator.setSwitch? id level with
    | some simulator => .ok { session with simulator }
    | none => .error (.notASwitch name)

/-- Splits a signal name at its first dot into the names of a device and of a port; without a dot
the name of the port is empty. -/
def splitName (signal : String) : String × String :=
  let chars := signal.toList
  (String.ofList (chars.takeWhile (· ≠ '.')), String.ofList ((chars.dropWhile (· ≠ '.')).drop 1))

/-- The output that a signal name refers to. -/
def resolve (session : Session) (signal : String) : Except Fault OutputRef :=
  let (device, port) := splitName signal
  match session.names.id? device, OutputPort.ofName? port with
  | some id, some port =>
    if (session.network.signalName? ⟨id, port⟩).isSome then .ok ⟨id, port⟩
    else .error (.unknownSignal signal)
  | _, _ => .error (.unknownSignal signal)

/-! ## Monitors -/

/-- Starts to monitor a signal. The cycles completed so far are blank in its history. -/
def addMonitor (session : Session) (signal : String) : Except Fault Session :=
  match session.resolve signal with
  | .error fault => .error fault
  | .ok point =>
    match session.monitors.add session.names session.network point session.cyclesCompleted with
    | .error fault => .error fault
    | .ok monitors => .ok { session with monitors }

/-- Stops monitoring a signal. -/
def removeMonitor (session : Session) (signal : String) : Except Fault Session :=
  match session.resolve signal with
  | .error fault => .error fault
  | .ok point =>
    match session.monitors.remove? point with
    | none => .error (.monitorAbsent signal)
    | some monitors => .ok { session with monitors }

/-- The history of a monitored signal. -/
def trace (session : Session) (signal : String) : Except Fault (Array Signal) :=
  match session.resolve signal with
  | .error fault => .error fault
  | .ok point =>
    match session.monitors.history? point with
    | none => .error (.monitorAbsent signal)
    | some history => .ok history

/-- The display names of the monitored outputs, in the order they were added. -/
def monitoredNames (session : Session) : List String :=
  session.monitors.monitoredNames session.network

/-- The display names of the other outputs, in definition order. -/
def unmonitoredNames (session : Session) : List String :=
  session.monitors.unmonitoredNames session.network

/-- The drawing of all monitored signals. -/
def render (session : Session) : String :=
  session.monitors.render session.network

end Session

end LogicCircuit
