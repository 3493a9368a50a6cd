import LogicCircuit.Session

/-!
# Panels

A panel operates a session for a front end that wants no more than yes or no: every operation
answers whether it succeeded, and the panel keeps the wording of the last failure until an operation
succeeds.
-/

namespace LogicCircuit

/-- A session with the message of the operation that failed last. -/
structure Panel where
  session : Session
  lastError : Option String

namespace Panel

/-- A panel for a definition without errors. -/
def ofDefinition (text : String) : Except Fault Panel :=
  match Session.ofDefinition text with
  | .ok session => .ok { session, lastError := none }
  | .error fault => .error fault

/-- The panel after a run, and whether the run succeeded. -/
def conclude (result : Session × Except Fault Unit) : Panel × Bool :=
  match result with
  | (session, .ok ()) => ({ session, lastError := none }, true)
  | (session, .error fault) => ({ session, lastError := some fault.message }, false)

/-- The panel after an operation that has no effect when it fails, and whether it succeeded. -/
def accept (panel : Panel) (result : Except Fault Session) : Panel × Bool :=
  match result with
  | .ok session => conclude (session, .ok ())
  | .error fault => conclude (panel.session, .error fault)

def run (panel : Panel) (cycles : Nat) : Panel × Bool :=
  conclude (panel.session.run cycles)

def continueRun (panel : Panel) (cycles : Nat) : Panel × Bool :=
  conclude (panel.session.continueRun cycles)

def setSwitch (panel : Panel) (name : String) (level : Level) : Panel × Bool :=
  panel.accept (panel.session.setSwitch name level)

def addMonitor (panel : Panel) (signal : String) : Panel × Bool :=
  panel.accept (panel.session.addMonitor signal)

def removeMonitor (panel : Panel) (signal : String) : Panel × Bool :=
  panel.accept (panel.session.removeMonitor signal)

/-- The drawing of all monitored signals. -/
def render (panel : Panel) : String :=
  panel.session.render

/-- The monitored names, one a line. -/
def monitored (panel : Panel) : String :=
  String.intercalate "\n" panel.session.monitoredNames

/-- The names of the other outputs, one a line. -/
def unmonitored (panel : Panel) : String :=
  String.intercalate "\n" panel.session.unmonitoredNames

end Panel

end LogicCircuit
