import LogicCircuit.Network

/-!
# Monitors

A monitor watches one output and remembers its level of every completed cycle. A monitor that is
added late has blanks for the cycles it missed, so all histories have the same length. Points are
kept in the order in which they were added.
-/

namespace LogicCircuit

/-- What a monitor remembers of one cycle. -/
inductive Signal where
  | low
  | high
  /-- The cycle was over before the output was monitored. -/
  | blank
  deriving DecidableEq, Repr

namespace Signal

def ofLevel : Level → Signal
  | .low => low
  | .high => high

/-- The character drawn for the cycle in a trace. -/
def mark : Signal → Char
  | low => '_'
  | high => '-'
  | blank => ' '

end Signal

/-- A monitored output with its history. -/
structure Monitor where
  point : OutputRef
  history : Array Signal
  deriving DecidableEq, Repr

/-- The monitors of a circuit, in the order they were added. -/
structure Monitors where
  entries : List Monitor
  deriving DecidableEq, Repr

namespace Monitors

def empty : Monitors :=
  { entries := [] }

def size (monitors : Monitors) : Nat :=
  monitors.entries.length

def isEmpty (monitors : Monitors) : Bool :=
  monitors.entries.isEmpty

/-- The monitored outputs, in the order they were added. -/
def points (monitors : Monitors) : List OutputRef :=
  monitors.entries.map Monitor.point

def contains (monitors : Monitors) (point : OutputRef) : Bool :=
  monitors.points.contains point

/-- The history of an output, if it is monitored. -/
def history? (monitors : Monitors) (point : OutputRef) : Option (Array Signal) :=
  (monitors.entries.find? fun entry => entry.point = point).map Monitor.history

/-- Starts to monitor an output, with blanks for the `elapsed` cycles it missed. The table is only
asked for the name of a device that does not exist. -/
def add (monitors : Monitors) (names : NameTable) (net : Network) (point : OutputRef)
    (elapsed : Nat) : Except Fault Monitors :=
  match net.signalName? point with
  | none =>
    match names.textOf point.device with
    | .ok name => .error (.unknownSignal (name ++ point.port.suffix))
    | .error misuse => .error misuse
  | some name =>
    if monitors.contains point then .error (.monitorPresent name)
    else .ok { entries := monitors.entries ++ [⟨point, Array.replicate elapsed .blank⟩] }

/-- Stops monitoring an output; `none` if it was not monitored. -/
def remove? (monitors : Monitors) (point : OutputRef) : Option Monitors :=
  if monitors.contains point then
    some { entries := monitors.entries.filter fun entry => entry.point ≠ point }
  else
    none

/-- Appends the present level of every monitored output to its history. -/
def record (monitors : Monitors) (net : Network) : Monitors :=
  { entries := monitors.entries.map fun entry =>
      let signal := ((net.level? entry.point).map Signal.ofLevel).getD .blank
      { entry with history := entry.history.push signal } }

/-- Empties every history and keeps the points. -/
def clear (monitors : Monitors) : Monitors :=
  { entries := monitors.entries.map fun entry => { entry with history := #[] } }

/-! ## Names -/

/-- The display names of the monitored outputs, in the order they were added. -/
def monitoredNames (monitors : Monitors) (net : Network) : List String :=
  monitors.points.filterMap net.signalName?

/-- The display names of the other outputs, in definition order. -/
def unmonitoredNames (monitors : Monitors) (net : Network) : List String :=
  (net.outputs.filter fun output => !monitors.contains output).filterMap net.signalName?

/-- The length of the longest monitored name, 0 when nothing is monitored. -/
def margin (monitors : Monitors) (net : Network) : Nat :=
  (monitors.monitoredNames net).foldl (fun widest name => max widest name.length) 0

end Monitors

end LogicCircuit
