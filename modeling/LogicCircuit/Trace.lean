import LogicCircuit.Monitors

/-!
# Traces

Monitored histories as text: one line for each monitor, with the names padded to a common width so
that the cycles of all traces line up.
-/

namespace LogicCircuit

namespace Trace

/-- A history as text, one character for each cycle. -/
def ofHistory (history : Array Signal) : String :=
  String.ofList (history.toList.map Signal.mark)

/-- A name with blanks after it up to the given width. -/
def pad (name : String) (width : Nat) : String :=
  name ++ String.ofList (List.replicate (width - name.length) ' ')

/-- One line of a drawing. -/
def line (name : String) (history : Array Signal) (width : Nat) : String :=
  pad name width ++ " : " ++ ofHistory history ++ "\n"

end Trace

/-- The drawing of all monitored outputs, in the order they were added. -/
def Monitors.render (monitors : Monitors) (net : Network) : String :=
  let width := monitors.margin net
  String.join <| monitors.entries.filterMap fun entry =>
    (net.signalName? entry.point).map fun name => Trace.line name entry.history width

end LogicCircuit
