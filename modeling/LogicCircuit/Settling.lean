import LogicCircuit.Network

/-!
# Settling

Gates have no delay of their own: within a cycle they are evaluated over and over until nothing
changes. A sweep visits the gates in definition order and drives each one from the levels of that
moment, so a gate sees what the gates before it have just become. `Network.settle` sweeps until one
sweep leaves the network as it was, or a limit on the number of sweeps is reached.
-/

namespace LogicCircuit

namespace Network

/-- The level that reaches an input from its driver, LOW when there is none. -/
def drivenLevel (net : Network) (driver : Option OutputRef) : Level :=
  (driver.bind net.level?).getD .low

/-- The level on an input of a device. -/
def inputLevel (net : Network) (device : Device) (port : InputPort) : Level :=
  net.drivenLevel (device.driver? port)

/-- The levels on all inputs of a device, in order. -/
def inputLevels (net : Network) (device : Device) : List Level :=
  device.drivers.map fun (_, driver) => net.drivenLevel driver

/-- Drives one gate from the present levels of its inputs. Other devices stay as they are. -/
def relax (net : Network) (id : NameId) : Network :=
  match net.device? id with
  | some device =>
    match device.element with
    | .gate op _ output =>
      let level := op.evaluate (net.inputLevels device)
      if level = output then net
      else net.update id fun device => device.withElement (device.element.drive level)
    | _ => net
  | none => net

/-- One sweep over the gates, in definition order. -/
def sweep (net : Network) : Network :=
  net.ids.foldl relax net

/-- Sweeps until a sweep changes nothing, at most `limit` times. The answer is the network that is
left and the number of sweeps made, counted from `made`, if the last of them changed nothing. -/
def settleFrom (net : Network) (made : Nat) : Nat → Network × Option Nat
  | 0 => (net, none)
  | limit + 1 =>
    let next := net.sweep
    if next = net then (next, some (made + 1)) else next.settleFrom (made + 1) limit

/-- Settles the gates: the network that is left, and the number of sweeps it took if it settled
within `limit` of them. -/
def settle (net : Network) (limit : Nat) : Network × Option Nat :=
  net.settleFrom 0 limit

end Network

end LogicCircuit
