import LogicCircuit.Settling

/-!
# Simulation

A simulator runs a network cycle by cycle. In each cycle the clocks and signal generators advance,
the gates settle, and the flip-flops latch. A cycle whose gates do not settle is not completed: the
cycle count and the flip-flops stay as they were, while the sources have advanced and the gates
keep the levels of the last sweep.
-/

namespace LogicCircuit

namespace Network

/-- One cycle of every clock and signal generator. -/
def advanceSources (net : Network) : Network :=
  { devices := net.devices.map fun device => device.withElement device.element.advance }

/-- Latches one device from the present levels of its inputs, if it is a flip-flop. -/
def latch (net : Network) (id : NameId) : Network :=
  match net.device? id with
  | some device =>
    match device.element with
    | .dtype _ _ =>
      let level := net.inputLevel device
      let element :=
        device.element.latch (level .data) (level .clk) (level .set) (level .clear)
      net.update id fun device => device.withElement element
    | _ => net
  | none => net

/-- Latches the flip-flops one after the other, in definition order. -/
def latchAll (net : Network) : Network :=
  net.ids.foldl latch net

end Network

/-- A network being simulated. -/
structure Simulator where
  network : Network
  /-- A fixed limit on the sweeps of a cycle, if one has been chosen. -/
  fixedLimit : Option Nat
  /-- The cycles completed since the last cold start. The count has 64 bits; `2 ^ 64` completed cycles are out
  of reach, so it does not come to its end. -/
  cycle : Nat
  deriving DecidableEq, Repr

namespace Simulator

/-- A simulator that has not run yet. -/
def new (network : Network) (fixedLimit : Option Nat) : Simulator :=
  { network, fixedLimit, cycle := 0 }

/-- The number of sweeps a cycle may take: the chosen limit, else one more than there are
devices. -/
def sweepLimit (sim : Simulator) : Nat :=
  sim.fixedLimit.getD (sim.network.size + 1)

/-- Goes back to the state before the first cycle. Switches keep the levels they are set to. -/
def coldStart (sim : Simulator) : Simulator :=
  { sim with network := sim.network.coldStart, cycle := 0 }

/-- Sets a switch; `none` if the handle is not that of a switch. -/
def setSwitch? (sim : Simulator) (id : NameId) (level : Level) : Option Simulator :=
  (sim.network.setSwitch? id level).map fun network => { sim with network }

/-- Runs one cycle. -/
def step (sim : Simulator) : Simulator × Except Fault Unit :=
  match sim.network.advanceSources.settle sim.sweepLimit with
  | (settled, some _) =>
    ({ sim with network := settled.latchAll, cycle := sim.cycle + 1 }, .ok ())
  | (unsettled, none) =>
    ({ sim with network := unsettled }, .error (.oscillating (sim.cycle + 1) sim.sweepLimit))

end Simulator

end LogicCircuit
