import LogicCircuit.Proofs.Recording
import LogicCircuit.Proofs.Solution
import Mathlib.Data.List.Forall2

/-!
# Oscillation — what a cycle that does not settle leaves

A cycle advances its sources and sweeps over its gates before it is known whether the gates settle. When
they do not, the cycle is given up with the network as the last sweep left it. This module says what has
changed by then, for any number of sweeps and any wiring:

* **`Element.Stalls`** — clocks and signal generators have advanced by one cycle, gates have any level,
  switches and flip-flops are as they were. It is what is left of `Network.muted_settle`, which says that
  sweeps change levels of gates alone (`Network.stalls_settle`).
* **`exists_of_execute_eq_error`** — a run that fails has completed some cycles and failed in the next one.
* **`oscillation_frame`** — both together: a failing cycle changes nothing else, and a run that fails
  keeps all that was recorded of the cycles before.
-/

namespace LogicCircuit

/-! ## Elements, devices and networks -/

/-- What a cycle that oscillates can make of an element: sources that run by themselves have advanced,
and a gate may have any level. -/
inductive Element.Stalls : Element → Element → Prop where
  | switch (initial level : Level) : Stalls (.switch initial level) (.switch initial level)
  | gate (op : GateOp) (inputs : Nat) (output left : Level) :
      Stalls (.gate op inputs output) (.gate op inputs left)
  | dtype (memory lastClk : Level) : Stalls (.dtype memory lastClk) (.dtype memory lastClk)
  | clock (halfPeriod counter : Nat) (output : Level) :
      Stalls (.clock halfPeriod counter output) (advance (.clock halfPeriod counter output))
  | siggen (waveform : Waveform) (phase : Nat) (output : Level) :
      Stalls (.siggen waveform phase output) (advance (.siggen waveform phase output))

/-- What such a cycle makes of a device: its element alone has changed. -/
structure Device.Stalls (device left : Device) : Prop where
  id : left.id = device.id
  name : left.name = device.name
  drivers : left.drivers = device.drivers
  element : device.element.Stalls left.element

/-- A gate may keep its level, and anything else may be advanced. -/
theorem Element.stalls_advance (element : Element) : element.Stalls element.advance := by
  cases element with
  | switch initial level => exact .switch initial level
  | gate op inputs output => exact .gate op inputs output output
  | dtype memory lastClk => exact .dtype memory lastClk
  | clock halfPeriod counter output => exact .clock halfPeriod counter output
  | siggen waveform phase output => exact .siggen waveform phase output

namespace Device

variable {device left : Device}

/-- Muting a gate changes its level, which is not drawn. -/
theorem drawn_muted (device : Device) : device.muted.drawn = device.drawn :=
  drawn_withElement (Element.kind_drive .low device.element)

/-- A device that differs from the advanced one in the level of a gate alone. -/
theorem stalls_of_muted_eq (h : left.muted = (device.withElement device.element.advance).muted) :
    device.Stalls left := by
  -- the drawing says that the kinds agree, so a gate is what a gate was
  have hdrawn : left.drawn = device.drawn := by
    rw [← drawn_muted, h, drawn_muted]
    exact drawn_withElement (Element.kind_advance device.element)
  obtain ⟨hid, hname, hdrivers, hkind⟩ := drawn_eq_iff.1 hdrawn
  refine ⟨hid, hname, hdrivers, ?_⟩
  by_cases hgate : left.IsGate
  · obtain ⟨op, inputs, output, hleft⟩ := hgate
    rw [kind, kind, hleft] at hkind
    rw [hleft]
    cases helement : device.element with
    | gate op' inputs' output' =>
      rw [helement] at hkind
      cases hkind
      exact .gate op inputs output' output
    | _ =>
      rw [helement] at hkind
      cases hkind
  · -- anything but a gate is the advanced device itself
    rw [eq_of_muted_eq h hgate]
    exact device.element.stalls_advance

end Device

/-- **Sweeps over advanced sources.** However many there are, each device is as a cycle that oscillates
leaves it. -/
theorem Network.stalls_settle (net : Network) (limit : Nat) :
    List.Forall₂ Device.Stalls net.devices (net.advanceSources.settle limit).1.devices := by
  -- `muted_settle` says the same of the whole network, with gates muted on both sides
  have hmuted : (net.devices.map fun device =>
        (device.withElement device.element.advance).muted)
      = (net.advanceSources.settle limit).1.devices.map Device.muted := by
    have hsettle := congrArg Network.devices (muted_settle net.advanceSources limit)
    rw [muted, muted, advanceSources, List.map_map] at hsettle
    exact hsettle.symm
  rw [← List.forall₂_eq_eq_eq, List.forall₂_map_left_iff, List.forall₂_map_right_iff] at hmuted
  exact hmuted.imp fun device left h => Device.stalls_of_muted_eq h.symm

/-! ## Simulators -/

/-- What a cycle that oscillates leaves of a simulator, and what it says. -/
structure Simulator.Stalls (sim left : Simulator) (fault : Fault) : Prop where
  fault : fault = .oscillating (sim.cycle + 1) sim.sweepLimit
  cycle : left.cycle = sim.cycle
  fixedLimit : left.fixedLimit = sim.fixedLimit
  devices : List.Forall₂ Device.Stalls sim.network.devices left.network.devices

/-- **A cycle that fails** oscillates, and changes nothing but clocks, generators and gates. -/
theorem Simulator.stalls_of_step_eq_error {sim left : Simulator} {fault : Fault}
    (h : sim.step = (left, .error fault)) : sim.Stalls left fault := by
  have hdevices := Network.stalls_settle sim.network sim.sweepLimit
  rcases step_cases sim with ⟨_, _, -, hok⟩ | ⟨unsettled, hsettle, herror⟩
  · rw [hok] at h
    cases h
  · rw [hsettle] at hdevices
    rw [herror] at h
    cases h
    exact ⟨rfl, rfl, rfl, hdevices⟩

/-! ## Sessions -/

namespace Session

variable {session after : Session} {fault : Fault}

/-- What a cycle that oscillates leaves of a session: the simulator is as such a cycle leaves it, and
the names, the monitored points and their histories are as they were. -/
structure Stalls (session after : Session) (fault : Fault) : Prop where
  simulator : session.simulator.Stalls after.simulator fault
  names : after.names = session.names
  monitors : after.monitors = session.monitors

/-- A cycle that oscillates is not recorded. -/
theorem cycle_of_step_eq_error {simulator : Simulator}
    (h : session.simulator.step = (simulator, .error fault)) :
    session.cycle = ({ session with simulator }, .error fault) := by
  rw [Session.cycle, h]

/-- **A cycle that fails** leaves the monitors of a session alone. -/
theorem stalls_of_cycle_eq_error (h : session.cycle = (after, .error fault)) :
    session.Stalls after fault := by
  rcases session.cycle_cases with ⟨_, _, -, hok⟩ | ⟨simulator, _, hstep, -, -, herror⟩
  · rw [hok] at h
    cases h
  · rw [herror] at h
    cases h
    exact ⟨Simulator.stalls_of_step_eq_error hstep, rfl, rfl⟩

/-- **A run that fails** has completed its first cycles, and failed in the next one. -/
theorem exists_of_execute_eq_error {cycles : Nat}
    (h : session.execute cycles = (after, .error fault)) :
    ∃ completed < cycles, ∃ before, session.execute completed = (before, .ok ()) ∧
      before.cycle = (after, .error fault) := by
  induction cycles generalizing session with
  | zero => cases h
  | succ cycles ih =>
    rcases session.cycle_result with ⟨hok, -⟩ | ⟨herror, -⟩
    · -- the failing cycle is counted from the session after this one
      rw [execute_of_cycle_ok hok] at h
      obtain ⟨completed, hlt, before, hbefore, hcycle⟩ := ih h
      refine ⟨completed + 1, by omega, before, ?_, hcycle⟩
      rw [execute_of_cycle_ok hok]
      exact hbefore
    · rw [execute_of_cycle_error herror] at h
      exact ⟨0, by omega, session, rfl, h⟩

/-- **What a cycle that oscillates leaves behind.** Of the simulator it changes clocks and signal
generators, which have advanced, and the levels of gates; of a session nothing but the simulator. So a
run that fails, from a cold start or not, leaves the monitored points and the histories that its
completed cycles made. -/
theorem oscillation_frame (session : Session) :
    (∀ simulator fault, session.simulator.step = (simulator, .error fault) →
      session.simulator.Stalls simulator fault ∧
        session.cycle = ({ session with simulator }, .error fault)) ∧
    (∀ cycles after fault, session.run cycles = (after, .error fault) →
      ∃ completed < cycles, ∃ before, session.run completed = (before, .ok ()) ∧
        before.cycle = (after, .error fault) ∧ before.Stalls after fault) ∧
    ∀ cycles after fault, session.continueRun cycles = (after, .error fault) →
      (fault = .nothingToContinue ∧ after = session) ∨
      ∃ completed < cycles, ∃ before, session.continueRun completed = (before, .ok ()) ∧
        before.cycle = (after, .error fault) ∧ before.Stalls after fault := by
  refine ⟨fun simulator fault hstep => ?_, fun cycles after fault hrun => ?_,
    fun cycles after fault hrun => ?_⟩
  · exact ⟨Simulator.stalls_of_step_eq_error hstep, cycle_of_step_eq_error hstep⟩
  · obtain ⟨completed, hlt, before, hbefore, hcycle⟩ := exists_of_execute_eq_error hrun
    exact ⟨completed, hlt, before, hbefore, hcycle, stalls_of_cycle_eq_error hcycle⟩
  · by_cases hcold : session.cyclesCompleted = 0
    · rw [continueRun_unstarted hcold] at hrun
      cases hrun
      exact .inl ⟨rfl, rfl⟩
    · rw [continueRun_started hcold] at hrun
      obtain ⟨completed, hlt, before, hbefore, hcycle⟩ := exists_of_execute_eq_error hrun
      refine .inr ⟨completed, hlt, before, ?_, hcycle, stalls_of_cycle_eq_error hcycle⟩
      rw [continueRun_started hcold]
      exact hbefore

/-- A gate that drives itself while a clock is high. The clock is low in the first cycle and high in the
second. -/
def clockedLoop : String :=
  "define C as CLOCK period 4; define G as NAND 2 inputs; define D as DTYPE; connect C to G.I1; " ++
    "connect G to G.I2; connect G to D.DATA; connect C to D.CLK; monitor C D.Q; END"

/-- The first cycle of a run is recorded. The second one oscillates and leaves the record as it is, and
so does a third one that is tried from there. -/
theorem oscillation_frame_clockedLoop :
    let session := (load clockedLoop none).1
    let failed := (session.run 3).1
    (session.run 3).2 = .error (.oscillating 2 4) ∧
    (∃ completed < 3, ∃ before, session.run completed = (before, .ok ()) ∧
      before.Stalls failed (.oscillating 2 4)) ∧
    failed.simulator.Stalls failed.simulator.step.1 (.oscillating 2 4) ∧
    (failed.continueRun 2).2 = .error (.oscillating 2 4) ∧
    (∃ completed < 2, ∃ before, failed.continueRun completed = (before, .ok ()) ∧
      before.Stalls (failed.continueRun 2).1 (.oscillating 2 4)) ∧
    failed.monitors.entries.map Monitor.history = [#[.low], #[.low]] := by
  intro session failed
  have hfacts : (session.run 3).2 = .error (.oscillating 2 4) ∧
      (failed.continueRun 2).2 = .error (.oscillating 2 4) ∧
      failed.simulator.step.2 = .error (.oscillating 2 4) ∧
      failed.monitors.entries.map Monitor.history = [#[.low], #[.low]] := by
    decide +kernel
  obtain ⟨hrun, hcontinue, hstep, hhistories⟩ := hfacts
  obtain ⟨completed, hlt, before, hbefore, -, hstalls⟩ :=
    (oscillation_frame session).2.1 3 failed _ (Prod.ext rfl hrun)
  obtain ⟨hfailing, hcontinued⟩ := (oscillation_frame failed).imp_right And.right
  have hleft := (hfailing _ _ (Prod.ext rfl hstep)).1
  refine ⟨hrun, ⟨completed, hlt, before, hbefore, hstalls⟩, hleft, hcontinue, ?_, hhistories⟩
  -- the simulator may oscillate, but there is something to continue
  rcases hcontinued 2 _ _ (Prod.ext rfl hcontinue) with ⟨hnothing, -⟩ | hsome
  · cases hnothing
  · obtain ⟨completed', hlt', before', hbefore', -, hstalls'⟩ := hsome
    exact ⟨completed', hlt', before', hbefore', hstalls'⟩

end Session

end LogicCircuit
