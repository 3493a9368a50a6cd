import LogicCircuit.Proofs.Acyclic
import LogicCircuit.Proofs.Integrity
import LogicCircuit.Proofs.Oscillation
import Mathlib.Algebra.Order.Ring.Nat
import Mathlib.Algebra.Ring.Parity

/-!
# Rings — inverters in a circle, which never settle

A NAND or NOR gate all of whose inputs come from one output shows the opposite of its level, however many
inputs it has. Put an odd number of such gates in a circle, and no levels can satisfy their equations: going
round once, the level is inverted an odd number of times and has to be what it was. Settling ends only in
levels that satisfy all equations, so no cycle of a circuit with such a ring is ever completed, whatever
else the circuit has.

* **`Network.OddRing`** — the ring. It is a matter of the wiring, so no cycle, switch or cold start can
  break it (`OddRing.of_drawing_eq`).
* **`OddRing.not_balanced`** — the parity argument, by going along the ring.
* **`preserved_stuck`** — what operations on a session with a ring keep: no cycle is completed, nothing is
  recorded and no flip-flop latches.
* **`oddRing_never_settles`** — single cycles and whole sessions together.
-/

namespace LogicCircuit

/-! ## Inverting gates -/

namespace Level

theorem invert_involutive : Function.Involutive invert :=
  invert_invert

theorem invert_ne (level : Level) : level.invert ≠ level := by
  cases level <;> decide

end Level

/-- NAND and NOR gates invert a level that is on all their inputs. -/
theorem GateOp.evaluate_eq_invert {op : GateOp} {inputs : List Level} {level : Level}
    (hop : op = .nand ∨ op = .nor) (hne : inputs ≠ []) (h : ∀ input ∈ inputs, input = level) :
    op.evaluate inputs = level.invert := by
  obtain ⟨input, hinput⟩ := List.exists_mem_of_ne_nil inputs hne
  -- with one level on all inputs, and some input, all of them and any of them are HIGH if that level is
  have hall : inputs.all Level.isHigh = level.isHigh := by
    cases level with
    | low => exact List.all_eq_false.2 ⟨input, hinput, by simp [h input hinput, Level.isHigh]⟩
    | high => exact List.all_eq_true.2 fun other hother => by simp [h other hother, Level.isHigh]
  have hany : inputs.any Level.isHigh = level.isHigh := by
    cases level with
    | low => exact List.any_eq_false.2 fun other hother => by simp [h other hother, Level.isHigh]
    | high => exact List.any_eq_true.2 ⟨input, hinput, by simp [h input hinput, Level.isHigh]⟩
  rcases hop with rfl | rfl
  · simp only [evaluate, hall]
    cases level <;> rfl
  · simp only [evaluate, hany]
    cases level <;> rfl

/-- A cycle that oscillates does not move flip-flops. -/
theorem Element.Stalls.eq_of_kind {element left : Element} (h : element.Stalls left)
    (hkind : left.kind = .dtype) : left = element := by
  -- no other element is of the kind of a flip-flop, before the cycle or after it
  cases h with
  | dtype memory lastClk => rfl
  | switch initial level => cases hkind
  | gate op inputs output left => cases hkind
  | clock halfPeriod counter output =>
    rw [kind_advance] at hkind
    cases hkind
  | siggen waveform phase output =>
    rw [kind_advance] at hkind
    cases hkind

namespace Network

variable {net after : Network} {source target : NameId} {ring : List NameId}

/-! ## Rings -/

/-- The target is a NAND or NOR gate, and the source drives all its inputs. -/
def Inverts (net : Network) (source target : NameId) : Prop :=
  ∃ op drivers, net.gate? target = some (op, drivers) ∧ (op = .nand ∨ op = .nor) ∧
    ∀ driver ∈ drivers, driver = some ⟨source, .main⟩

/-- An odd number of gates, each of which inverts the one before it, and the first one the last. -/
structure OddRing (net : Network) (ring : List NameId) : Prop where
  odd : Odd ring.length
  chain : ring.IsChain net.Inverts
  closed : ∀ first ∈ ring.head?, ∀ last ∈ ring.getLast?, net.Inverts last first

/-- What a gate inverts is part of the drawing. -/
theorem Inverts.of_drawing_eq (h : net.Inverts source target) (hdrawing : after.drawing = net.drawing) :
    after.Inverts source target := by
  rw [Inverts, gate?_of_drawing_eq hdrawing]
  exact h

/-- A ring stays a ring. -/
theorem OddRing.of_drawing_eq (h : net.OddRing ring) (hdrawing : after.drawing = net.drawing) :
    after.OddRing ring where
  odd := h.odd
  chain := h.chain.imp fun _ _ hinverts => hinverts.of_drawing_eq hdrawing
  closed := fun first hfirst last hlast => (h.closed first hfirst last hlast).of_drawing_eq hdrawing

/-- In a network in order every gate has inputs. -/
theorem WellFormed.drivers_ne_nil (hnet : net.WellFormed) {op : GateOp}
    {drivers : List (Option OutputRef)} (h : net.gate? target = some (op, drivers)) :
    drivers ≠ [] := by
  obtain ⟨device, inputs, output, hdevice, helement, rfl⟩ := gate?_eq_some_iff.1 h
  have hmem := (mem_of_device? hdevice).1
  have hkind : device.kind = .gate op inputs := by
    rw [Device.kind, helement, Element.kind]
  have hlegal := hnet.legal device hmem
  have hports := congrArg List.length (hnet.declared device hmem)
  -- a legal gate has an input, and the device declares the inputs of its kind
  rw [hkind] at hlegal hports
  have hpos : 1 ≤ inputs := hlegal.1
  have hlength : device.drivers.length = inputs := by
    simpa [Device.inputPorts, DeviceKind.inputPorts] using hports
  apply List.ne_nil_of_length_pos
  rw [List.length_map]
  omega

/-- In a balanced network a gate that inverts another one shows the opposite level. -/
theorem Inverts.gateLevel_eq (h : net.Inverts source target) (hnet : net.WellFormed)
    (hbalanced : net.Balanced) : net.gateLevel target = (net.gateLevel source).invert := by
  obtain ⟨op, drivers, hgate, hop, hdrivers⟩ := h
  have hequation : net.BalancedAt target := hnet.distinct.balanced_iff.1 hbalanced target
  -- every input is driven by the source, so the same level is on all of them
  have hlevels : ∀ level ∈ drivers.map net.drivenLevel, level = net.gateLevel source := by
    intro level hlevel
    obtain ⟨driver, hdriver, rfl⟩ := List.mem_map.1 hlevel
    rw [hdrivers driver hdriver]
    rfl
  have hne : drivers.map net.drivenLevel ≠ [] := by
    simpa using hnet.drivers_ne_nil hgate
  rw [gateLevel, hequation.level?_main hgate, Option.getD_some]
  exact GateOp.evaluate_eq_invert hop hne hlevels

/-- Along a chain of inverting gates the level is inverted once for each step. -/
theorem gateLevel_getLast (hnet : net.WellFormed) (hbalanced : net.Balanced) :
    ∀ (first : NameId) (rest : List NameId), (first :: rest).IsChain net.Inverts →
      net.gateLevel ((first :: rest).getLast (List.cons_ne_nil _ _))
        = Level.invert^[rest.length] (net.gateLevel first)
  | first, [], _ => rfl
  -- the rest of the chain starts one inversion later
  | first, second :: rest, hchain => by
    obtain ⟨hfirst, hrest⟩ := List.isChain_cons_cons.1 hchain
    rw [List.getLast_cons (List.cons_ne_nil _ _), gateLevel_getLast hnet hbalanced second rest hrest,
      hfirst.gateLevel_eq hnet hbalanced, ← Function.iterate_succ_apply]
    rfl

/-- **Parity.** No levels satisfy the equations of an odd ring. -/
theorem OddRing.not_balanced (h : net.OddRing ring) (hnet : net.WellFormed) : ¬ net.Balanced := by
  intro hbalanced
  obtain ⟨hodd, hchain, hclosed⟩ := h
  cases ring with
  | nil => exact absurd hodd (by decide) -- no gate at all is not an odd number of them
  | cons first rest =>
    have hlast := gateLevel_getLast hnet hbalanced first rest hchain
    have hround : net.Inverts ((first :: rest).getLast (List.cons_ne_nil _ _)) first :=
      hclosed first rfl _ (List.getLast?_eq_getLast_of_ne_nil _)
    have hlevel := hround.gateLevel_eq hnet hbalanced
    -- once round the ring, the level has been inverted an odd number of times
    rw [List.length_cons] at hodd
    rw [hlast, ← Function.iterate_succ_apply' Level.invert, Nat.succ_eq_add_one,
      Level.invert_involutive.iterate_odd hodd] at hlevel
    exact Level.invert_ne _ hlevel.symm

/-! ## Networks that can be built -/

/-- The flip-flops are as they were made: none has ever latched. -/
def Unlatched (net : Network) : Prop :=
  ∀ device ∈ net.devices, device.kind = .dtype → device.element = .dtype .low .low

/-- Built networks are in order, as each step keeps them so. -/
theorem Built.wellFormed (h : net.Built) : net.WellFormed := by
  induction h with
  | empty => exact wellFormed_empty
  | addDevice _ h ih => exact ih.addDevice h
  | connect _ h ih => exact ih.connect h
  | setSwitch _ h ih => exact ih.of_drawing_eq (drawing_setSwitch? ih.distinct h)
  | coldStart _ ih => exact ih.of_drawing_eq drawing_coldStart

/-- A cold start empties flip-flops. -/
theorem unlatched_coldStart (net : Network) : net.coldStart.Unlatched := by
  intro device hmem hkind
  obtain ⟨earlier, -, rfl⟩ := List.mem_map.1 hmem
  obtain ⟨id, name, drivers, element⟩ := earlier
  cases element with
  | dtype memory lastClk => rfl
  | _ => cases hkind

/-- A switch that is set leaves flip-flops alone. -/
theorem Unlatched.setSwitch? (h : net.Unlatched) {level : Level}
    (hset : net.setSwitch? source level = some after) : after.Unlatched := by
  obtain ⟨device, initial, old, -, -, rfl⟩ := setSwitch?_eq_some hset
  intro found hmem hkind
  obtain ⟨earlier, hearlier, rfl⟩ := List.mem_map.1 hmem
  split at hkind
  · -- what has been set is a switch
    cases hkind
  · next hother =>
    rw [if_neg hother]
    exact h earlier hearlier hkind

/-- So does a cycle that fails. -/
theorem Unlatched.stalls (h : net.Unlatched)
    (hstalls : List.Forall₂ Device.Stalls net.devices after.devices) : after.Unlatched := by
  have hdevice : ∀ device left : Device, device.Stalls left →
      (device.kind = .dtype → device.element = .dtype .low .low) →
      left.kind = .dtype → left.element = .dtype .low .low := by
    intro device left hleft hlow hkind
    -- a cycle that oscillates may move other devices, but not a flip-flop
    have hsame : left.element = device.element := hleft.element.eq_of_kind hkind
    rw [hsame]
    apply hlow
    rw [Device.kind, ← hsame]
    exact hkind
  obtain ⟨devices⟩ := net
  obtain ⟨left⟩ := after
  simp only [Unlatched] at h hstalls ⊢
  induction hstalls with
  | nil => exact h
  | cons hfirst _ ih =>
    obtain ⟨hlow, hothers⟩ := List.forall_mem_cons.1 h
    exact List.forall_mem_cons.2 ⟨hdevice _ _ hfirst hlow, ih hothers⟩

/-- In a built network no flip-flop has latched. -/
theorem Built.unlatched (h : net.Built) : net.Unlatched := by
  induction h with
  | empty =>
    intro device hmem
    cases hmem
  | addDevice _ h ih =>
    obtain ⟨-, -, rfl⟩ := addDevice_eq_ok h
    intro device hmem hkind
    -- a device from before, or the new one, which is empty
    rcases List.mem_append.1 hmem with hold | hnew
    · exact ih device hold hkind
    · rw [List.mem_singleton.1 hnew] at hkind ⊢
      simp only [Device.kind, Device.new, Element.kind_ofKind] at hkind
      rw [Device.new, hkind]
      rfl
  | connect _ h ih =>
    -- a wire changes the inputs of a device, not its state
    obtain ⟨_, _, -, -, -, -, -, rfl⟩ := connect_eq_ok h
    intro device hmem hkind
    obtain ⟨earlier, hearlier, rfl⟩ := List.mem_map.1 hmem
    split at hkind
    · next hid =>
      rw [if_pos hid]
      exact ih earlier hearlier hkind
    · next hid =>
      rw [if_neg hid]
      exact ih earlier hearlier hkind
  | setSwitch _ h ih => exact ih.setSwitch? h
  | coldStart _ _ => exact unlatched_coldStart _

end Network

/-! ## Cycles -/

namespace Simulator

variable {sim after : Simulator} {ring : List NameId}

/-- Reachable simulators hold networks in order. -/
theorem Reachable.wellFormed (h : sim.Reachable) : sim.network.WellFormed := by
  induction h with
  | new hnet fixedLimit => exact hnet.wellFormed
  | step _ ih => exact ih.of_drawing_eq (drawing_step ih.distinct)
  | setSwitch _ h ih =>
    rw [setSwitch?, Option.map_eq_some_iff] at h
    obtain ⟨network, hset, rfl⟩ := h
    exact ih.of_drawing_eq (Network.drawing_setSwitch? ih.distinct hset)
  | coldStart _ ih => exact ih.of_drawing_eq Network.drawing_coldStart

/-- **One cycle.** With a ring in the network it oscillates, from whatever state. -/
theorem exists_step_eq_error (hsim : sim.Reachable) (h : sim.network.OddRing ring) :
    ∃ left, sim.step = (left, .error (.oscillating (sim.cycle + 1) sim.sweepLimit)) := by
  rcases step_cases sim with ⟨settled, passes, hsettle, -⟩ | ⟨unsettled, -, hstep⟩
  · -- a network that has settled would be balanced
    have hadvanced : sim.network.advanceSources.Distinct :=
      hsim.distinct.of_drawing_eq Network.drawing_advanceSources
    obtain ⟨-, -, hbalanced⟩ := Network.settle_eq_some_balanced hadvanced hsettle
    have hdrawing := drawing_settled hsettle
    exact absurd hbalanced
      ((h.of_drawing_eq hdrawing).not_balanced (hsim.wellFormed.of_drawing_eq hdrawing))
  · exact ⟨_, hstep⟩

end Simulator

/-! ## Sessions -/

namespace Session

variable {session after : Session} {ring : List NameId}

/-- A session whose network has a ring: no cycle has been completed, so all histories are empty, and no
flip-flop has latched. -/
structure Stuck (ring : List NameId) (session : Session) : Prop where
  inStep : session.InStep
  ring : session.network.OddRing ring
  unstarted : session.cyclesCompleted = 0
  unlatched : session.network.Unlatched

/-- A session that has been loaded with a ring in it is stuck. -/
theorem stuck_load {text : String} {fixedLimit : Option Nat}
    (h : (load text fixedLimit).1.network.OddRing ring) : (load text fixedLimit).1.Stuck ring where
  inStep := inStep_load text fixedLimit
  ring := h
  unstarted := rfl
  unlatched := (Definition.sound_read text).built.unlatched

/-- A cycle of such a session oscillates. -/
theorem Stuck.cycle (h : session.Stuck ring) :
    ∃ simulator fault, session.simulator.step = (simulator, .error fault) ∧
      fault = .oscillating 1 session.simulator.sweepLimit ∧
      session.cycle = ({ session with simulator }, .error fault) := by
  obtain ⟨left, hstep⟩ := Simulator.exists_step_eq_error h.inStep.sound.reachable h.ring
  refine ⟨left, _, hstep, ?_, cycle_of_step_eq_error hstep⟩
  rw [show session.simulator.cycle = 0 from h.unstarted]

/-- **What operations keep.** Nothing that can be done to the session gets it past its first cycle. -/
theorem preserved_stuck (ring : List NameId) : Preserved (Stuck ring) where
  cycle := by
    intro session h
    have hinStep := preserved_inStep.cycle session h.inStep
    obtain ⟨simulator, fault, hstep, -, hcycle⟩ := h.cycle
    -- the failing cycle leaves the drawing, the count and the flip-flops
    have hdrawing := Simulator.drawing_step h.inStep.sound.reachable.distinct
    have hstalls := Simulator.stalls_of_step_eq_error hstep
    rw [hstep] at hdrawing
    rw [hcycle] at hinStep ⊢
    exact ⟨hinStep, h.ring.of_drawing_eq hdrawing, hstalls.cycle.trans h.unstarted,
      h.unlatched.stalls hstalls.devices⟩
  restart := by
    intro session h
    exact ⟨preserved_inStep.restart session h.inStep, h.ring.of_drawing_eq Network.drawing_coldStart,
      rfl, Network.unlatched_coldStart _⟩
  setSwitch := by
    intro session after name level h hafter
    have hinStep := preserved_inStep.setSwitch session after name level h.inStep hafter
    obtain ⟨id, simulator, -, hset, rfl⟩ := setSwitch_eq_ok hafter
    simp only [Simulator.setSwitch?, Option.map_eq_some_iff] at hset
    obtain ⟨network, hset, rfl⟩ := hset
    have hdrawing := Network.drawing_setSwitch? h.inStep.sound.reachable.distinct hset
    exact ⟨hinStep, h.ring.of_drawing_eq hdrawing, h.unstarted, h.unlatched.setSwitch? hset⟩
  addMonitor := by
    intro session after signal h hafter
    have hinStep := preserved_inStep.addMonitor session after signal h.inStep hafter
    obtain ⟨_, _, _, rfl⟩ := addMonitor_eq_ok hafter
    exact ⟨hinStep, h.ring, h.unstarted, h.unlatched⟩
  removeMonitor := by
    intro session after signal h hafter
    have hinStep := preserved_inStep.removeMonitor session after signal h.inStep hafter
    obtain ⟨_, rfl⟩ := removeMonitor_eq_ok hafter
    exact ⟨hinStep, h.ring, h.unstarted, h.unlatched⟩

/-- The histories of such a session are empty. -/
theorem Stuck.history_eq_empty (h : session.Stuck ring) :
    ∀ monitor ∈ session.monitors.entries, monitor.history = #[] := by
  intro monitor hmonitor
  have hsize := (h.inStep.recorded monitor hmonitor).1
  rw [h.unstarted] at hsize
  exact Array.eq_empty_of_size_eq_zero hsize

/-- A run of such a session fails in its first cycle. -/
theorem Stuck.run (h : session.Stuck ring) {cycles : Nat} (hpos : 0 < cycles) :
    (session.run cycles).2 = .error (.oscillating 1 session.simulator.sweepLimit) := by
  -- the run starts cold, and what it then does first is a cycle
  obtain ⟨others, rfl⟩ := Nat.exists_eq_add_one_of_ne_zero (Nat.ne_of_gt hpos)
  obtain ⟨simulator, fault, -, hfault, hcycle⟩ := ((preserved_stuck ring).restart session h).cycle
  rw [sweepLimit_restart] at hfault
  have herror : session.restart.cycle.2 = .error fault := by
    rw [hcycle]
  rw [Session.run, execute_of_cycle_error herror, herror, hfault]

/-- **An odd ring of inverting gates never settles.** A cycle of a simulator whose network has such a
ring oscillates, whatever else the network has, in whatever order it is defined, with whatever limit on
the sweeps and from whatever state; of the ring nothing is lost, and no flip-flop moves. So a session of
such a circuit never completes a cycle, whatever is done to it: its runs fail in their first cycle, its
histories stay empty, and its flip-flops stay as they were made. -/
theorem oddRing_never_settles (ring : List NameId) :
    (∀ sim : Simulator, sim.Reachable → sim.network.OddRing ring →
      ∃ left, sim.step = (left, .error (.oscillating (sim.cycle + 1) sim.sweepLimit)) ∧
        sim.Stalls left (.oscillating (sim.cycle + 1) sim.sweepLimit) ∧
        left.network.OddRing ring) ∧
    ∀ text fixedLimit operations, (load text fixedLimit).1.network.OddRing ring →
      let session := (load text fixedLimit).1.performAll operations
      session.network.OddRing ring ∧ session.cyclesCompleted = 0 ∧
      (∀ monitor ∈ session.monitors.entries, monitor.history = #[]) ∧
      (∀ device ∈ session.network.devices, device.kind = .dtype →
        device.element = .dtype .low .low) ∧
      ∀ cycles, 0 < cycles →
        (session.run cycles).2 = .error (.oscillating 1 session.simulator.sweepLimit) := by
  -- one cycle from any state, and then sessions by the invariant
  refine ⟨fun sim hsim hring => ?_, fun text fixedLimit operations hring => ?_⟩
  · obtain ⟨left, hstep⟩ := Simulator.exists_step_eq_error hsim hring
    have hdrawing := Simulator.drawing_step hsim.distinct
    rw [hstep] at hdrawing
    exact ⟨left, hstep, Simulator.stalls_of_step_eq_error hstep, hring.of_drawing_eq hdrawing⟩
  · have hstuck := (preserved_stuck ring).performAll operations (stuck_load hring)
    exact ⟨hstuck.ring, hstuck.unstarted, hstuck.history_eq_empty, hstuck.unlatched,
      fun cycles => hstuck.run⟩

/-- A NOR gate with one input and two NAND gates, one of them with two, in a circle. A flip-flop is set by
one of them. -/
def ringOfThree : String :=
  "define A as NOR 1 inputs; define B C as NAND 2 inputs; define D as DTYPE; connect A to C.I1; " ++
    "connect A to C.I2; connect C to B.I1; connect C to B.I2; connect B to A.I1; connect C to D.SET; END"

/-- A run, a monitor that comes late, and another run. -/
def ringRuns : List Operation :=
  [.run 2, .addMonitor "D.Q", .run 1]

/-- After the runs the simulator still oscillates in its first cycle. The history is empty, and the
flip-flop is as it was made, although the gate that sets it has been high. -/
theorem oddRing_never_settles_ringOfThree :
    let session := (load ringOfThree none).1.performAll ringRuns
    (load ringOfThree none).1.network.OddRing [⟨27⟩, ⟨30⟩, ⟨29⟩] ∧
    session.simulator.step.2 = .error (.oscillating 1 5) ∧ session.cyclesCompleted = 0 ∧
    session.monitors.entries.map Monitor.history = [#[]] ∧
    (session.network.device? ⟨32⟩).map Device.element = some (.dtype .low .low) ∧
    0 < 2 ∧ (session.run 2).2 = .error (.oscillating 1 5) := by
  have hfacts : let loaded := (load ringOfThree none).1
      let session := loaded.performAll ringRuns
      loaded.network.gate? ⟨30⟩ = some (.nand, [some ⟨⟨27⟩, .main⟩, some ⟨⟨27⟩, .main⟩]) ∧
      loaded.network.gate? ⟨29⟩ = some (.nand, [some ⟨⟨30⟩, .main⟩, some ⟨⟨30⟩, .main⟩]) ∧
      loaded.network.gate? ⟨27⟩ = some (.nor, [some ⟨⟨29⟩, .main⟩]) ∧
      session.simulator.sweepLimit = 5 ∧ session.monitors.entries.length = 1 ∧
      (session.network.device? ⟨32⟩).map Device.kind = some .dtype := by
    decide +kernel
  intro session
  obtain ⟨hsecond, hthird, hfirst, hlimit, hmonitors, hflipFlop⟩ := hfacts
  have hloaded : (load ringOfThree none).1.network.OddRing [⟨27⟩, ⟨30⟩, ⟨29⟩] := by
    refine ⟨by decide, ?_, ?_⟩
    · simp only [List.isChain_cons_cons, List.isChain_singleton, and_true]
      exact ⟨⟨_, _, hsecond, .inl rfl, by simp⟩, ⟨_, _, hthird, .inl rfl, by simp⟩⟩
    · intro first hhead last hlast
      cases hhead
      cases hlast
      exact ⟨_, _, hfirst, .inr rfl, by simp⟩
  obtain ⟨hsimulators, hsessions⟩ := oddRing_never_settles [⟨27⟩, ⟨30⟩, ⟨29⟩]
  obtain ⟨hring, hcount, hhistories, hunlatched, hruns⟩ := hsessions ringOfThree none ringRuns hloaded
  -- said of any session, so that the runs of this one are not evaluated again to see it
  have hsimulator : ∀ s : Session, s.network.OddRing [⟨27⟩, ⟨30⟩, ⟨29⟩] → s.cyclesCompleted = 0 →
      s.simulator.network.OddRing [⟨27⟩, ⟨30⟩, ⟨29⟩] ∧ s.simulator.cycle = 0 :=
    fun _ hring hcount => ⟨hring, hcount⟩
  obtain ⟨hinside, hcold⟩ := hsimulator session hring hcount
  obtain ⟨left, hstep, -, -⟩ :=
    hsimulators session.simulator (sound_performAll ringOfThree none ringRuns).reachable hinside
  refine ⟨hloaded, ?_, hcount, ?_, ?_, by decide, ?_⟩
  · rw [hstep, hcold, hlimit]
  · have hmap : session.monitors.entries.map Monitor.history
        = session.monitors.entries.map fun _ => #[] := List.map_congr_left hhistories
    rw [hmap, List.map_const', hmonitors]
    rfl
  · obtain ⟨device, hdevice, hkind⟩ := Option.map_eq_some_iff.1 hflipFlop
    rw [hdevice, Option.map_some, hunlatched device (Network.mem_of_device? hdevice).1 hkind]
  · rw [hruns 2 (by decide), hlimit]

end Session

end LogicCircuit
