import LogicCircuit.Proofs.Definition.Circuits
import LogicCircuit.Session

/-!
# Operations on sessions

What can be done to a session, one `Operation` after the other, and whether each of them succeeds.
An operation that fails is done as well: a run keeps the cycles before the fault, all others leave the
session as it is.

* **`Preserved`** — what the parts of operations keep: single cycles, restarts, switches that are set,
  monitors that come and go. `Preserved.perform` says that operations keep it, and
  `Preserved.performAll` that sequences of them do.
* **`Sound`** — sessions as they are loaded and as operations leave them: `sound_performAll`.
-/

namespace LogicCircuit

namespace Session

variable {session after : Session}

/-! ## Operations -/

/-- An operation on a session. -/
inductive Operation where
  | run (cycles : Nat)
  | continueRun (cycles : Nat)
  | setSwitch (name : String) (level : Level)
  | addMonitor (signal : String)
  | removeMonitor (signal : String)
  deriving DecidableEq, Repr

/-- The session after an operation that has no effect when it fails, and whether it succeeded. -/
def accept (session : Session) : Except Fault Session → Session × Except Fault Unit
  | .ok after => (after, .ok ())
  | .error fault => (session, .error fault)

/-- The session after an operation, and whether the operation succeeded. -/
def perform (session : Session) : Operation → Session × Except Fault Unit
  | .run cycles => session.run cycles
  | .continueRun cycles => session.continueRun cycles
  | .setSwitch name level => session.accept (session.setSwitch name level)
  | .addMonitor signal => session.accept (session.addMonitor signal)
  | .removeMonitor signal => session.accept (session.removeMonitor signal)

/-- The session after several operations, whether they succeed or not. -/
def performAll (session : Session) (operations : List Operation) : Session :=
  operations.foldl (fun session operation => (session.perform operation).1) session

@[simp] theorem performAll_nil : session.performAll [] = session := rfl

@[simp] theorem performAll_cons (operation : Operation) (others : List Operation) :
    session.performAll (operation :: others) = (session.perform operation).1.performAll others := rfl

/-! ## What the parts of operations do -/

/-- **How a cycle ends.** It is completed, counted and recorded, or the network oscillates and neither
the count nor the monitors change. -/
theorem cycle_cases (session : Session) :
    (∃ simulator, session.simulator.step = (simulator, .ok ()) ∧
      simulator.cycle = session.cyclesCompleted + 1 ∧
      session.cycle = ({ session with
        simulator, monitors := session.monitors.record simulator.network }, .ok ())) ∨
    (∃ simulator fault, session.simulator.step = (simulator, .error fault) ∧
      fault = .oscillating (session.cyclesCompleted + 1) session.simulator.sweepLimit ∧
      simulator.cycle = session.cyclesCompleted ∧
      session.cycle = ({ session with simulator }, .error fault)) := by
  rcases Simulator.step_cases session.simulator with
    ⟨settled, passes, -, hstep⟩ | ⟨unsettled, -, hstep⟩
  · -- completed: the simulator is the one that the step has left, and the monitors record it
    refine .inl ⟨_, hstep, rfl, ?_⟩
    rw [Session.cycle, hstep]
  · refine .inr ⟨_, _, hstep, rfl, rfl, ?_⟩
    rw [Session.cycle, hstep]

/-- Only the step moves the simulator. -/
theorem cycle_simulator (session : Session) :
    session.cycle.1.simulator = session.simulator.step.1 := by
  rcases session.cycle_cases with ⟨simulator, hstep, -, hcycle⟩ | ⟨simulator, _, hstep, -, -, hcycle⟩
  · rw [hcycle, hstep]
  · rw [hcycle, hstep]

/-- What a cycle answers, and what it counts. -/
theorem cycle_result (session : Session) :
    (session.cycle.2 = .ok () ∧ session.cycle.1.cyclesCompleted = session.cyclesCompleted + 1) ∨
    (session.cycle.2 = .error
        (.oscillating (session.cyclesCompleted + 1) session.simulator.sweepLimit) ∧
      session.cycle.1.cyclesCompleted = session.cyclesCompleted) := by
  rcases session.cycle_cases with ⟨simulator, -, hcount, heq⟩ | ⟨simulator, _, -, rfl, hcount, heq⟩
  · rw [heq]
    exact .inl ⟨rfl, hcount⟩
  · rw [heq]
    exact .inr ⟨rfl, hcount⟩

/-- A completed cycle, and the others from what it leaves. -/
theorem execute_of_cycle_ok (h : session.cycle.2 = .ok ()) (cycles : Nat) :
    session.execute (cycles + 1) = session.cycle.1.execute cycles := by
  rw [execute]
  rcases hcycle : session.cycle with ⟨next, result⟩
  rw [hcycle] at h
  cases h
  rfl

/-- A failing cycle ends a run. -/
theorem execute_of_cycle_error {fault : Fault} (h : session.cycle.2 = .error fault) (cycles : Nat) :
    session.execute (cycles + 1) = session.cycle := by
  rw [execute]
  rcases hcycle : session.cycle with ⟨next, result⟩
  rw [hcycle] at h
  cases h
  rfl

/-- What changes when a switch is set. -/
theorem setSwitch_eq_ok {name : String} {level : Level}
    (h : session.setSwitch name level = .ok after) :
    ∃ id simulator, session.names.id? name = some id ∧
      session.simulator.setSwitch? id level = some simulator ∧
      after = { session with simulator } := by
  unfold setSwitch at h
  split at h
  · cases h
  · next id hid =>
    split at h
    · next simulator hset =>
      cases h
      exact ⟨id, simulator, (Option.filter_eq_some_iff.1 hid).1, hset, rfl⟩
    · cases h

/-- What changes when a monitor is added. -/
theorem addMonitor_eq_ok {signal : String} (h : session.addMonitor signal = .ok after) :
    ∃ point monitors,
      session.monitors.add session.names session.network point session.cyclesCompleted
        = .ok monitors ∧
      after = { session with monitors } := by
  unfold addMonitor at h
  split at h
  · cases h
  · next point _ =>
    split at h
    · cases h
    · next monitors hadd =>
      cases h
      exact ⟨point, monitors, hadd, rfl⟩

/-- What changes when a monitor is removed. -/
theorem removeMonitor_eq_ok {signal : String} (h : session.removeMonitor signal = .ok after) :
    ∃ point, after = { session with
      monitors := ⟨session.monitors.entries.filter fun monitor => monitor.point ≠ point⟩ } := by
  unfold removeMonitor at h
  split at h
  · cases h
  · next point _ =>
    split at h
    · cases h
    · next monitors hremove =>
      cases h
      unfold Monitors.remove? at hremove
      split at hremove
      · cases hremove
        exact ⟨point, rfl⟩
      · cases hremove

/-! ## What operations keep -/

/-- A property that the parts of operations keep. -/
structure Preserved (property : Session → Prop) : Prop where
  cycle : ∀ session, property session → property session.cycle.1
  restart : ∀ session, property session → property session.restart
  setSwitch : ∀ session after name level, property session →
    session.setSwitch name level = .ok after → property after
  addMonitor : ∀ session after signal, property session →
    session.addMonitor signal = .ok after → property after
  removeMonitor : ∀ session after signal, property session →
    session.removeMonitor signal = .ok after → property after

namespace Preserved

variable {property : Session → Prop}

/-- A run keeps it cycle by cycle, also when one fails. -/
theorem execute (hkept : Preserved property) (cycles : Nat) (h : property session) :
    property (session.execute cycles).1 := by
  induction cycles generalizing session with
  | zero => exact h
  | succ cycles ih =>
    have hcycle := hkept.cycle session h
    rcases session.cycle_result with ⟨hok, -⟩ | ⟨herror, -⟩
    · rw [execute_of_cycle_ok hok]
      exact ih hcycle
    · rw [execute_of_cycle_error herror]
      exact hcycle

/-- A refused operation leaves the session as it was. -/
theorem accept {result : Except Fault Session} (h : property session)
    (hresult : ∀ after, result = .ok after → property after) :
    property (session.accept result).1 := by
  cases result with
  | ok after => exact hresult after rfl
  | error fault => exact h

/-- **One operation.** It keeps what its parts keep. -/
theorem perform (hkept : Preserved property) (operation : Operation) (h : property session) :
    property (session.perform operation).1 := by
  cases operation with
  | run cycles => exact hkept.execute cycles (hkept.restart session h)
  | continueRun cycles =>
    -- a refusal, or a run that goes on
    show property (session.continueRun cycles).1
    unfold Session.continueRun
    split
    · exact h
    · exact hkept.execute cycles h
  | setSwitch name level => exact accept h fun after => hkept.setSwitch session after name level h
  | addMonitor signal => exact accept h fun after => hkept.addMonitor session after signal h
  | removeMonitor signal => exact accept h fun after => hkept.removeMonitor session after signal h

/-- **Several operations.** They keep what the parts of operations keep. -/
theorem performAll (hkept : Preserved property) (operations : List Operation)
    (h : property session) : property (session.performAll operations) := by
  induction operations generalizing session with
  | nil => exact h
  | cons operation others ih => exact ih (hkept.perform operation h)

end Preserved

/-! ## Sound sessions -/

/-- A session as loading and operations leave it: its simulator can be reached, the table knows its
devices, and what it monitors exists. -/
structure Sound (session : Session) : Prop where
  reachable : session.simulator.Reachable
  named : session.network.NamedBy session.names
  watched : ∀ monitor ∈ session.monitors.entries, monitor.point ∈ session.network.outputs

/-- A session that has just been loaded is sound, as what has been read is. -/
theorem sound_load (text : String) (fixedLimit : Option Nat) : (load text fixedLimit).1.Sound where
  reachable := .new (Definition.sound_read text).built fixedLimit
  named := (Definition.sound_read text).named
  watched := (Definition.sound_read text).watched

/-- Soundness depends on the network through its roster only. -/
theorem Sound.of_roster_eq (h : session.Sound) {simulator : Simulator} {monitors : Monitors}
    (hreachable : simulator.Reachable) (hroster : simulator.network.roster = session.network.roster)
    (hpoints : ∀ point ∈ monitors.points, point ∈ session.network.outputs) :
    Sound { session with simulator, monitors } where
  reachable := hreachable
  named := by
    intro entry hentry
    exact h.named entry (hroster ▸ hentry)
  watched := by
    intro monitor hmonitor
    show monitor.point ∈ simulator.network.outputs
    rw [Network.outputs_of_roster_eq hroster]
    exact hpoints monitor.point (List.mem_map_of_mem hmonitor)

/-- What is monitored exists. -/
theorem Sound.mem_outputs (h : session.Sound) {point : OutputRef}
    (hpoint : point ∈ session.monitors.points) : point ∈ session.network.outputs := by
  obtain ⟨monitor, hmonitor, rfl⟩ := List.mem_map.1 hpoint
  exact h.watched monitor hmonitor

theorem points_record (monitors : Monitors) (net : Network) :
    (monitors.record net).points = monitors.points := by
  simp [Monitors.record, Monitors.points, Function.comp_def]

theorem points_clear (monitors : Monitors) : monitors.clear.points = monitors.points := by
  simp [Monitors.clear, Monitors.points, Function.comp_def]

theorem roster_step {sim : Simulator} (hsim : sim.Reachable) :
    sim.step.1.network.roster = sim.network.roster :=
  Network.roster_of_drawing_eq (Simulator.drawing_step hsim.distinct)

/-- A switch that is set is not seen in the roster. -/
theorem roster_setSwitch? {sim simulator : Simulator} {id : NameId} {level : Level}
    (hsim : sim.Reachable) (h : sim.setSwitch? id level = some simulator) :
    simulator.network.roster = sim.network.roster := by
  simp only [Simulator.setSwitch?, Option.map_eq_some_iff] at h
  obtain ⟨network, hset, rfl⟩ := h
  exact Network.roster_of_drawing_eq (Network.drawing_setSwitch? hsim.distinct hset)

/-- In each part it has to be seen that the simulator can still be reached, that the roster stays, and that
no point is new but one that exists. -/
theorem preserved_sound : Preserved Sound where
  cycle := by
    intro session h
    have hroster := roster_step h.reachable
    have hreachable := h.reachable.step
    rcases session.cycle_cases with
      ⟨simulator, hstep, -, hcycle⟩ | ⟨simulator, _, hstep, -, -, hcycle⟩
    · rw [hstep] at hroster hreachable
      rw [hcycle]
      refine h.of_roster_eq hreachable hroster fun point hpoint => ?_
      rw [points_record] at hpoint
      exact h.mem_outputs hpoint
    · rw [hstep] at hroster hreachable
      rw [hcycle]
      exact h.of_roster_eq hreachable hroster fun point => h.mem_outputs
  restart := by
    intro session h
    have hroster : session.simulator.coldStart.network.roster = session.network.roster :=
      Network.roster_of_drawing_eq Network.drawing_coldStart
    refine h.of_roster_eq h.reachable.coldStart hroster fun point hpoint => ?_
    rw [points_clear] at hpoint
    exact h.mem_outputs hpoint
  setSwitch := by
    intro session after name level h hafter
    obtain ⟨id, simulator, -, hset, rfl⟩ := setSwitch_eq_ok hafter
    exact h.of_roster_eq (h.reachable.setSwitch hset) (roster_setSwitch? h.reachable hset)
      fun point => h.mem_outputs
  addMonitor := by
    intro session after signal h hafter
    obtain ⟨point, monitors, hadd, rfl⟩ := addMonitor_eq_ok hafter
    obtain ⟨hpoint, -, rfl⟩ := Monitors.add_eq_ok hadd
    -- what is monitored now is what was, or the output that the text was read as
    refine h.of_roster_eq h.reachable rfl fun other hother => ?_
    simp only [Monitors.points, List.map_append, List.mem_append] at hother
    rcases hother with hold | hnew
    · exact h.mem_outputs hold
    · have hsame : other = point := by simpa using hnew
      exact hsame ▸ hpoint
  removeMonitor := by
    intro session after signal h hafter
    obtain ⟨point, rfl⟩ := removeMonitor_eq_ok hafter
    refine h.of_roster_eq h.reachable rfl fun other hother => ?_
    obtain ⟨monitor, hmonitor, rfl⟩ := List.mem_map.1 hother
    exact h.watched monitor (List.mem_of_mem_filter hmonitor)

/-- **Every session that can be reached is sound.** -/
theorem sound_performAll (text : String) (fixedLimit : Option Nat) (operations : List Operation) :
    ((load text fixedLimit).1.performAll operations).Sound :=
  preserved_sound.performAll operations (sound_load text fixedLimit)

end Session

end LogicCircuit
