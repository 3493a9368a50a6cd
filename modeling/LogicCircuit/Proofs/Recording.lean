import LogicCircuit.Proofs.Operations

/-!
# Recording — histories keep step with the cycle count

The cycle count is kept by the simulator, the histories by the monitors, and only the order in which a
session calls them keeps the two in step. They are in step in every session that can be reached, after
runs that were cut short by an oscillation and with monitors that came late or came back:

* **`Recorded`** — a history of the cycles so far: blanks for those before the monitor was added, a
  level for each one since. Adding a monitor starts such a history and each completed cycle extends it
  by a level (`Recorded.blank`, `Recorded.push`).
* **`execute_cases`** — a run of cycles completes them all, or stops at the first one that oscillates.
* **`histories_in_step`** — both together, for every definition and every sequence of operations.
-/

namespace LogicCircuit

/-! ## Outputs have levels -/

/-- An output of a network shows a level. -/
theorem Network.exists_level?_eq_some {net : Network} {output : OutputRef} (hnet : net.Distinct)
    (h : output ∈ net.outputs) : ∃ level, net.level? output = some level := by
  obtain ⟨device, hmem, hid, hport⟩ := mem_outputs_iff.1 h
  have hdevice : net.device? output.device = some device :=
    hnet.device?_eq_some_iff.2 ⟨hmem, hid⟩
  have hlevel : (device.element.output? output.port).isSome :=
    (Element.output?_isSome_iff device.element output.port).2 hport
  rw [level?, hdevice]
  exact Option.isSome_iff_exists.1 hlevel

/-! ## Histories -/

/-- A history of the first `cycles` cycles: blank before the monitor was added, and a level for each
cycle since. -/
def Recorded (cycles : Nat) (history : Array Signal) : Prop :=
  history.size = cycles ∧ ∃ (missed : Nat) (levels : List Level),
    history.toList = List.replicate missed Signal.blank ++ levels.map Signal.ofLevel

namespace Recorded

variable {cycles : Nat} {history : Array Signal}

/-- The history of a monitor that has just been added. -/
theorem blank (cycles : Nat) : Recorded cycles (Array.replicate cycles .blank) :=
  ⟨Array.size_replicate, cycles, [], by simp⟩

/-- One more cycle is recorded. -/
theorem push (h : Recorded cycles history) (level : Level) :
    Recorded (cycles + 1) (history.push (.ofLevel level)) := by
  obtain ⟨hsize, missed, levels, hlevels⟩ := h
  refine ⟨by rw [Array.size_push, hsize], missed, levels ++ [level], ?_⟩
  rw [Array.toList_push, hlevels, List.map_append, List.append_assoc]
  rfl

end Recorded

/-- A completed cycle extends every history by the level of its output. -/
theorem Monitors.recorded_record {monitors : Monitors} {net : Network} {cycles : Nat}
    (hnet : net.Distinct) (hwatched : ∀ monitor ∈ monitors.entries, monitor.point ∈ net.outputs)
    (h : ∀ monitor ∈ monitors.entries, Recorded cycles monitor.history) :
    ∀ monitor ∈ (monitors.record net).entries, Recorded (cycles + 1) monitor.history := by
  intro monitor hmonitor
  obtain ⟨earlier, hearlier, rfl⟩ := List.mem_map.1 hmonitor
  obtain ⟨level, hlevel⟩ := Network.exists_level?_eq_some hnet (hwatched earlier hearlier)
  have hpush := (h earlier hearlier).push level
  simpa [hlevel] using hpush

namespace Session

variable {session : Session}

/-! ## Sessions in step -/

/-- The histories of a session are those of its completed cycles. -/
structure InStep (session : Session) : Prop where
  sound : session.Sound
  recorded : ∀ monitor ∈ session.monitors.entries,
    Recorded session.cyclesCompleted monitor.history

/-- What has been loaded has completed no cycle, and its histories are empty. -/
theorem inStep_load (text : String) (fixedLimit : Option Nat) :
    (load text fixedLimit).1.InStep where
  sound := sound_load text fixedLimit
  recorded := by
    intro monitor hmonitor
    rw [(Definition.sound_read text).unrecorded monitor hmonitor]
    exact .blank 0

/-- Cycles, restarts and changes of monitors keep a session in step. A cycle that oscillates changes
neither the count nor the histories. -/
theorem preserved_inStep : Preserved InStep where
  cycle := by
    intro session h
    have hsound := preserved_sound.cycle session h.sound
    refine ⟨hsound, ?_⟩
    rcases session.cycle_cases with
      ⟨simulator, hstep, hcount, hcycle⟩ | ⟨simulator, _, hstep, -, hcount, hcycle⟩
    · -- what was monitored exists in the network after the cycle too, which is what is recorded
      rw [hcycle] at hsound ⊢
      have hwatched : ∀ monitor ∈ session.monitors.entries,
          monitor.point ∈ simulator.network.outputs := by
        intro monitor hmonitor
        have hroster := roster_step h.sound.reachable
        rw [hstep] at hroster
        rw [Network.outputs_of_roster_eq hroster]
        exact h.sound.watched monitor hmonitor
      show ∀ monitor ∈ (session.monitors.record simulator.network).entries,
        Recorded simulator.cycle monitor.history
      rw [hcount]
      exact Monitors.recorded_record hsound.reachable.distinct hwatched h.recorded
    · rw [hcycle]
      show ∀ monitor ∈ session.monitors.entries, Recorded simulator.cycle monitor.history
      rw [hcount]
      exact h.recorded
  restart := by
    intro session h
    refine ⟨preserved_sound.restart session h.sound, ?_⟩
    intro monitor hmonitor
    obtain ⟨earlier, -, rfl⟩ := List.mem_map.1 hmonitor
    exact .blank 0
  setSwitch := by
    intro session after name level h hafter
    have hsound := preserved_sound.setSwitch session after name level h.sound hafter
    obtain ⟨id, simulator, -, hset, rfl⟩ := setSwitch_eq_ok hafter
    simp only [Simulator.setSwitch?, Option.map_eq_some_iff] at hset
    obtain ⟨network, -, rfl⟩ := hset
    exact ⟨hsound, h.recorded⟩
  addMonitor := by
    intro session after signal h hafter
    have hsound := preserved_sound.addMonitor session after signal h.sound hafter
    obtain ⟨point, monitors, hadd, rfl⟩ := addMonitor_eq_ok hafter
    obtain ⟨-, -, rfl⟩ := Monitors.add_eq_ok hadd
    refine ⟨hsound, fun monitor hmonitor => ?_⟩
    -- a history from before, or one that is blank for every cycle so far
    rcases List.mem_append.1 hmonitor with hold | hnew
    · exact h.recorded monitor hold
    · rw [List.mem_singleton.1 hnew]
      exact .blank _
  removeMonitor := by
    intro session after signal h hafter
    have hsound := preserved_sound.removeMonitor session after signal h.sound hafter
    obtain ⟨point, rfl⟩ := removeMonitor_eq_ok hafter
    exact ⟨hsound, fun monitor hmonitor => h.recorded monitor (List.mem_of_mem_filter hmonitor)⟩

/-! ## Runs -/

/-- The sweeps that a cycle may take stay the same. -/
theorem sweepLimit_cycle (h : session.Sound) :
    session.cycle.1.simulator.sweepLimit = session.simulator.sweepLimit := by
  rw [cycle_simulator, Simulator.sweepLimit, Simulator.fixedLimit_step,
    Network.size_of_roster_eq (roster_step h.reachable), Simulator.sweepLimit]

/-- **How a run of cycles ends.** It completes them all, or it stops at the first one that
oscillates. -/
theorem execute_cases (h : session.Sound) (cycles : Nat) :
    ((session.execute cycles).2 = .ok () ∧
      (session.execute cycles).1.cyclesCompleted = session.cyclesCompleted + cycles) ∨
    ((session.execute cycles).2 = .error (.oscillating
        ((session.execute cycles).1.cyclesCompleted + 1) session.simulator.sweepLimit) ∧
      (session.execute cycles).1.cyclesCompleted < session.cyclesCompleted + cycles) := by
  induction cycles generalizing session with
  | zero => exact .inl ⟨rfl, rfl⟩
  | succ cycles ih =>
    have hothers := ih (preserved_sound.cycle session h)
    rw [sweepLimit_cycle h] at hothers
    rcases session.cycle_result with ⟨hok, hcount⟩ | ⟨herror, hcount⟩
    · -- one cycle is completed, and the others follow
      rw [execute_of_cycle_ok hok]
      rcases hothers with ⟨hresult, hcompleted⟩ | ⟨hresult, hcompleted⟩
      · exact .inl ⟨hresult, by omega⟩
      · exact .inr ⟨hresult, by omega⟩
    · rw [execute_of_cycle_error herror, hcount]
      exact .inr ⟨herror, by omega⟩

/-- So a run succeeds exactly if it completes its cycles. -/
theorem execute_eq_ok_iff (h : session.Sound) (cycles : Nat) :
    (session.execute cycles).2 = .ok () ↔
      (session.execute cycles).1.cyclesCompleted = session.cyclesCompleted + cycles := by
  rcases execute_cases h cycles with ⟨hok, hcompleted⟩ | ⟨herror, hcompleted⟩
  · simp [hok, hcompleted]
  · simp only [herror, reduceCtorEq, false_iff]
    omega

/-- What a run that does not complete its cycles says. -/
theorem execute_eq_error {fault : Fault} (h : session.Sound) {cycles : Nat}
    (hfault : (session.execute cycles).2 = .error fault) :
    fault = .oscillating ((session.execute cycles).1.cyclesCompleted + 1)
        session.simulator.sweepLimit ∧
      (session.execute cycles).1.cyclesCompleted < session.cyclesCompleted + cycles := by
  rcases execute_cases h cycles with ⟨hok, -⟩ | ⟨herror, hcompleted⟩
  · rw [hok] at hfault
    cases hfault
  · rw [herror] at hfault
    cases hfault
    exact ⟨rfl, hcompleted⟩

/-- The limit is still the same after a restart. -/
theorem sweepLimit_restart (session : Session) :
    session.restart.simulator.sweepLimit = session.simulator.sweepLimit := by
  simp [restart, Simulator.sweepLimit, Simulator.coldStart, Network.size, Network.coldStart]

/-- Nothing is continued when nothing has been run. -/
theorem continueRun_unstarted (h : session.cyclesCompleted = 0) (cycles : Nat) :
    session.continueRun cycles = (session, .error .nothingToContinue) := by
  rw [continueRun, if_pos h]

/-- Otherwise a run is continued as it was run. -/
theorem continueRun_started (h : session.cyclesCompleted ≠ 0) (cycles : Nat) :
    session.continueRun cycles = session.execute cycles := by
  rw [continueRun, if_neg h]

/-- **Histories keep step with the cycle count.** After any operations on a session, what is monitored
exists, and each history is that of the completed cycles. A run succeeds exactly if it completes the
cycles it was asked for, and further cycles are run exactly if there have been some; a run that fails
names the cycle that oscillates, which is the one after those completed. -/
theorem histories_in_step (text : String) (fixedLimit : Option Nat)
    (operations : List Operation) :
    let session := (load text fixedLimit).1.performAll operations
    (∀ monitor ∈ session.monitors.entries, monitor.point ∈ session.network.outputs ∧
      Recorded session.cyclesCompleted monitor.history) ∧
    (∀ cycles,
      ((session.run cycles).2 = .ok () ↔ (session.run cycles).1.cyclesCompleted = cycles) ∧
      ∀ fault, (session.run cycles).2 = .error fault →
        fault = .oscillating ((session.run cycles).1.cyclesCompleted + 1)
            session.simulator.sweepLimit ∧
          (session.run cycles).1.cyclesCompleted < cycles) ∧
    (∀ cycles,
      ((session.continueRun cycles).2 = .ok () ↔ session.cyclesCompleted ≠ 0 ∧
        (session.continueRun cycles).1.cyclesCompleted = session.cyclesCompleted + cycles) ∧
      ∀ fault, (session.continueRun cycles).2 = .error fault →
        (fault = .nothingToContinue ∧ session.cyclesCompleted = 0 ∧
          session.continueRun cycles = (session, .error fault)) ∨
        (fault = .oscillating ((session.continueRun cycles).1.cyclesCompleted + 1)
            session.simulator.sweepLimit ∧
          (session.continueRun cycles).1.cyclesCompleted < session.cyclesCompleted + cycles)) := by
  intro session
  have hstep : session.InStep := preserved_inStep.performAll operations (inStep_load text fixedLimit)
  have hsound := hstep.sound
  refine ⟨fun monitor hmonitor =>
    ⟨hsound.watched monitor hmonitor, hstep.recorded monitor hmonitor⟩,
    fun cycles => ?_, fun cycles => ?_⟩
  · -- a run is a restart and the cycles behind it, counted from zero
    have hrestart := preserved_sound.restart session hsound
    have hcold : session.restart.cyclesCompleted + cycles = cycles := Nat.zero_add cycles
    have hok := execute_eq_ok_iff hrestart cycles
    rw [hcold] at hok
    refine ⟨hok, fun fault hfault => ?_⟩
    have herror := execute_eq_error hrestart hfault
    rw [hcold, sweepLimit_restart] at herror
    exact herror
  · -- to continue is refused before the first completed cycle, and is a run of cycles afterwards
    by_cases hcold : session.cyclesCompleted = 0
    · rw [continueRun_unstarted hcold]
      refine ⟨by simp [hcold], fun fault hfault => ?_⟩
      cases hfault
      exact .inl ⟨rfl, hcold, rfl⟩
    · rw [continueRun_started hcold]
      refine ⟨?_, fun fault hfault => .inr (execute_eq_error hsound hfault)⟩
      rw [execute_eq_ok_iff hsound cycles]
      simp [hcold]

/-- A gate that drives itself. It rests while the switch is low and oscillates when it is high. -/
def gatedLoop : String :=
  "define S as SWITCH 0 state; define G as NAND 2 inputs; " ++
    "connect S to G.I1; connect G to G.I2; monitor G; END"

/-- A monitor that comes late, and a run that the switch stops. -/
def lateMonitor : List Operation :=
  [.run 2, .addMonitor "S", .continueRun 1, .setSwitch "S" .high, .continueRun 2]

/-- A monitor that comes two cycles late has two blanks, and the run that the switch stops in its
fourth cycle leaves three. A new run stops in its first. -/
theorem histories_in_step_gatedLoop :
    let session := (load gatedLoop none).1.performAll lateMonitor
    session.cyclesCompleted = 3 ∧
    ⟨⟨⟨27⟩, .main⟩, #[.blank, .blank, .low]⟩ ∈ session.monitors.entries ∧
      Recorded 3 #[.blank, .blank, .low] ∧
    (session.run 1).2 = .error (.oscillating 1 3) ∧ (session.run 1).1.cyclesCompleted < 1 ∧
    (session.continueRun 1).2 = .error (.oscillating 4 3) ∧
      (session.continueRun 1).1.cyclesCompleted < 4 := by
  -- one evaluation for all facts
  have hfacts : ((load gatedLoop none).1.performAll lateMonitor).cyclesCompleted = 3 ∧
      ⟨⟨⟨27⟩, .main⟩, #[.blank, .blank, .low]⟩
        ∈ ((load gatedLoop none).1.performAll lateMonitor).monitors.entries ∧
      (((load gatedLoop none).1.performAll lateMonitor).run 1).2 = .error (.oscillating 1 3) ∧
      (((load gatedLoop none).1.performAll lateMonitor).continueRun 1).2
        = .error (.oscillating 4 3) := by
    decide +kernel
  obtain ⟨hcount, hmonitor, hrun, hcontinue⟩ := hfacts
  obtain ⟨hhistories, hruns, hcontinued⟩ := histories_in_step gatedLoop none lateMonitor
  have hrecorded := (hhistories _ hmonitor).2
  have hcompleted := ((hruns 1).2 _ hrun).2
  rcases (hcontinued 1).2 _ hcontinue with ⟨hnothing, -, -⟩ | ⟨-, hcompleted'⟩
  · cases hnothing
  · rw [hcount] at hrecorded hcompleted'
    exact ⟨hcount, hmonitor, hrecorded, hrun, hcompleted, hcontinue, hcompleted'⟩

/-- Continuing for no cycles completes the no cycles asked for, but fails when there have been
none. -/
theorem continueRun_zero_unstarted :
    ¬ (((load "END" none).1.continueRun 0).2 = .ok () ↔
      ((load "END" none).1.continueRun 0).1.cyclesCompleted
        = (load "END" none).1.cyclesCompleted + 0) := by
  have hunstarted : (load "END" none).1.cyclesCompleted = 0 := rfl
  rw [continueRun_unstarted hunstarted]
  simp

end Session

end LogicCircuit
