import LogicCircuit.Proofs.Operations
import Mathlib.Data.List.Forall2

/-!
# Observation — monitors see a run and do not touch it

A session runs its simulator and lets its monitors record what they see. Monitors come and go between
runs, runs start afresh or are cut short, and the simulator knows nothing of it. This module takes the
two apart:

* **`Session.attempts`** — the cycles of a run, up to the first that fails. Those that are completed are
  its frames.
* **`Session.Alike`** — sessions that differ in their monitors alone. An operation does the same to both,
  and one on monitors does not show (`Alike.perform`, `alike_perform`).
* **`Session.Films`** — the alignment of the histories. The frames of a session are the networks right
  after the cycles it has completed since the last cold start, and each history holds, frame by frame, a
  blank or the level of that frame, however late its monitor came.
* **`monitors_only_observe`** — both together, for any two sequences of operations that agree but for the
  monitors.
-/

namespace LogicCircuit

namespace Session

variable {session other : Session} {cycles : Nat}

/-! ## The cycles of a run -/

/-- The cycles that a run tries, each with the simulator it leaves and its result. After one that fails
no other is tried. -/
def attempts (session : Session) : Nat → List (Simulator × Except Fault Unit)
  | 0 => []
  | cycles + 1 =>
    match session.cycle with
    | (after, .ok ()) => (after.simulator, .ok ()) :: after.attempts cycles
    | (after, .error fault) => [(after.simulator, .error fault)]

/-- The networks right after the cycles that a run completes. -/
def frames (session : Session) (cycles : Nat) : List Network :=
  (session.attempts cycles).filterMap fun (simulator, result) =>
    match result with
    | .ok () => some simulator.network
    | .error _ => none

/-- A cycle that is completed is the first of the attempts, and the others come behind it. -/
theorem attempts_of_cycle_ok (h : session.cycle.2 = .ok ()) : session.attempts (cycles + 1)
    = (session.cycle.1.simulator, .ok ()) :: session.cycle.1.attempts cycles := by
  rw [attempts]
  rcases hcycle : session.cycle with ⟨after, result⟩
  rw [hcycle] at h
  cases h
  rfl

/-- One that fails is the last. -/
theorem attempts_of_cycle_error {fault : Fault} (h : session.cycle.2 = .error fault) :
    session.attempts (cycles + 1) = [(session.cycle.1.simulator, .error fault)] := by
  rw [attempts]
  rcases hcycle : session.cycle with ⟨after, result⟩
  rw [hcycle] at h
  cases h
  rfl

/-- The frames are those of the completed ones. -/
theorem frames_of_cycle_ok (h : session.cycle.2 = .ok ()) :
    session.frames (cycles + 1) = session.cycle.1.network :: session.cycle.1.frames cycles := by
  rw [frames, attempts_of_cycle_ok h, List.filterMap_cons, frames]
  rfl

theorem frames_of_cycle_error {fault : Fault} (h : session.cycle.2 = .error fault) :
    session.frames (cycles + 1) = [] := by
  rw [frames, attempts_of_cycle_error h]
  rfl

/-! ## Operations that simulate -/

/-- Whether an operation concerns the simulator. The others concern the monitors. -/
def Operation.simulates : Operation → Bool
  | .run _ | .continueRun _ | .setSwitch _ _ => true
  | .addMonitor _ | .removeMonitor _ => false

/-- The simulators that an operation takes the session through, one for each cold start, each cycle and
each setting of a switch. -/
def visited (session : Session) : Operation → List Simulator
  | .run cycles => session.restart.simulator :: (session.restart.attempts cycles).map Prod.fst
  | .continueRun cycles =>
    if session.cyclesCompleted = 0 then [] else (session.attempts cycles).map Prod.fst
  | operation => [(session.perform operation).1.simulator]

/-- What operations on the simulator answer and take it through, those on monitors left out. -/
def transcript (session : Session) : List Operation → List (Except Fault Unit × List Simulator)
  | [] => []
  | operation :: others =>
    let later := (session.perform operation).1.transcript others
    if operation.simulates then ((session.perform operation).2, session.visited operation) :: later
    else later

/-- The networks right after the cycles completed since the last cold start, once an operation has
been performed, if there have been `frames` before it. -/
def film (session : Session) (frames : List Network) : Operation → List Network
  | .run cycles => session.restart.frames cycles
  | .continueRun cycles =>
    if session.cyclesCompleted = 0 then frames else frames ++ session.frames cycles
  | .setSwitch _ _ | .addMonitor _ | .removeMonitor _ => frames

/-- The frames after several operations. -/
def filmAll (session : Session) (frames : List Network) : List Operation → List Network
  | [] => frames
  | operation :: others => (session.perform operation).1.filmAll (session.film frames operation) others

/-! ## Sessions that differ in their monitors -/

/-- Two sessions with the same table and the same simulator. -/
structure Alike (session other : Session) : Prop where
  names : other.names = session.names
  simulator : other.simulator = session.simulator

/-- An operation on monitors leaves all else as it is. -/
theorem alike_perform {operation : Operation} (h : operation.simulates = false) :
    Alike session (session.perform operation).1 := by
  cases operation with
  | addMonitor signal =>
    -- a signal that is refused changes nothing
    rw [perform]
    cases hadd : session.addMonitor signal with
    | error fault => exact ⟨rfl, rfl⟩
    | ok after =>
      obtain ⟨point, monitors, -, rfl⟩ := addMonitor_eq_ok hadd
      exact ⟨rfl, rfl⟩
  | removeMonitor signal =>
    rw [perform]
    cases hremove : session.removeMonitor signal with
    | error fault => exact ⟨rfl, rfl⟩
    | ok after =>
      obtain ⟨point, rfl⟩ := removeMonitor_eq_ok hremove
      exact ⟨rfl, rfl⟩
  | run cycles => cases h
  | continueRun cycles => cases h
  | setSwitch name level => cases h

namespace Alike

theorem symm (h : session.Alike other) : other.Alike session :=
  ⟨h.names.symm, h.simulator.symm⟩

theorem trans {third : Session} (h : session.Alike other) (h' : other.Alike third) :
    session.Alike third :=
  ⟨h'.names.trans h.names, h'.simulator.trans h.simulator⟩

/-- One cycle does the same to both, as the monitors only look on. -/
theorem cycle (h : session.Alike other) :
    session.cycle.1.Alike other.cycle.1 ∧ other.cycle.2 = session.cycle.2 := by
  rw [Session.cycle, Session.cycle, h.simulator]
  rcases session.simulator.step with ⟨next, fault | ⟨⟩⟩
  · exact ⟨⟨h.names, rfl⟩, rfl⟩
  · exact ⟨⟨h.names, rfl⟩, rfl⟩

/-- Runs try the same cycles. -/
theorem execute (h : session.Alike other) (cycles : Nat) :
    (session.execute cycles).1.Alike (other.execute cycles).1 ∧
      (other.execute cycles).2 = (session.execute cycles).2 ∧
      other.attempts cycles = session.attempts cycles := by
  induction cycles generalizing session other with
  | zero => exact ⟨h, rfl, rfl⟩
  | succ cycles ih =>
    obtain ⟨halike, hresult⟩ := h.cycle
    -- both go on or both stop, since the result of the cycle is the same
    rcases session.cycle_result with ⟨hok, -⟩ | ⟨herror, -⟩
    · obtain ⟨hlast, hend, hattempts⟩ := ih halike
      have hok' := hresult.trans hok
      rw [execute_of_cycle_ok hok, execute_of_cycle_ok hok', attempts_of_cycle_ok hok,
        attempts_of_cycle_ok hok', halike.simulator, hattempts]
      exact ⟨hlast, hend, rfl⟩
    · have herror' := hresult.trans herror
      rw [execute_of_cycle_error herror, execute_of_cycle_error herror',
        attempts_of_cycle_error herror, attempts_of_cycle_error herror', halike.simulator]
      exact ⟨halike, hresult, rfl⟩

theorem restart (h : session.Alike other) : session.restart.Alike other.restart :=
  ⟨h.names, congrArg Simulator.coldStart h.simulator⟩

theorem cyclesCompleted (h : session.Alike other) :
    other.cyclesCompleted = session.cyclesCompleted :=
  congrArg Simulator.cycle h.simulator

/-- Setting a switch reads nothing of the monitors. -/
theorem setSwitch (h : session.Alike other) (name : String) (level : Level) :
    other.setSwitch name level
      = (session.setSwitch name level).map fun after => { after with monitors := other.monitors } := by
  obtain ⟨names, simulator, monitors⟩ := session
  obtain ⟨names', simulator', monitors'⟩ := other
  obtain ⟨rfl, rfl⟩ := h
  simp only [Session.setSwitch, network]
  split
  · rfl
  · split <;> rfl

/-- **One operation on the simulator** does the same to both: it answers the same, takes them through
the same simulators, and leaves them alike. -/
theorem perform (h : session.Alike other) {operation : Operation}
    (hsimulates : operation.simulates = true) :
    (session.perform operation).1.Alike (other.perform operation).1 ∧
      (other.perform operation).2 = (session.perform operation).2 ∧
      other.visited operation = session.visited operation := by
  cases operation with
  | run cycles =>
    obtain ⟨halike, hresult, hattempts⟩ := h.restart.execute cycles
    exact ⟨halike, hresult, by rw [visited, visited, h.restart.simulator, hattempts]⟩
  | continueRun cycles =>
    obtain ⟨halike, hresult, hattempts⟩ := h.execute cycles
    have hvisited : other.visited (.continueRun cycles) = session.visited (.continueRun cycles) := by
      rw [visited, visited, h.cyclesCompleted, hattempts]
    -- both sessions have cycles behind them or neither has
    simp only [Session.perform, continueRun, h.cyclesCompleted]
    split
    · exact ⟨h, rfl, hvisited⟩
    · exact ⟨halike, hresult, hvisited⟩
  | setSwitch name level =>
    simp only [Session.perform, visited, h.setSwitch name level]
    cases session.setSwitch name level with
    | error fault => exact ⟨h, rfl, by rw [accept, Except.map, accept, h.simulator]⟩
    | ok after => exact ⟨⟨rfl, rfl⟩, rfl, rfl⟩
  | addMonitor signal => cases hsimulates
  | removeMonitor signal => cases hsimulates

/-- The frames that are kept are the same ones. -/
theorem film (h : session.Alike other) (frames : List Network) (operation : Operation) :
    other.film frames operation = session.film frames operation := by
  cases operation with
  | run cycles =>
    obtain ⟨-, -, hattempts⟩ := h.restart.execute cycles
    rw [Session.film, Session.film, Session.frames, Session.frames, hattempts]
  | continueRun cycles =>
    obtain ⟨-, -, hattempts⟩ := h.execute cycles
    rw [Session.film, Session.film, Session.frames, Session.frames, hattempts, h.cyclesCompleted]
  | _ => rfl

/-- **Several operations.** Those on monitors can be left out. -/
theorem performAll (h : session.Alike other) (frames : List Network) (operations : List Operation) :
    (session.performAll operations).Alike (other.performAll (operations.filter Operation.simulates)) ∧
      other.transcript (operations.filter Operation.simulates) = session.transcript operations ∧
      other.filmAll frames (operations.filter Operation.simulates)
        = session.filmAll frames operations := by
  -- by induction on the operations; where one is left out, only the first session moves
  induction operations generalizing session other frames with
  | nil => exact ⟨h, rfl, rfl⟩
  | cons operation others ih =>
    cases hsimulates : operation.simulates with
    | true =>
      obtain ⟨halike, hresult, hvisited⟩ := h.perform hsimulates
      obtain ⟨hlast, htranscript, hfilm⟩ := ih halike (session.film frames operation)
      rw [List.filter_cons_of_pos hsimulates]
      refine ⟨hlast, ?_, ?_⟩
      · simp only [transcript, hsimulates, if_true, hresult, hvisited, htranscript]
      · rw [filmAll, filmAll, h.film, hfilm]
    | false =>
      -- here the one session goes on alone, and they stay alike
      have hunseen : (session.perform operation).1.Alike other :=
        (alike_perform hsimulates).symm.trans h
      have hframes : session.film frames operation = frames := by
        cases operation with
        | addMonitor signal => rfl
        | removeMonitor signal => rfl
        | _ => cases hsimulates
      obtain ⟨hlast, htranscript, hfilm⟩ := ih hunseen frames
      rw [List.filter_cons_of_neg (by simp [hsimulates])]
      refine ⟨hlast, ?_, ?_⟩
      · rw [htranscript, transcript, hsimulates]
        rfl
      · rw [hfilm, filmAll, hframes]

end Alike

end Session

/-! ## Histories and frames -/

/-- What a history may hold of a cycle: a blank, or the level of its output right after the cycle. -/
def Signal.Shows (signal : Signal) (point : OutputRef) (frame : Network) : Prop :=
  signal = .blank ∨ ∃ level, frame.level? point = some level ∧ signal = .ofLevel level

/-- A history of an output over some frames, one signal for each of them. -/
def HistoryOf (point : OutputRef) (frames : List Network) (history : Array Signal) : Prop :=
  List.Forall₂ (fun frame signal => signal.Shows point frame) frames history.toList

/-- Two histories of an output are of the same cycles: they are equally long, and where neither has a
blank both have the level that the output had right after the cycle. -/
structure HistoriesAgree (point : OutputRef) (frames : List Network) (history history' : Array Signal) :
    Prop where
  size : history.size = frames.length
  size' : history'.size = frames.length
  levels : ∀ (i : Nat) (frame : Network) (signal signal' : Signal), frames[i]? = some frame →
    history[i]? = some signal → history'[i]? = some signal' → signal ≠ .blank → signal' ≠ .blank →
      ∃ level, frame.level? point = some level ∧ signal = .ofLevel level ∧ signal' = .ofLevel level

namespace HistoryOf

variable {point : OutputRef} {frames : List Network} {history : Array Signal}

/-- A monitor that has just been added has seen none of the frames. -/
theorem blank (point : OutputRef) (frames : List Network) :
    HistoryOf point frames (Array.replicate frames.length .blank) := by
  rw [HistoryOf, Array.toList_replicate]
  induction frames with
  | nil => exact .nil
  | cons frame frames ih => exact .cons (.inl rfl) ih

/-- One more frame, and one more signal that goes with it. -/
theorem push (h : HistoryOf point frames history) {frame : Network} {signal : Signal}
    (hsignal : signal.Shows point frame) :
    HistoryOf point (frames ++ [frame]) (history.push signal) := by
  rw [HistoryOf, Array.toList_push]
  exact List.rel_append h (.cons hsignal .nil)

/-- A history holds of each frame something that the frame shows. -/
theorem shows (h : HistoryOf point frames history) {i : Nat} {frame : Network} {signal : Signal}
    (hframe : frames[i]? = some frame) (hsignal : history[i]? = some signal) :
    signal.Shows point frame := by
  obtain ⟨hi, rfl⟩ := List.getElem?_eq_some_iff.1 hframe
  obtain ⟨hj, rfl⟩ := Array.getElem?_eq_some_iff.1 hsignal
  exact h.get hi (by simpa using hj)

theorem agree {history' : Array Signal} (h : HistoryOf point frames history)
    (h' : HistoryOf point frames history') : HistoriesAgree point frames history history' where
  size := h.length_eq.symm
  size' := h'.length_eq.symm
  levels := by
    -- each of the two holds a blank or what the frame shows
    intro i frame signal signal' hframe hsignal hsignal' hlevel hlevel'
    obtain ⟨level, hshown, heq⟩ := (h.shows hframe hsignal).resolve_left hlevel
    obtain ⟨level', hshown', heq'⟩ := (h'.shows hframe hsignal').resolve_left hlevel'
    -- both have it from the one frame
    rw [hshown] at hshown'
    cases hshown'
    exact ⟨level, hshown, heq, heq'⟩

end HistoryOf

namespace Monitors

variable {monitors : Monitors} {frames : List Network}

/-- All histories are over the same frames. -/
def Films (monitors : Monitors) (frames : List Network) : Prop :=
  ∀ monitor ∈ monitors.entries, HistoryOf monitor.point frames monitor.history

/-- A completed cycle is one more frame. -/
theorem Films.record (h : monitors.Films frames) (frame : Network) :
    (monitors.record frame).Films (frames ++ [frame]) := by
  intro monitor hmonitor
  obtain ⟨earlier, hearlier, rfl⟩ := List.mem_map.1 hmonitor
  refine (h earlier hearlier).push ?_
  -- an output that is no longer there leaves a blank
  cases hlevel : frame.level? earlier.point with
  | none => exact .inl rfl
  | some level => exact .inr ⟨level, hlevel, rfl⟩

theorem films_clear (monitors : Monitors) : monitors.clear.Films [] := by
  intro monitor hmonitor
  obtain ⟨earlier, -, rfl⟩ := List.mem_map.1 hmonitor
  exact .nil

theorem Films.history? (h : monitors.Films frames) {point : OutputRef} {history : Array Signal}
    (hhistory : monitors.history? point = some history) : HistoryOf point frames history := by
  obtain ⟨monitor, hfound, rfl⟩ := Option.map_eq_some_iff.1 hhistory
  have hpoint : monitor.point = point := by simpa using List.find?_some hfound
  rw [← hpoint]
  exact h monitor (List.mem_of_find?_eq_some hfound)

end Monitors

namespace Session

variable {session : Session} {frames : List Network}

/-- The frames of a session: as many as it has completed cycles, and what its histories hold. -/
structure Films (session : Session) (frames : List Network) : Prop where
  count : session.cyclesCompleted = frames.length
  histories : session.monitors.Films frames

namespace Films

theorem load (text : String) (fixedLimit : Option Nat) : (load text fixedLimit).1.Films [] where
  count := rfl
  histories := by
    intro monitor hmonitor
    rw [(Definition.sound_read text).unrecorded monitor hmonitor]
    exact .nil

theorem restart (session : Session) : session.restart.Films [] :=
  ⟨rfl, session.monitors.films_clear⟩

/-- A completed cycle is one more frame; one that fails is none. -/
theorem cycle (h : session.Films frames) :
    (session.cycle.2 = .ok () ∧ session.cycle.1.Films (frames ++ [session.cycle.1.network])) ∨
    (∃ fault, session.cycle.2 = .error fault ∧ session.cycle.1.Films frames) := by
  have hcount := h.count
  rcases session.cycle_cases with
    ⟨simulator, -, hnext, hcycle⟩ | ⟨simulator, fault, -, -, hnext, hcycle⟩
  · -- the network of a completed cycle is what the monitors record
    rw [hcycle]
    refine .inl ⟨rfl, ?_, h.histories.record simulator.network⟩
    rw [List.length_append, ← hcount]
    exact hnext
  · rw [hcycle]
    exact .inr ⟨fault, rfl, hnext.trans hcount, h.histories⟩

/-- Frames are added behind those from before, as cycles are completed. -/
theorem execute (h : session.Films frames) (cycles : Nat) :
    (session.execute cycles).1.Films (frames ++ session.frames cycles) := by
  induction cycles generalizing session frames with
  | zero =>
    show session.Films (frames ++ [])
    rw [List.append_nil]
    exact h
  | succ cycles ih =>
    rcases h.cycle with ⟨hok, hfilms⟩ | ⟨fault, herror, hfilms⟩
    · rw [execute_of_cycle_ok hok, frames_of_cycle_ok hok, List.append_cons]
      exact ih hfilms
    · rw [execute_of_cycle_error herror, frames_of_cycle_error herror, List.append_nil]
      exact hfilms

/-- **One operation.** A monitor that comes has a blank for every frame so far. -/
theorem perform (h : session.Films frames) (operation : Operation) :
    (session.perform operation).1.Films (session.film frames operation) := by
  cases operation with
  | run cycles => exact (Films.restart session).execute cycles
  | continueRun cycles =>
    by_cases hcold : session.cyclesCompleted = 0
    · simp only [Session.perform, continueRun, film, hcold, if_true]
      exact h
    · simp only [Session.perform, continueRun, film, hcold, if_false]
      exact h.execute cycles
  | setSwitch name level =>
    rw [Session.perform, film]
    cases hset : session.setSwitch name level with
    | error fault => exact h
    | ok after =>
      obtain ⟨id, simulator, -, hsimulator, rfl⟩ := setSwitch_eq_ok hset
      simp only [Simulator.setSwitch?, Option.map_eq_some_iff] at hsimulator
      obtain ⟨network, -, rfl⟩ := hsimulator
      exact ⟨h.count, h.histories⟩
  | addMonitor signal =>
    rw [Session.perform, film]
    cases hadd : session.addMonitor signal with
    | error fault => exact h
    | ok after =>
      obtain ⟨point, monitors, hmonitors, rfl⟩ := addMonitor_eq_ok hadd
      obtain ⟨-, -, rfl⟩ := Monitors.add_eq_ok hmonitors
      refine ⟨h.count, fun monitor hmonitor => ?_⟩
      rcases List.mem_append.1 hmonitor with hold | hnew
      · exact h.histories monitor hold
      · rw [List.mem_singleton.1 hnew, h.count]
        exact .blank point frames
  | removeMonitor signal =>
    rw [Session.perform, film]
    cases hremove : session.removeMonitor signal with
    | error fault => exact h
    | ok after =>
      obtain ⟨point, rfl⟩ := removeMonitor_eq_ok hremove
      exact ⟨h.count, fun monitor hmonitor => h.histories monitor (List.mem_of_mem_filter hmonitor)⟩

/-- **Several operations.** -/
theorem performAll (h : session.Films frames) (operations : List Operation) :
    (session.performAll operations).Films (session.filmAll frames operations) := by
  induction operations generalizing session frames with
  | nil => exact h
  | cons operation others ih => exact ih (h.perform operation)

end Films

/-- **Monitors only observe.** Take two sequences of operations that are the same apart from monitors
being added and removed. They answer the same, take the session through the same simulators to the same
one, and through the same completed cycles; and what both of them monitor in the end has histories that
agree. -/
theorem monitors_only_observe (text : String) (fixedLimit : Option Nat) {first second : List Operation}
    (h : second.filter Operation.simulates = first.filter Operation.simulates) :
    let start := (Session.load text fixedLimit).1
    start.transcript second = start.transcript first ∧
    (start.performAll second).simulator = (start.performAll first).simulator ∧
    start.filmAll [] second = start.filmAll [] first ∧
    ∀ point history history', (start.performAll first).monitors.history? point = some history →
      (start.performAll second).monitors.history? point = some history' →
      HistoriesAgree point (start.filmAll [] first) history history' := by
  intro start
  -- both are alike what is left without the operations on monitors
  have halike : start.Alike start := ⟨rfl, rfl⟩
  obtain ⟨hfirst, htranscript, hfilm⟩ := halike.performAll [] first
  obtain ⟨hsecond, htranscript', hfilm'⟩ := halike.performAll [] second
  rw [h] at hsecond htranscript' hfilm'
  have hsame : start.filmAll [] second = start.filmAll [] first := hfilm'.symm.trans hfilm
  refine ⟨htranscript'.symm.trans htranscript, (hfirst.trans hsecond.symm).simulator, hsame,
    fun point history history' hhistory hhistory' => ?_⟩
  have hfilms := (Films.load text fixedLimit).performAll first
  have hfilms' := (Films.load text fixedLimit).performAll second
  rw [hsame] at hfilms'
  exact (hfilms.histories.history? hhistory).agree (hfilms'.histories.history? hhistory')

/-- A clock and an inverter behind it, which is monitored. -/
def inverted : String :=
  "define C as CLOCK period 2; define G as NAND 1 inputs; connect C to G.I1; monitor G; END"

/-- The clock is monitored from the start. -/
def monitoredEarly : List Operation :=
  [.addMonitor "C", .run 2, .continueRun 2]

/-- The clock is monitored after two cycles, and again after its monitor has been removed. What is not
there cannot be monitored. -/
def monitoredLate : List Operation :=
  [.run 2, .addMonitor "C", .removeMonitor "C", .addMonitor "X", .addMonitor "C", .continueRun 2]

/-- The histories of the clock agree, one of them with two blanks. -/
theorem monitors_only_observe_inverted :
    let start := (Session.load inverted none).1
    start.transcript monitoredLate = start.transcript monitoredEarly ∧
    (start.performAll monitoredLate).simulator = (start.performAll monitoredEarly).simulator ∧
    (start.performAll monitoredEarly).cyclesCompleted = 4 ∧
    HistoriesAgree ⟨⟨27⟩, .main⟩ (start.filmAll [] monitoredEarly) #[.high, .low, .high, .low]
      #[.blank, .blank, .high, .low] := by
  intro start
  -- one evaluation for all facts
  have hfacts : (start.performAll monitoredEarly).cyclesCompleted = 4 ∧
      (start.performAll monitoredEarly).monitors.history? ⟨⟨27⟩, .main⟩
        = some #[.high, .low, .high, .low] ∧
      (start.performAll monitoredLate).monitors.history? ⟨⟨27⟩, .main⟩
        = some #[.blank, .blank, .high, .low] := by
    decide +kernel
  obtain ⟨hcount, hearly, hlate⟩ := hfacts
  have hsame : monitoredLate.filter Operation.simulates
      = monitoredEarly.filter Operation.simulates := by
    decide
  obtain ⟨htranscript, hsimulator, -, hagree⟩ := monitors_only_observe inverted none hsame
  exact ⟨htranscript, hsimulator, hcount, hagree _ _ _ hearly hlate⟩

end Session

end LogicCircuit
