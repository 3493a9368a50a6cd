import LogicCircuit.Proofs.Recording

/-!
# Sweep limits — a higher limit only turns failures into successes

The limit decides when settling gives up, and nothing else: the sweeps are made one after the other in
the same order, and settling stops at the first that changes nothing. A higher limit therefore only adds
sweeps where the lower one gave up.

* **`Simulator.step_withLimit`** — one cycle. What completes it under a limit completes it under every
  higher limit, in the same state.
* **`Session.performAll_withLimit`** — any operations. As long as no run oscillates, a session under a
  higher limit goes through the same states: `Session.withLimit` commutes with every operation.
* **`Session.higher_limit_agrees`** — both for every definition, with what a user sees of it.
-/

namespace LogicCircuit

/-! ## One cycle -/

namespace Network

variable {net after : Network}

/-- What settles within a limit settles within a higher one, after the same sweeps. -/
theorem settleFrom_of_le {made passes limit higher : Nat} (hle : limit ≤ higher)
    (h : net.settleFrom made limit = (after, some passes)) :
    net.settleFrom made higher = (after, some passes) := by
  -- on the lower limit: it takes as many sweeps as the higher one does, as long as they change something
  induction limit generalizing net made higher with
  | zero => cases h
  | succ limit ih =>
    cases higher with
    | zero => omega
    | succ higher =>
      by_cases hsweep : net.sweep = net
      · simp only [settleFrom, if_pos hsweep] at h ⊢
        exact h
      · simp only [settleFrom, if_neg hsweep] at h ⊢
        exact ih (by omega) h

end Network

namespace Simulator

variable {sim after : Simulator} {lower higher : Option Nat}

/-- The same simulator with another choice of limit. -/
def withLimit (sim : Simulator) (fixedLimit : Option Nat) : Simulator :=
  { sim with fixedLimit }

/-- A cycle that is completed under one limit is completed under a higher one. -/
theorem step_withLimit_eq_ok
    (hle : (sim.withLimit lower).sweepLimit ≤ (sim.withLimit higher).sweepLimit)
    (h : (sim.withLimit lower).step = (after, .ok ())) :
    (sim.withLimit higher).step = (after.withLimit higher, .ok ()) := by
  rcases step_cases (sim.withLimit lower) with
    -- the sweeps that settled the gates are made under the higher limit as well
    ⟨settled, passes, hsettle, hok⟩ | ⟨unsettled, -, herror⟩
  · rw [hok] at h
    cases h
    have hhigher : (sim.withLimit higher).network.advanceSources.settle
        (sim.withLimit higher).sweepLimit = (settled, some passes) :=
      Network.settleFrom_of_le hle hsettle
    rw [step, hhigher]
    rfl
  · rw [herror] at h
    cases h

/-- **Raising the limit of a cycle.** A cycle that is completed under one limit is completed under a
higher one, with the same network and the same count; one that fails under the higher limit fails under
the lower one, and then says how many sweeps that one allows. -/
theorem step_withLimit (sim : Simulator)
    (hle : (sim.withLimit lower).sweepLimit ≤ (sim.withLimit higher).sweepLimit) :
    (∀ after, (sim.withLimit lower).step = (after, .ok ()) →
      (sim.withLimit higher).step = (after.withLimit higher, .ok ())) ∧
    ∀ fault, (sim.withLimit higher).step.2 = .error fault → (sim.withLimit lower).step.2
      = .error (.oscillating (sim.cycle + 1) (sim.withLimit lower).sweepLimit) := by
  refine ⟨fun after => step_withLimit_eq_ok hle, fun fault hfault => ?_⟩
  rcases step_cases (sim.withLimit lower) with ⟨settled, passes, -, hok⟩ | ⟨unsettled, -, herror⟩
  · -- then the higher limit would have been enough as well
    rw [step_withLimit_eq_ok hle hok] at hfault
    cases hfault
  · rw [herror]
    rfl

end Simulator

/-! ## Operations -/

namespace Session

variable {session : Session} {higher : Option Nat}

/-- The same session with another choice of limit. -/
def withLimit (session : Session) (fixedLimit : Option Nat) : Session :=
  { session with simulator := session.simulator.withLimit fixedLimit }

/-- A sound session whose cycles may take as many sweeps under the other choice of limit. -/
structure Allows (higher : Option Nat) (session : Session) : Prop where
  sound : session.Sound
  le : session.simulator.sweepLimit ≤ (session.simulator.withLimit higher).sweepLimit

/-- The limits depend on the choices and on the size of the network. -/
theorem Allows.of_size_eq (h : session.Allows higher) {after : Session} (hsound : after.Sound)
    (hfixed : after.simulator.fixedLimit = session.simulator.fixedLimit)
    (hsize : after.network.size = session.network.size) : after.Allows higher := by
  refine ⟨hsound, ?_⟩
  have hle := h.le
  unfold Simulator.sweepLimit Simulator.withLimit at hle ⊢
  rw [hfixed]
  show _ ≤ higher.getD (after.network.size + 1)
  show session.simulator.fixedLimit.getD (after.network.size + 1) ≤ _
  rw [hsize]
  exact hle

/-- A cycle builds nothing, so the choices and the size stay. -/
theorem Allows.cycle (h : session.Allows higher) : session.cycle.1.Allows higher := by
  apply h.of_size_eq (preserved_sound.cycle session h.sound)
  · rw [cycle_simulator, Simulator.fixedLimit_step]
  · show session.cycle.1.simulator.network.size = _
    rw [cycle_simulator]
    exact Network.size_of_roster_eq (roster_step h.sound.reachable)

/-- A cold start keeps the wiring, and with it the size. -/
theorem Allows.restart (h : session.Allows higher) : session.restart.Allows higher := by
  apply h.of_size_eq (preserved_sound.restart session h.sound)
  · rfl
  · exact Network.size_of_roster_eq (Network.roster_of_drawing_eq Network.drawing_coldStart)

/-- No operation changes what the limits depend on. -/
theorem preserved_allows (higher : Option Nat) : Preserved (Allows higher) where
  cycle := fun _ h => h.cycle
  restart := fun _ h => h.restart
  setSwitch := by
    intro session after name level h hafter
    have hsound := preserved_sound.setSwitch session after name level h.sound hafter
    obtain ⟨id, simulator, -, hset, rfl⟩ := setSwitch_eq_ok hafter
    apply h.of_size_eq hsound
    · obtain ⟨network, -, rfl⟩ := Option.map_eq_some_iff.1 hset
      rfl
    · exact Network.size_of_roster_eq (roster_setSwitch? h.sound.reachable hset)
  addMonitor := by
    intro session after signal h hafter
    have hsound := preserved_sound.addMonitor session after signal h.sound hafter
    obtain ⟨point, monitors, -, rfl⟩ := addMonitor_eq_ok hafter
    exact h.of_size_eq hsound rfl rfl
  removeMonitor := by
    intro session after signal h hafter
    have hsound := preserved_sound.removeMonitor session after signal h.sound hafter
    obtain ⟨point, rfl⟩ := removeMonitor_eq_ok hafter
    exact h.of_size_eq hsound rfl rfl

/-- A cycle that does not oscillate. -/
theorem cycle_withLimit (h : session.Allows higher) (hok : session.cycle.2 = .ok ()) :
    (session.withLimit higher).cycle = (session.cycle.1.withLimit higher, .ok ()) := by
  rcases session.cycle_cases with
    ⟨simulator, hstep, -, hcycle⟩ | ⟨simulator, fault, -, -, -, hcycle⟩
  · have hhigher : (session.withLimit higher).simulator.step
        = (simulator.withLimit higher, .ok ()) :=
      (session.simulator.step_withLimit h.le).1 simulator hstep
    rw [cycle, hhigher, hcycle]
    rfl
  · rw [hcycle] at hok
    cases hok

/-- Cycles of which none oscillates. -/
theorem execute_withLimit (h : session.Allows higher) {cycles : Nat}
    (hok : (session.execute cycles).2 = .ok ()) :
    (session.withLimit higher).execute cycles
      = ((session.execute cycles).1.withLimit higher, .ok ()) := by
  induction cycles generalizing session with
  | zero => rfl
  | succ cycles ih =>
    rcases session.cycle_result with ⟨hcycle, -⟩ | ⟨herror, -⟩
    · -- while no cycle oscillates, both are at the same cycle in the same state
      have hhigher := cycle_withLimit h hcycle
      rw [execute_of_cycle_ok hcycle] at hok ⊢
      rw [execute_of_cycle_ok (by rw [hhigher]), hhigher]
      exact ih h.cycle hok
    · rw [execute_of_cycle_error herror, herror] at hok
      cases hok

/-- The limit plays no part in setting a switch. -/
theorem setSwitch_withLimit (name : String) (level : Level) :
    (session.withLimit higher).setSwitch name level
      = (session.setSwitch name level).map fun after => after.withLimit higher := by
  simp only [setSwitch, withLimit, network, Simulator.setSwitch?, Simulator.withLimit]
  cases (session.names.id? name).filter fun id => (session.simulator.network.device? id).isSome with
  | none => rfl
  | some id =>
    dsimp only
    cases session.simulator.network.setSwitch? id level <;> rfl

/-- The limit plays no part in monitoring a signal. -/
theorem addMonitor_withLimit (signal : String) :
    (session.withLimit higher).addMonitor signal
      = (session.addMonitor signal).map fun after => after.withLimit higher := by
  have hresolve : (session.withLimit higher).resolve signal = session.resolve signal := rfl
  have hadd : ∀ point, (session.withLimit higher).monitors.add (session.withLimit higher).names
      (session.withLimit higher).network point (session.withLimit higher).cyclesCompleted
        = session.monitors.add session.names session.network point session.cyclesCompleted :=
    fun _ => rfl
  rw [addMonitor, addMonitor, hresolve]
  cases session.resolve signal with
  | error fault => rfl
  | ok point =>
    simp only [hadd]
    cases session.monitors.add session.names session.network point session.cyclesCompleted <;> rfl

/-- The limit plays no part in giving a signal up. -/
theorem removeMonitor_withLimit (signal : String) :
    (session.withLimit higher).removeMonitor signal
      = (session.removeMonitor signal).map fun after => after.withLimit higher := by
  have hresolve : (session.withLimit higher).resolve signal = session.resolve signal := rfl
  have hmonitors : (session.withLimit higher).monitors = session.monitors := rfl
  rw [removeMonitor, removeMonitor, hresolve]
  cases session.resolve signal with
  | error fault => rfl
  | ok point =>
    simp only [hmonitors]
    cases session.monitors.remove? point <;> rfl

/-- What is accepted, or refused without effect. -/
theorem accept_withLimit (result : Except Fault Session) :
    (session.withLimit higher).accept (result.map fun after => after.withLimit higher)
      = ((session.accept result).1.withLimit higher, (session.accept result).2) := by
  cases result <;> rfl

/-- The answer of an operation that did not oscillate. -/
def Calm (answer : Except Fault Unit) : Prop :=
  ∀ cycle passes, answer ≠ .error (.oscillating cycle passes)

/-- A run of cycles that does not oscillate completes them. -/
theorem Calm.execute {cycles : Nat} (h : session.Sound) (hcalm : Calm (session.execute cycles).2) :
    (session.execute cycles).2 = .ok () := by
  rcases execute_cases h cycles with ⟨hok, -⟩ | ⟨herror, -⟩
  · exact hok
  · exact absurd herror (hcalm _ _)

/-- **One operation.** Unless it oscillates, it does the same to a session with a higher limit. -/
theorem perform_withLimit (h : session.Allows higher) {operation : Operation}
    (hcalm : Calm (session.perform operation).2) :
    (session.withLimit higher).perform operation
      = ((session.perform operation).1.withLimit higher, (session.perform operation).2) := by
  cases operation with
  | run cycles =>
    have hok := Calm.execute h.restart.sound hcalm
    show (session.restart.withLimit higher).execute cycles = _
    rw [execute_withLimit h.restart hok, ← hok]
    rfl
  | continueRun cycles =>
    by_cases hcold : session.cyclesCompleted = 0
    · have hother : (session.withLimit higher).cyclesCompleted = 0 := hcold
      rw [perform, perform, continueRun_unstarted hcold, continueRun_unstarted hother]
    · have hother : (session.withLimit higher).cyclesCompleted ≠ 0 := hcold
      rw [perform, continueRun_started hcold] at hcalm
      have hok := Calm.execute h.sound hcalm
      rw [perform, perform, continueRun_started hcold, continueRun_started hother,
        execute_withLimit h hok, hok]
  | setSwitch name level =>
    rw [perform, setSwitch_withLimit]
    exact accept_withLimit _
  | addMonitor signal =>
    rw [perform, addMonitor_withLimit]
    exact accept_withLimit _
  | removeMonitor signal =>
    rw [perform, removeMonitor_withLimit]
    exact accept_withLimit _

/-- What the operations answer, one after the other. -/
def answers (session : Session) : List Operation → List (Except Fault Unit)
  | [] => []
  | operation :: others =>
    (session.perform operation).2 :: (session.perform operation).1.answers others

/-- **Any operations** of which none oscillates. -/
theorem performAll_withLimit (h : session.Allows higher) {operations : List Operation}
    (hcalm : ∀ answer ∈ session.answers operations, Calm answer) :
    (session.withLimit higher).performAll operations
        = (session.performAll operations).withLimit higher ∧
      (session.withLimit higher).answers operations = session.answers operations := by
  induction operations generalizing session with
  | nil => exact ⟨rfl, rfl⟩
  | cons operation others ih =>
    have hfirst := perform_withLimit h (hcalm _ List.mem_cons_self)
    have hothers := ih ((preserved_allows higher).perform operation h) fun answer hanswer =>
      hcalm answer (List.mem_cons_of_mem _ hanswer)
    rw [performAll_cons, answers, hfirst]
    exact ⟨hothers.1, congrArg _ hothers.2⟩

/-- **Raising the limit changes nothing but failures.**

* Whatever state a simulator is in, a cycle that is completed under one limit is completed under a
  higher one and leaves the same network; a cycle that fails under the higher limit fails under the
  lower one.
* Whatever the definition and the operations on its session, as long as no run oscillates under one
  limit, they answer the same under a higher one, and count, network, monitors and histories are the
  same. -/
theorem higher_limit_agrees :
    (∀ (sim : Simulator) (lower higher : Option Nat),
      (sim.withLimit lower).sweepLimit ≤ (sim.withLimit higher).sweepLimit →
      (∀ after, (sim.withLimit lower).step = (after, .ok ()) →
        (sim.withLimit higher).step = (after.withLimit higher, .ok ())) ∧
      ∀ fault, (sim.withLimit higher).step.2 = .error fault → (sim.withLimit lower).step.2
        = .error (.oscillating (sim.cycle + 1) (sim.withLimit lower).sweepLimit)) ∧
    ∀ (text : String) (lower higher : Option Nat) (operations : List Operation),
      (load text lower).1.simulator.sweepLimit ≤ (load text higher).1.simulator.sweepLimit →
      (∀ answer ∈ (load text lower).1.answers operations, Calm answer) →
      let session := (load text lower).1.performAll operations
      let other := (load text higher).1.performAll operations
      (load text higher).1.answers operations = (load text lower).1.answers operations ∧
      other.cyclesCompleted = session.cyclesCompleted ∧ other.network = session.network ∧
      other.names = session.names ∧ other.monitors = session.monitors ∧
      (∀ signal, other.trace signal = session.trace signal) ∧ other.render = session.render := by
  refine ⟨fun sim lower higher hle => sim.step_withLimit hle, ?_⟩
  intro text lower higher operations hle hcalm session other
  have hallows : (load text lower).1.Allows higher := ⟨sound_load text lower, hle⟩
  obtain ⟨hsession, hanswers⟩ := performAll_withLimit hallows hcalm
  have hother : other = session.withLimit higher := hsession
  refine ⟨hanswers, ?_⟩
  rw [hother]
  exact ⟨rfl, rfl, rfl, rfl, fun _ => rfl, rfl⟩

/-- Two runs and a monitor that comes late, while the gate rests, and a monitor that is refused. -/
def restingRuns : List Operation :=
  [.run 2, .addMonitor "S", .continueRun 1, .addMonitor "X"]

/-- While the switch is low, the gate that drives itself settles in the second sweep. One sweep is not
enough; with two allowed, and with the three of the default, the runs go the same way. -/
theorem higher_limit_agrees_gatedLoop :
    let session := (load gatedLoop (some 2)).1.performAll restingRuns
    let other := (load gatedLoop none).1.performAll restingRuns
    (load gatedLoop none).1.simulator.sweepLimit = 3 ∧
    ((load gatedLoop (some 2)).1.simulator.withLimit (some 1)).step.2
      = .error (.oscillating 1 1) ∧
    ((load gatedLoop (some 2)).1.simulator.withLimit none).step.2 = .ok () ∧
    (load gatedLoop none).1.answers restingRuns
      = [.ok (), .ok (), .ok (), .error (.unknownSignal "X")] ∧
    other.cyclesCompleted = 3 ∧ other.network = session.network ∧
      other.trace "S" = .ok #[.blank, .blank, .low] := by
  -- one evaluation for all facts
  have hfacts : (load gatedLoop none).1.simulator.sweepLimit = 3 ∧
      ((load gatedLoop (some 2)).1.simulator.withLimit (some 1)).step.2
        = .error (.oscillating 1 1) ∧
      (load gatedLoop (some 2)).1.simulator.step.2 = .ok () ∧
      (load gatedLoop (some 2)).1.answers restingRuns
        = [.ok (), .ok (), .ok (), .error (.unknownSignal "X")] ∧
      ((load gatedLoop (some 2)).1.performAll restingRuns).cyclesCompleted = 3 ∧
      ((load gatedLoop (some 2)).1.performAll restingRuns).trace "S"
        = .ok #[.blank, .blank, .low] := by
    decide +kernel
  obtain ⟨hlimit, herror, hok, hanswers, hcount, htrace⟩ := hfacts
  have hcalm : ∀ answer ∈ (load gatedLoop (some 2)).1.answers restingRuns, Calm answer := by
    rw [hanswers]
    intro answer hanswer cycle passes
    revert answer
    simp
  have hle : (load gatedLoop (some 2)).1.simulator.sweepLimit
      ≤ (load gatedLoop none).1.simulator.sweepLimit := by
    rw [hlimit]
    decide
  obtain ⟨hcycle, hsessions⟩ := higher_limit_agrees
  obtain ⟨hsame, hcount', hnetwork, -, -, htraces, -⟩ :=
    hsessions gatedLoop (some 2) none _ hle hcalm
  have hstep := (hcycle (load gatedLoop (some 2)).1.simulator (some 2) none hle).1 _
    (Prod.ext rfl hok)
  exact ⟨hlimit, herror, congrArg Prod.snd hstep, hsame.trans hanswers, hcount'.trans hcount,
    hnetwork, (htraces "S").trans htrace⟩

end Session

end LogicCircuit
