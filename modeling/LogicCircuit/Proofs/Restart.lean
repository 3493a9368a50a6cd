import LogicCircuit.Proofs.Operations
import LogicCircuit.Proofs.Redefinition
import Mathlib.Data.Finset.Dedup

/-!
# Restarts — what a run depends on

A run starts from a cold start. What came before it, completed or not, leaves no trace but the levels of
switches and the choice of monitored points: the run could as well be that of a session just loaded, of
a definition in which each switch has the level last set on it.

* **`Simulator.coldStart_step`** — a cold start erases a cycle, also one that oscillates, whatever it
  did to clocks, generators, gates and flip-flops.
* **`coldStart_performAll`** — so after any operations a cold start of the network is one of the network
  as loaded, with the switches as they were last set (`lastSet`).
* **`Mirrors.execute`** — runs from there and from the definition's own session go alike, cycle by cycle,
  by `Simulator.step_redefine`.
* **`run_eq_run_redefined`** — both together.
-/

namespace LogicCircuit

/-! ## Levels of switches -/

/-- The element, set to a level if it is a switch and there is one to set. -/
def Element.setTo (level? : Option Level) : Element → Element
  | switch initial level => switch initial (level?.getD level)
  | element => element

/-- The network with its switches set to the levels given for their names. Others stay as they are. -/
def Network.setSwitches (net : Network) (levels : String → Option Level) : Network :=
  { devices := net.devices.map fun device =>
      device.withElement (device.element.setTo (levels device.name)) }

namespace Element

variable (e : Element)

@[simp] theorem setTo_none : e.setTo none = e := by
  cases e <;> rfl

theorem setTo_setTo (first second : Option Level) :
    (e.setTo first).setTo second = e.setTo (second.or first) := by
  cases e <;> cases second <;> rfl

theorem reset_setTo (level? : Option Level) : (e.setTo level?).reset = e.reset.setTo level? := by
  cases e <;> rfl

/-! A cold start erases what a cycle does to an element. -/

@[simp] theorem reset_reset : e.reset.reset = e.reset := by
  cases e <;> rfl

@[simp] theorem reset_advance : e.advance.reset = e.reset := by
  cases e with
  | clock halfPeriod counter output =>
    simp only [advance]
    split <;> rfl
  | _ => rfl

@[simp] theorem reset_drive (level : Level) : (e.drive level).reset = e.reset := by
  cases e <;> rfl

@[simp] theorem reset_latch (data clk set clear : Level) :
    (e.latch data clk set clear).reset = e.reset := by
  cases e <;> rfl

/-! Only a switch can be set, and then to any level. -/

theorem setTo_of_setSwitch?_eq_some {e set : Element} {level : Level}
    (h : e.setSwitch? level = some set) : e.setTo (some level) = set := by
  cases e <;> simp_all [setSwitch?, setTo]

theorem setTo_of_setSwitch?_eq_none {e : Element} {level : Level} (h : e.setSwitch? level = none)
    (level? : Option Level) : e.setTo level? = e := by
  cases e <;> simp_all [setSwitch?, setTo]

@[simp] theorem setSwitch?_setTo (level? : Option Level) (level : Level) :
    (e.setTo level?).setSwitch? level = e.setSwitch? level := by
  cases e <;> rfl

end Element

namespace Network

variable {net : Network} {id : NameId} {name : String} {levels later : String → Option Level}

/-- Setting switches does not move devices. -/
theorem device?_setSwitches : (net.setSwitches levels).device? id = (net.device? id).map
    fun device => device.withElement (device.element.setTo (levels device.name)) :=
  device?_map _ fun _ => rfl

/-- Of two levels for one switch the later one counts. -/
theorem setSwitches_setSwitches :
    (net.setSwitches levels).setSwitches later
      = net.setSwitches fun name => (later name).or (levels name) := by
  rw [setSwitches, setSwitches, setSwitches, List.map_map]
  congr 1
  refine List.map_congr_left fun device _ => ?_
  rw [Function.comp_apply, Device.element_withElement, Element.setTo_setTo]
  rfl

theorem setSwitches_eq_self
    (h : ∀ device ∈ net.devices, device.element.setTo (levels device.name) = device.element) :
    net.setSwitches levels = net := by
  have hmap : net.devices.map (fun device =>
      device.withElement (device.element.setTo (levels device.name))) = net.devices.map id := by
    -- device by device, what is set is what is there
    refine List.map_congr_left fun device hmem => ?_
    rw [h device hmem]
    rfl
  rw [setSwitches, hmap, List.map_id]

theorem setSwitches_none (net : Network) : net.setSwitches (fun _ => none) = net :=
  setSwitches_eq_self fun device _ => device.element.setTo_none

/-- Setting one switch by its name is setting it by its handle. What is no switch stays as it is. -/
theorem setSwitches_single {level : Level} (hnet : net.Distinct)
    (hname : ∀ device ∈ net.devices, device.name = name ↔ device.id = id) :
    net.setSwitches (fun other => if other = name then some level else none)
      = (net.setSwitch? id level).getD net := by
  -- by name as by handle, all devices but one are left alone
  have hothers : ∀ device ∈ net.devices, device.id ≠ id →
      device.element.setTo (if device.name = name then some level else none) = device.element := by
    intro device hmem hid
    rw [if_neg (mt (hname device hmem).1 hid), Element.setTo_none]
  -- there is no such device, or one that is no switch, or a switch
  cases hdevice : net.device? id with
  | none =>
    have habsent : net.setSwitch? id level = none := by simp [setSwitch?, hdevice]
    rw [habsent, Option.getD_none]
    refine setSwitches_eq_self fun device hmem => hothers device hmem fun hid => ?_
    rw [device?_eq_none_iff, ← hid] at hdevice
    exact hdevice (List.mem_map_of_mem hmem)
  | some found =>
    obtain ⟨hfound, hid⟩ := mem_of_device? hdevice
    have hsame : ∀ device ∈ net.devices, device.id = id → device = found := fun _ hmem hid =>
      hnet.eq_of_device? hdevice hmem hid
    cases helement : found.element.setSwitch? level with
    | none =>
      have hnone : net.setSwitch? id level = none := by simp [setSwitch?, hdevice, helement]
      rw [hnone, Option.getD_none]
      refine setSwitches_eq_self fun device hmem => ?_
      by_cases hid : device.id = id
      · rw [hsame device hmem hid, Element.setTo_of_setSwitch?_eq_none helement]
      · exact hothers device hmem hid
    | some element =>
      have hsome : net.setSwitch? id level
          = some (net.update id fun device => device.withElement element) := by
        simp [setSwitch?, hdevice, helement]
      rw [hsome, Option.getD_some, setSwitches, update]
      congr 1
      refine List.map_congr_left fun device hmem => ?_
      by_cases hid : device.id = id
      · rw [if_pos hid, if_pos ((hname device hmem).2 hid), hsame device hmem hid,
          Element.setTo_of_setSwitch?_eq_some helement]
      · rw [if_neg hid, hothers device hmem hid]
        rfl

/-- Whether there is a switch at a handle does not depend on the levels of switches. -/
theorem isSome_setSwitch?_setSwitches {level : Level} :
    ((net.setSwitches levels).setSwitch? id level).isSome = (net.setSwitch? id level).isSome := by
  have hswitch : ∀ net : Network, (net.setSwitch? id level).isSome
      = ((net.device? id).bind fun device => device.element.setSwitch? level).isSome := by
    intro net
    rw [setSwitch?]
    cases net.device? id with
    | none => rfl
    | some device =>
      rw [Option.bind_some]
      cases hset : device.element.setSwitch? level <;> simp [hset]
  rw [hswitch, hswitch, device?_setSwitches]
  cases net.device? id with
  | none => rfl
  | some device =>
    rw [Option.map_some, Option.bind_some, Option.bind_some, Device.element_withElement,
      Element.setSwitch?_setTo]

/-! ## What a cold start erases -/

/-- The device in the state of a cold start. -/
theorem coldStart_map (change : Device → Device)
    (hchange : ∀ device ∈ net.devices,
      (change device).withElement (change device).element.reset
        = device.withElement device.element.reset) :
    ({ devices := net.devices.map change } : Network).coldStart = net.coldStart := by
  rw [coldStart, coldStart, List.map_map]
  congr 1
  exact List.map_congr_left hchange

/-- A cold start puts sources back where they began. -/
theorem coldStart_advanceSources : net.advanceSources.coldStart = net.coldStart := by
  refine coldStart_map _ fun device _ => ?_
  rw [Device.element_withElement, Element.reset_advance]
  rfl

/-- A cold start keeps the levels of switches, so it does not matter which comes first. -/
theorem coldStart_setSwitches :
    (net.setSwitches levels).coldStart = net.coldStart.setSwitches levels := by
  rw [coldStart, coldStart, setSwitches, setSwitches, List.map_map, List.map_map]
  congr 1
  refine List.map_congr_left fun device _ => ?_
  rw [Function.comp_apply, Function.comp_apply, Device.element_withElement, Element.reset_setTo]
  rfl

theorem coldStart_coldStart : net.coldStart.coldStart = net.coldStart := by
  refine coldStart_map _ fun device _ => ?_
  rw [Device.element_withElement, Element.reset_reset]
  rfl

/-- It also makes gates LOW, whatever they were driven to. -/
theorem coldStart_relax (net : Network) (id : NameId) : (net.relax id).coldStart = net.coldStart := by
  unfold relax
  split
  · split
    · dsimp only
      split
      · rfl
      · refine coldStart_map _ fun device _ => ?_
        split
        · rw [Device.element_withElement, Element.reset_drive]
          rfl
        · rfl
    · rfl
  · rfl

/-- So nothing of the settling is left, completed or not. -/
theorem coldStart_settle (net : Network) (limit : Nat) :
    (net.settle limit).1.coldStart = net.coldStart :=
  view_settleFrom coldStart_relax limit 0 net

/-- And it empties flip-flops. The one that latches is the only device that a turn changes. -/
theorem coldStart_latch (hnet : net.Distinct) (id : NameId) :
    (net.latch id).coldStart = net.coldStart := by
  unfold latch
  split
  · next device hdevice =>
    split
    · refine coldStart_map _ fun found hmem => ?_
      split
      · next hid =>
        obtain rfl := hnet.eq_of_device? hdevice hmem hid
        rw [Device.element_withElement, Element.reset_latch]
        rfl
      · rfl
    · rfl
  · rfl

theorem coldStart_latchAll (hnet : net.Distinct) : net.latchAll.coldStart = net.coldStart :=
  hnet.view_foldl (fun _ id h => drawing_latch h id) (fun _ id h => coldStart_latch h id) net.ids

end Network

/-- **A cold start erases a cycle**, completed or not. -/
theorem Simulator.coldStart_step {sim : Simulator} (hsim : sim.Reachable) :
    sim.step.1.network.coldStart = sim.network.coldStart := by
  have hsettle := Network.coldStart_settle sim.network.advanceSources sim.sweepLimit
  rw [Network.coldStart_advanceSources] at hsettle
  -- both ways in which a cycle ends leave something that a cold start erases
  rcases step_cases sim with ⟨settled, passes, heq, hstep⟩ | ⟨unsettled, heq, hstep⟩
  · have hdistinct : settled.Distinct := hsim.distinct.of_drawing_eq (drawing_settled heq)
    rw [heq] at hsettle
    rw [hstep]
    exact (Network.coldStart_latchAll hdistinct).trans hsettle
  · rw [heq] at hsettle
    rw [hstep]
    exact hsettle

/-! ## Histories -/

namespace Monitors

variable {monitors : Monitors} {point : OutputRef}

/-- A completed cycle adds the level of the output to its history. -/
theorem history?_record (net : Network) : (monitors.record net).history? point =
    (monitors.history? point).map
      fun history => history.push (((net.level? point).map Signal.ofLevel).getD .blank) := by
  rw [history?, history?, record, List.find?_map, Option.map_map, Option.map_map]
  refine Option.map_congr fun monitor hmonitor => ?_
  have hpoint : monitor.point = point := by simpa using List.find?_some hmonitor
  simp [hpoint]

/-- After a restart only the points are left. -/
theorem history?_clear :
    monitors.clear.history? point = if point ∈ monitors.points then some #[] else none := by
  have hcleared : monitors.clear.history? point
      = (monitors.entries.find? fun monitor => monitor.point = point).map fun _ => #[] := by
    rw [history?, clear, List.find?_map, Option.map_map]
    rfl
  have hmem : (monitors.entries.find? fun monitor => monitor.point = point).isSome
      ↔ point ∈ monitors.points := by
    simp [List.find?_isSome, points]
  rw [hcleared]
  cases hfind : monitors.entries.find? fun monitor => monitor.point = point with
  | none =>
    rw [hfind] at hmem
    rw [if_neg fun h => absurd (hmem.2 h) Bool.false_ne_true]
    rfl
  | some monitor =>
    rw [hfind] at hmem
    rw [if_pos (hmem.1 rfl)]
    rfl

end Monitors

namespace Session

variable {session other : Session} {ρ : Equiv.Perm NameId}

/-! ## Operations on switches -/

/-- The level to which an operation sets the switch with a name, if it does. -/
def Operation.sets : Operation → String → Option Level
  | .setSwitch name level => fun other => if other = name then some level else none
  | _ => fun _ => none

/-- The level to which the last of several operations that sets the switch with a name sets it, if any
does. -/
def lastSet : List Operation → String → Option Level
  | [], _ => none
  | operation :: later, name => (lastSet later name).or (operation.sets name)

/-- The session with its switches set to the levels given for their names. -/
def setSwitches (session : Session) (levels : String → Option Level) : Session :=
  { session with simulator :=
      { session.simulator with network := session.network.setSwitches levels } }

theorem setSwitches_setSwitches (levels later : String → Option Level) :
    (session.setSwitches levels).setSwitches later
      = session.setSwitches fun name => (later name).or (levels name) := by
  simp only [setSwitches, network, Network.setSwitches_setSwitches]

/-- In a sound session a device goes by a name exactly if it has the handle of that name. -/
theorem Sound.name_eq_iff (h : session.Sound) {name : String} {id : NameId}
    (hid : session.names.id? name = some id) {device : Device}
    (hmem : device ∈ session.network.devices) : device.name = name ↔ device.id = id := by
  have hname : session.names.text? device.id = some device.name :=
    h.named _ (List.mem_map_of_mem hmem)
  have htext := NameTable.id?_eq_some_iff.1 hid
  constructor
  · rintro rfl
    rw [NameTable.id?_eq_some_iff.2 hname] at hid
    exact Option.some.inj hid
  · intro heq
    rw [heq, htext] at hname
    exact (Option.some.inj hname).symm

/-- Setting a switch, in terms of the network. -/
theorem setSwitch_eq (session : Session) (name : String) (level : Level) :
    session.setSwitch name level =
      match (session.names.id? name).bind (session.network.setSwitch? · level) with
      | some network => .ok { session with simulator := { session.simulator with network } }
      | none => .error (if ((session.names.id? name).bind session.network.device?).isSome
          then .notASwitch name else .unknownSignal name) := by
  unfold setSwitch
  -- a name without a handle, a handle without a device, a device that is no switch
  cases session.names.id? name with
  | none => rfl
  | some id =>
    have hfilter : (some id).filter (fun id => (session.network.device? id).isSome)
        = if (session.network.device? id).isSome then some id else none := Option.filter_some
    rw [hfilter, Option.bind_some, Option.bind_some]
    by_cases hdevice : (session.network.device? id).isSome
    · rw [if_pos hdevice, if_pos hdevice]
      have hset : session.simulator.setSwitch? id level = (session.network.setSwitch? id level).map
          fun network => { session.simulator with network } := rfl
      simp only [hset]
      cases session.network.setSwitch? id level with
      | none => rfl
      | some after => rfl
    · have hnone : session.network.setSwitch? id level = none := by
        rw [Option.not_isSome_iff_eq_none] at hdevice
        simp [Network.setSwitch?, hdevice]
      rw [if_neg hdevice, if_neg hdevice, hnone]

/-- **What setting a switch does**, also when there is no such switch. -/
theorem perform_setSwitch (h : session.Sound) (name : String) (level : Level) :
    (session.perform (.setSwitch name level)).1
      = session.setSwitches (Operation.setSwitch name level).sets := by
  have hnetwork : session.network.setSwitches (Operation.setSwitch name level).sets
      = ((session.names.id? name).bind (session.network.setSwitch? · level)).getD
          session.network := by
    cases hid : session.names.id? name with
    | none =>
      -- a name that the table does not have is the name of no device
      refine Network.setSwitches_eq_self fun device hmem => ?_
      have hne : device.name ≠ name := by
        rintro rfl
        rw [NameTable.id?_eq_some_iff.2 (h.named _ (List.mem_map_of_mem hmem))] at hid
        cases hid
      simp only [Operation.sets, if_neg hne, Element.setTo_none]
    | some id =>
      exact Network.setSwitches_single h.reachable.distinct fun device hmem =>
        h.name_eq_iff hid hmem
  rw [perform, setSwitch_eq, setSwitches, hnetwork]
  cases (session.names.id? name).bind (session.network.setSwitch? · level) with
  | none => rfl
  | some after => rfl

/-- Whether a switch can be set does not depend on the levels of switches. -/
theorem perform_setSwitch_result (levels : String → Option Level) (name : String) (level : Level) :
    ((session.setSwitches levels).perform (.setSwitch name level)).2
      = (session.perform (.setSwitch name level)).2 := by
  -- the result in terms of what is found for the name, which levels of switches do not change
  have hresult : ∀ session : Session, (session.perform (.setSwitch name level)).2 =
      if ((session.names.id? name).bind (session.network.setSwitch? · level)).isSome then .ok ()
      else .error (if ((session.names.id? name).bind session.network.device?).isSome
        then .notASwitch name else .unknownSignal name) := by
    intro session
    rw [perform, setSwitch_eq]
    cases (session.names.id? name).bind (session.network.setSwitch? · level) with
    | none => rfl
    | some after => rfl
  have hdevice : ∀ id, ((session.setSwitches levels).network.device? id).isSome
      = (session.network.device? id).isSome := by
    intro id
    rw [setSwitches, network, Network.device?_setSwitches, Option.isSome_map]
  have hset : ∀ id, ((session.setSwitches levels).network.setSwitch? id level).isSome
      = (session.network.setSwitch? id level).isSome := fun _ =>
    Network.isSome_setSwitch?_setSwitches
  have hnames : (session.setSwitches levels).names = session.names := rfl
  rw [hresult, hresult, hnames]
  cases session.names.id? name with
  | none => rfl
  | some id => simp only [Option.bind_some, hdevice, hset]

/-! ## What a restart erases -/

/-- A network from a cold start is kept by single cycles. -/
theorem coldStart_execute (h : session.Sound) (cycles : Nat) :
    (session.execute cycles).1.network.coldStart = session.network.coldStart := by
  induction cycles generalizing session with
  | zero => rfl
  | succ cycles ih =>
    have hcycle : session.cycle.1.network.coldStart = session.network.coldStart := by
      rw [network, cycle_simulator]
      exact Simulator.coldStart_step h.reachable
    rcases session.cycle_result with ⟨hok, -⟩ | ⟨herror, -⟩
    · rw [execute_of_cycle_ok hok, ih (preserved_sound.cycle session h), hcycle]
    · rw [execute_of_cycle_error herror, hcycle]

/-- **One operation.** A cold start erases it but for the switch it sets. -/
theorem coldStart_perform (h : session.Sound) (operation : Operation) :
    (session.perform operation).1.network.coldStart
      = session.network.coldStart.setSwitches operation.sets := by
  -- operations that set nothing are erased without a trace
  have hkept : ∀ after : Session, after.network.coldStart = session.network.coldStart →
      after.network.coldStart = session.network.coldStart.setSwitches fun _ => none := by
    intro after hafter
    rw [hafter, Network.setSwitches_none]
  cases operation with
  | run cycles =>
    refine hkept _ ?_
    rw [perform, run, coldStart_execute (preserved_sound.restart session h)]
    exact Network.coldStart_coldStart
  | continueRun cycles =>
    refine hkept _ ?_
    rw [perform, continueRun]
    split
    · rfl
    · exact coldStart_execute h cycles
  | setSwitch name level =>
    rw [perform_setSwitch h]
    exact Network.coldStart_setSwitches
  | addMonitor signal =>
    refine hkept _ ?_
    rw [perform]
    cases hadd : session.addMonitor signal with
    | error fault => rfl
    | ok after =>
      obtain ⟨_, _, -, rfl⟩ := addMonitor_eq_ok hadd
      rfl
  | removeMonitor signal =>
    refine hkept _ ?_
    rw [perform]
    cases hremove : session.removeMonitor signal with
    | error fault => rfl
    | ok after =>
      obtain ⟨_, rfl⟩ := removeMonitor_eq_ok hremove
      rfl

/-- **Several operations.** A cold start erases them but for the levels last set. -/
theorem coldStart_performAll (h : session.Sound) (operations : List Operation) :
    (session.performAll operations).network.coldStart
      = session.network.coldStart.setSwitches (lastSet operations) := by
  induction operations generalizing session with
  | nil => exact (Network.setSwitches_none _).symm
  -- the levels set later come on top, as they count more
  | cons operation later ih =>
    rw [performAll_cons, ih (preserved_sound.perform operation h), coldStart_perform h,
      Network.setSwitches_setSwitches]
    rfl

/-! ## Two runs -/

/-- The other session has the redefined network, in the same cycle, and the same histories. -/
structure Mirrors (ρ : Equiv.Perm NameId) (session other : Session) : Prop where
  simulator : other.simulator = session.simulator.redefine ρ
  histories : ∀ point,
    other.monitors.history? (point.renumber ρ) = session.monitors.history? point

/-- **One cycle.** Both sessions complete it, or it oscillates in both. -/
theorem Mirrors.cycle (h : Mirrors ρ session other) :
    other.cycle.2 = session.cycle.2 ∧ Mirrors ρ session.cycle.1 other.cycle.1 := by
  have hstep : other.simulator.step
      = (session.simulator.step.1.redefine ρ, session.simulator.step.2) := by
    rw [h.simulator, Simulator.step_redefine]
  rcases session.cycle_cases with
    ⟨simulator, hsession, -, hcycle⟩ | ⟨simulator, fault, hsession, -, -, hcycle⟩
  · rw [hsession] at hstep
    rw [hcycle, Session.cycle, hstep]
    refine ⟨rfl, rfl, fun point => ?_⟩
    show (other.monitors.record (simulator.network.redefine ρ)).history? (point.renumber ρ)
      = (session.monitors.record simulator.network).history? point
    -- the level on a monitored output is the same under its new handle
    rw [Monitors.history?_record, Monitors.history?_record, h.histories, Network.level?_redefine]
  · rw [hsession] at hstep
    rw [hcycle, Session.cycle, hstep]
    exact ⟨rfl, rfl, h.histories⟩

/-- **A run of cycles.** -/
theorem Mirrors.execute (h : Mirrors ρ session other) (cycles : Nat) :
    (other.execute cycles).2 = (session.execute cycles).2 ∧
      Mirrors ρ (session.execute cycles).1 (other.execute cycles).1 := by
  induction cycles generalizing session other with
  | zero => exact ⟨rfl, h⟩
  | succ cycles ih =>
    obtain ⟨hresult, hnext⟩ := h.cycle
    -- the results of the cycle are the same, so both go on or both stop
    rcases session.cycle_result with ⟨hok, -⟩ | ⟨herror, -⟩
    · rw [execute_of_cycle_ok hok, execute_of_cycle_ok (hresult.trans hok)]
      exact ih hnext
    · rw [execute_of_cycle_error herror, execute_of_cycle_error (hresult.trans herror)]
      exact ⟨hresult, hnext⟩

/-- Restarted sessions of the same circuit mirror each other if they monitor the same points. -/
theorem Mirrors.restart
    (hcircuit : other.network.coldStart = (session.network.coldStart).redefine ρ)
    (hlimit : other.simulator.fixedLimit = session.simulator.fixedLimit)
    (hpoints : other.monitors.points.toFinset
      = (session.monitors.points.map (·.renumber ρ)).toFinset) :
    Mirrors ρ session.restart other.restart where
  simulator := by
    show Simulator.mk other.network.coldStart other.simulator.fixedLimit 0
      = Simulator.mk (session.network.coldStart.redefine ρ) session.simulator.fixedLimit 0
    rw [hcircuit, hlimit]
  histories := by
    intro point
    -- handles become others one to one, so membership carries over
    have hmem : point.renumber ρ ∈ other.monitors.points ↔ point ∈ session.monitors.points := by
      rw [← List.mem_toFinset, hpoints, List.mem_toFinset]
      exact List.mem_map_of_injective (OutputRef.renumber_injective ρ)
    show other.monitors.clear.history? (point.renumber ρ) = session.monitors.clear.history? point
    simp only [Monitors.history?_clear, hmem]

/-- No operation changes the limit on sweeps. -/
theorem preserved_fixedLimit (fixedLimit : Option Nat) :
    Preserved fun session => session.simulator.fixedLimit = fixedLimit where
  cycle := by
    intro session h
    rw [cycle_simulator, Simulator.fixedLimit_step]
    exact h
  restart := fun _ h => h
  setSwitch := by
    intro session after name level h hafter
    obtain ⟨_, simulator, -, hset, rfl⟩ := setSwitch_eq_ok hafter
    obtain ⟨_, -, rfl⟩ := Option.map_eq_some_iff.1 hset
    exact h
  addMonitor := by
    intro session after signal h hafter
    obtain ⟨_, _, -, rfl⟩ := addMonitor_eq_ok hafter
    exact h
  removeMonitor := by
    intro session after signal h hafter
    obtain ⟨_, rfl⟩ := removeMonitor_eq_ok hafter
    exact h

/-- Settings of two switches can change places. -/
theorem performAll_setSwitch_comm (h : session.Sound) {name name' : String} (hne : name ≠ name')
    (level level' : Level) :
    session.performAll [.setSwitch name level, .setSwitch name' level']
      = session.performAll [.setSwitch name' level', .setSwitch name level] := by
  rw [performAll_cons, performAll_cons, performAll_nil, performAll_cons, performAll_cons,
    performAll_nil, perform_setSwitch (preserved_sound.perform _ h), perform_setSwitch h,
    perform_setSwitch (preserved_sound.perform _ h), perform_setSwitch h, setSwitches_setSwitches,
    setSwitches_setSwitches]
  congr 1
  funext other
  simp only [Operation.sets]
  -- at most one of the two settings is about any one name
  by_cases hname : other = name
  · rw [if_pos hname, if_neg fun hname' => hne (hname.symm.trans hname'), Option.none_or,
      Option.or_none]
  · rw [if_neg hname, Option.or_none, Option.none_or]

/-- Of two settings of a switch the later one counts. -/
theorem performAll_setSwitch_last (h : session.Sound) (name : String) (level level' : Level) :
    session.performAll [.setSwitch name level, .setSwitch name level']
      = (session.perform (.setSwitch name level')).1 := by
  rw [performAll_cons, performAll_cons, performAll_nil,
    perform_setSwitch (preserved_sound.perform _ h), perform_setSwitch h, perform_setSwitch h,
    setSwitches_setSwitches]
  congr 1
  funext other
  simp only [Operation.sets]
  split
  · rfl
  · rfl

/-- **A run depends on the circuit, the levels of switches, the limit on sweeps and the monitored
points.** After any operations on a session a run goes as that of a fresh one, whose definition gives
each switch the level last set on it and which monitors the same points; its text is another one, and
so may be its handles. Settings of different switches can change places, and of two settings of one
switch the later one counts. -/
theorem run_eq_run_redefined (text : String) (fixedLimit : Option Nat) (operations : List Operation)
    (fresh : Session) (ρ : Equiv.Perm NameId)
    (hcircuit : fresh.simulator = .new
      (((load text fixedLimit).1.network.setSwitches (lastSet operations)).redefine ρ) fixedLimit)
    (hpoints : fresh.monitors.points.toFinset
      = (((load text fixedLimit).1.performAll operations).monitors.points.map
        (·.renumber ρ)).toFinset) :
    let session := (load text fixedLimit).1.performAll operations
    (∀ cycles,
      (fresh.run cycles).2 = (session.run cycles).2 ∧
      (fresh.run cycles).1.network = (session.run cycles).1.network.redefine ρ ∧
      (fresh.run cycles).1.cyclesCompleted = (session.run cycles).1.cyclesCompleted ∧
      ∀ output,
        (fresh.run cycles).1.network.level? (output.renumber ρ)
          = (session.run cycles).1.network.level? output ∧
        (fresh.run cycles).1.monitors.history? (output.renumber ρ)
          = (session.run cycles).1.monitors.history? output) ∧
    (∀ name other level level', name ≠ other →
      session.performAll [.setSwitch name level, .setSwitch other level']
        = session.performAll [.setSwitch other level', .setSwitch name level] ∧
      ((session.perform (.setSwitch other level')).1.perform (.setSwitch name level)).2
        = (session.perform (.setSwitch name level)).2) ∧
    ∀ name level level',
      session.performAll [.setSwitch name level, .setSwitch name level']
        = (session.perform (.setSwitch name level')).1 := by
  intro session
  have hsound : session.Sound := sound_performAll text fixedLimit operations
  refine ⟨fun cycles => ?_, fun name other level level' hne => ?_, fun name level level' =>
    performAll_setSwitch_last hsound name level level'⟩
  · -- both cold starts are of one circuit, up to handles and the levels that switches were defined with
    have hcold : fresh.network.coldStart = session.network.coldStart.redefine ρ := by
      rw [coldStart_performAll (sound_load text fixedLimit), network, hcircuit, Simulator.new,
        Network.coldStart_redefine, Network.coldStart_setSwitches]
    have hlimit : fresh.simulator.fixedLimit = session.simulator.fixedLimit := by
      rw [hcircuit]
      exact ((preserved_fixedLimit fixedLimit).performAll operations rfl).symm
    obtain ⟨hresult, hmirrors⟩ := (Mirrors.restart hcold hlimit hpoints).execute cycles
    have hnetwork : (fresh.run cycles).1.network = (session.run cycles).1.network.redefine ρ :=
      congrArg Simulator.network hmirrors.simulator
    have hcount : (fresh.run cycles).1.cyclesCompleted = (session.run cycles).1.cyclesCompleted := by
      rw [cyclesCompleted, run, hmirrors.simulator]
      rfl
    refine ⟨hresult, hnetwork, hcount, fun output => ?_⟩
    exact ⟨hnetwork ▸ Network.level?_redefine output, hmirrors.histories output⟩
  · refine ⟨performAll_setSwitch_comm hsound hne level level', ?_⟩
    rw [perform_setSwitch hsound, perform_setSwitch_result]

/-- The session of a gate that drives itself, resting while S is low and oscillating when it is high, and
of a switch that drives nothing. -/
def spareSwitch (level : String) : Session :=
  (load ("define S as SWITCH 0 state; define T as SWITCH " ++ level ++ " state; " ++
    "define G as NAND 2 inputs; connect S to G.I1; connect G to G.I2; monitor G; END") none).1

/-- A run in which the gate oscillates, a monitor, and two switches set. -/
def spareFlips : List Operation :=
  [.setSwitch "S" .high, .run 2, .addMonitor "T", .setSwitch "T" .high, .setSwitch "S" .low]

/-- After the flips a run goes as that of a session in which T was high from the start. The text of that
session has one literal more, which moves the handle of the gate. -/
theorem run_eq_run_spareSwitch :
    let fresh := (spareSwitch "1").performAll [.addMonitor "T"]
    let session := (spareSwitch "0").performAll spareFlips
    fresh.network.level? ⟨⟨29⟩, .main⟩ = some .high ∧
    (fresh.run 2).2 = .ok () ∧ (fresh.run 2).2 = (session.run 2).2 ∧
    (fresh.run 2).1.monitors.history? ⟨⟨31⟩, .main⟩
      = (session.run 2).1.monitors.history? ⟨⟨30⟩, .main⟩ ∧
    "T" ≠ "S" ∧ session.performAll [.setSwitch "T" .low, .setSwitch "S" .high]
      = session.performAll [.setSwitch "S" .high, .setSwitch "T" .low] := by
  have hfacts :
      ((spareSwitch "1").performAll [.addMonitor "T"]).simulator
        = .new (((spareSwitch "0").network.setSwitches (lastSet spareFlips)).redefine
          (Equiv.swap ⟨30⟩ ⟨31⟩)) none ∧
      ((spareSwitch "1").performAll [.addMonitor "T"]).monitors.points.toFinset
        = (((spareSwitch "0").performAll spareFlips).monitors.points.map
          (·.renumber (Equiv.swap ⟨30⟩ ⟨31⟩))).toFinset ∧
      ((spareSwitch "1").performAll [.addMonitor "T"]).network.level? ⟨⟨29⟩, .main⟩ = some .high ∧
      (((spareSwitch "1").performAll [.addMonitor "T"]).run 2).2 = .ok () := by
    decide +kernel
  obtain ⟨hcircuit, hpoints, hhigh, hrun⟩ := hfacts
  obtain ⟨hruns, hcomm, -⟩ :=
    run_eq_run_redefined _ none _ _ (Equiv.swap ⟨30⟩ ⟨31⟩) hcircuit hpoints
  obtain ⟨hresult, -, -, houtputs⟩ := hruns 2
  have hhistory := (houtputs ⟨⟨30⟩, .main⟩).2
  have hmoved : OutputRef.renumber (Equiv.swap ⟨30⟩ ⟨31⟩) ⟨⟨30⟩, .main⟩ = ⟨⟨31⟩, .main⟩ := by
    decide +kernel
  rw [hmoved] at hhistory
  have hne : "T" ≠ "S" := by decide
  exact ⟨hhigh, hrun, hresult, hhistory, hne, (hcomm "T" "S" .low .high hne).1⟩

end Session

end LogicCircuit
