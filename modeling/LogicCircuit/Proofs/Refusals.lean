import LogicCircuit.Proofs.Recording
import LogicCircuit.Proofs.Restart
import LogicCircuit.Proofs.SignalNames

/-!
# Refusals — what is refused, why, and that nothing comes of it

Whether an operation on a session is refused is decided by the table, the network and the monitors in
turn. `Session.Refused` lists the reasons in terms of what a user sees: names of devices, display names,
the cycle count.

* **`Session.Legible.perform_eq_error_iff`** — in every session that can be reached, an operation fails
  with one of the listed faults exactly for the listed reason; the only other fault is an oscillation.
* **`Session.inPlace_eq`**, **`Network.addDeviceInPlace_eq`**, … — operations as changes of a state in
  place, where a fault keeps what had been changed by then. They come to what the operations come to
  that answer a new state or a fault, so no check comes after a change.
* **`refused_exactly`** — both together.
-/

namespace LogicCircuit

/-! ## Changes in place -/

/-- A change of a state in place. A fault cuts it short and keeps what has been changed by then. -/
abbrev InPlace (state result : Type) : Type :=
  EStateM Fault state result

/-- What a change that is all or nothing leaves in place. -/
def leaves {state : Type} (before : state) : Except Fault state → EStateM.Result Fault state Unit
  | .ok after => .ok () after
  | .error fault => .error fault before

namespace Network

/-- Adds a device in place. -/
def addDeviceInPlace (id : NameId) (name : String) (kind : DeviceKind) : InPlace Network Unit := do
  if ((← get).device? id).isSome then
    throw (.devicePresent name)
  if let some reason := kind.badQualifier? then
    throw (.invalidQualifier name reason)
  modify fun net => { devices := net.devices ++ [.new id name kind] }

/-- Adds a wire in place. -/
def connectInPlace (names : NameTable) (source : OutputRef) (target : InputRef) :
    InPlace Network Unit := do
  let net ← get
  let some driver := net.device? source.device | throw (absentDevice names source.device)
  if !driver.hasOutput source.port then
    throw (.portAbsent driver.name source.port.name)
  let some device := net.device? target.device | throw (absentDevice names target.device)
  if !device.hasInput target.port then
    throw (.portAbsent device.name target.port.label)
  if (device.driver? target.port).isSome then
    throw (.inputConnected (device.inputName target.port))
  set (net.update target.device fun device => device.wire target.port source)

/-- Sets a switch in place, and tells whether there was one. -/
def setSwitchInPlace (id : NameId) (level : Level) : InPlace Network Bool := do
  let net ← get
  let some device := net.device? id | return false
  let some element := device.element.setSwitch? level | return false
  set (net.update id fun device => device.withElement element)
  return true

theorem addDeviceInPlace_eq (net : Network) (id : NameId) (name : String) (kind : DeviceKind) :
    (addDeviceInPlace id name kind).run net = leaves net (net.addDevice id name kind) := by
  unfold addDevice addDeviceInPlace
  by_cases hpresent : (net.device? id).isSome
  · simp [hpresent, leaves]
  · cases hkind : kind.badQualifier? with
    | none => simp [hpresent, leaves]
    | some reason => simp [hpresent, leaves]

theorem connectInPlace_eq (net : Network) (names : NameTable) (source : OutputRef)
    (target : InputRef) : (connectInPlace names source target).run net
      = leaves net (net.connect names source target) := by
  unfold connect connectInPlace
  cases hdriver : net.device? source.device with
  | none => simp [hdriver, leaves]
  | some driver =>
    by_cases houtput : driver.hasOutput source.port
    · cases hdevice : net.device? target.device with
      | none => simp [hdriver, houtput, hdevice, leaves]
      | some device =>
        by_cases hinput : device.hasInput target.port
        · by_cases hdriven : (device.driver? target.port).isSome
          · simp [hdriver, houtput, hdevice, hinput, hdriven, leaves]
          · simp [hdriver, houtput, hdevice, hinput, hdriven, leaves]
        · simp [hdriver, houtput, hdevice, hinput, leaves]
    · simp [hdriver, houtput, leaves]

theorem setSwitchInPlace_eq (net : Network) (id : NameId) (level : Level) :
    (setSwitchInPlace id level).run net = match net.setSwitch? id level with
      | some after => .ok true after
      | none => .ok false net := by
  unfold setSwitch? setSwitchInPlace
  cases hdevice : net.device? id with
  | none => simp [hdevice]
  | some device =>
    cases helement : device.element.setSwitch? level with
    | none => simp [hdevice, helement]
    | some element =>
      simp only [EStateM.run_bind, EStateM.run_get, hdevice, helement, Option.bind_eq_bind, Option.bind_some]
      rfl

end Network

namespace Monitors

/-- Starts to monitor an output in place. -/
def addInPlace (names : NameTable) (net : Network) (point : OutputRef) (elapsed : Nat) :
    InPlace Monitors Unit := do
  let some name := net.signalName? point
    | match names.textOf point.device with
      | .ok device => throw (.unknownSignal (device ++ point.port.suffix))
      | .error misuse => throw misuse
  if (← get).contains point then
    throw (.monitorPresent name)
  modify fun monitors => { entries := monitors.entries ++ [⟨point, .replicate elapsed .blank⟩] }

/-- Stops monitoring an output in place, and tells whether it was monitored. -/
def removeInPlace (point : OutputRef) : InPlace Monitors Bool := do
  let monitors ← get
  if !monitors.contains point then
    return false
  set (⟨monitors.entries.filter fun entry => entry.point ≠ point⟩ : Monitors)
  return true

theorem addInPlace_eq (monitors : Monitors) (names : NameTable) (net : Network) (point : OutputRef)
    (elapsed : Nat) : (addInPlace names net point elapsed).run monitors
      = leaves monitors (monitors.add names net point elapsed) := by
  unfold add addInPlace
  cases hname : net.signalName? point with
  | none => cases names.textOf point.device <;> simp [leaves]
  | some name =>
    by_cases hpoint : monitors.contains point
    · simp [hpoint, leaves]
    · simp [hpoint, leaves]

theorem removeInPlace_eq (monitors : Monitors) (point : OutputRef) :
    (removeInPlace point).run monitors = match monitors.remove? point with
      | some after => .ok true after
      | none => .ok false monitors := by
  unfold remove? removeInPlace
  by_cases hpoint : monitors.contains point
  · simp only [EStateM.run_bind, EStateM.run_get, hpoint, Bool.not_true, Bool.false_eq_true, if_true,
      if_false]
    rfl
  · simp [hpoint]

end Monitors

namespace Session

variable {session after : Session} {signal name : String} {level : Level} {fault : Fault}

/-- A change of the network of a session. -/
def onNetwork {result : Type} (change : InPlace Network result) : InPlace Session result :=
  fun session =>
    let put network := { session with simulator := { session.simulator with network } }
    match change.run session.network with
    | .ok answer network => .ok answer (put network)
    | .error fault network => .error fault (put network)

/-- A change of the monitors of a session. -/
def onMonitors {result : Type} (change : InPlace Monitors result) : InPlace Session result :=
  fun session =>
    match change.run session.monitors with
    | .ok answer monitors => .ok answer { session with monitors }
    | .error fault monitors => .error fault { session with monitors }

/-- Runs one cycle in place. -/
def cycleInPlace : InPlace Session Unit :=
  fun session =>
    match session.cycle with
    | (after, .ok ()) => .ok () after
    | (after, .error fault) => .error fault after

/-- Runs cycles in place. -/
def executeInPlace : Nat → InPlace Session Unit
  | 0 => return
  | cycles + 1 => do
    cycleInPlace
    executeInPlace cycles

/-- The output that a signal name refers to, or the end of the change. -/
def resolved (session : Session) (signal : String) : InPlace Session OutputRef :=
  match session.resolve signal with
  | .ok point => return point
  | .error fault => throw fault

/-- An operation in place. A switch is set, and a monitor removed, before it is known whether there is
one. -/
def Operation.inPlace : Operation → InPlace Session Unit
  | .run cycles => do
    modify restart
    executeInPlace cycles
  | .continueRun cycles => do
    if (← get).cyclesCompleted = 0 then
      throw .nothingToContinue
    executeInPlace cycles
  | .setSwitch name level => do
    let session ← get
    let some id := (session.names.id? name).filter fun id => (session.network.device? id).isSome
      | throw (.unknownSignal name)
    let done ← onNetwork (Network.setSwitchInPlace id level)
    if !done then
      throw (.notASwitch name)
  | .addMonitor signal => do
    let session ← get
    let point ← session.resolved signal
    onMonitors
      (Monitors.addInPlace session.names session.network point session.cyclesCompleted)
  | .removeMonitor signal => do
    let point ← (← get).resolved signal
    let done ← onMonitors (Monitors.removeInPlace point)
    if !done then
      throw (.monitorAbsent signal)

/-- The session after an operation and its answer, as a change in place leaves them. -/
def left : Session × Except Fault Unit → EStateM.Result Fault Session Unit
  | (after, .ok ()) => .ok () after
  | (after, .error fault) => .error fault after

/-- Cycles in place are run one by one, up to one that fails. -/
theorem executeInPlace_eq (session : Session) (cycles : Nat) :
    (executeInPlace cycles).run session = left (session.execute cycles) := by
  induction cycles generalizing session with
  | zero => rfl
  | succ cycles ih =>
    rw [executeInPlace, execute]
    rcases hcycle : session.cycle with ⟨after, fault | _⟩
    · have hrun : cycleInPlace.run session = .error fault after := by
        simp only [cycleInPlace, EStateM.run, hcycle]
      simp [EStateM.run_bind, hrun, left]
    · have hrun : cycleInPlace.run session = .ok () after := by
        simp only [cycleInPlace, EStateM.run, hcycle]
      simp [EStateM.run_bind, hrun, ih]

theorem run_onNetwork {result : Type} (change : InPlace Network result) (session : Session) :
    (onNetwork change).run session = match change.run session.network with
      | .ok answer network =>
        .ok answer { session with simulator := { session.simulator with network } }
      | .error fault network =>
        .error fault { session with simulator := { session.simulator with network } } := rfl

theorem run_onMonitors {result : Type} (change : InPlace Monitors result) (session : Session) :
    (onMonitors change).run session = match change.run session.monitors with
      | .ok answer monitors => .ok answer { session with monitors }
      | .error fault monitors => .error fault { session with monitors } := rfl

/-- A signal is read without any change. -/
theorem run_resolved (session other : Session) (signal : String) :
    (session.resolved signal).run other = match session.resolve signal with
      | .ok point => .ok point other
      | .error fault => .error fault other := by
  unfold resolved
  cases session.resolve signal <;> rfl

theorem left_accept (session : Session) (result : Except Fault Session) :
    left (session.accept result) = leaves session result := by
  cases result <;> rfl

/-- **Operations in place** come to what operations come to. -/
theorem inPlace_eq (session : Session) (operation : Operation) :
    operation.inPlace.run session = left (session.perform operation) := by
  cases operation with
  | run cycles =>
    rw [perform, run, ← executeInPlace_eq]
    simp [Operation.inPlace]
  | continueRun cycles =>
    rw [perform, continueRun]
    by_cases hcold : session.cyclesCompleted = 0
    · simp [Operation.inPlace, hcold, left]
    · simp [Operation.inPlace, hcold, executeInPlace_eq]
  | setSwitch name level =>
    rw [perform, left_accept, setSwitch, Operation.inPlace]
    -- there is no such device, or one that cannot be set, or a switch
    cases hid : (session.names.id? name).filter fun id => (session.network.device? id).isSome with
    | none => simp [hid, leaves]
    | some id =>
      have hset := Network.setSwitchInPlace_eq session.network id level
      have hsimulator : session.simulator.setSwitch? id level
          = (session.network.setSwitch? id level).map fun network =>
            { session.simulator with network } := rfl
      -- the simulator is changed only in the network that it holds
      cases hnetwork : session.network.setSwitch? id level with
      | none =>
        rw [hnetwork] at hset hsimulator
        simp [hid, run_onNetwork, hset, hsimulator, leaves]
        rfl
      | some network =>
        rw [hnetwork] at hset hsimulator
        simp [hid, run_onNetwork, hset, hsimulator, leaves]
  | addMonitor signal =>
    rw [perform, left_accept, addMonitor, Operation.inPlace]
    cases hresolve : session.resolve signal with
    | error fault => simp [run_resolved, hresolve, leaves]
    | ok point =>
      have hadd := Monitors.addInPlace_eq session.monitors session.names session.network point
        session.cyclesCompleted
      -- the monitors are what is changed, so the fault that they give is that of the operation
      cases hmonitors : session.monitors.add session.names session.network point
          session.cyclesCompleted with
      | error fault =>
        rw [hmonitors] at hadd
        simp [run_resolved, hresolve, run_onMonitors, hadd, hmonitors, leaves]
      | ok monitors =>
        rw [hmonitors] at hadd
        simp [run_resolved, hresolve, run_onMonitors, hadd, hmonitors, leaves]
  | removeMonitor signal =>
    rw [perform, left_accept, removeMonitor, Operation.inPlace]
    cases hresolve : session.resolve signal with
    | error fault => simp [run_resolved, hresolve, leaves]
    | ok point =>
      have hremove := Monitors.removeInPlace_eq session.monitors point
      cases hmonitors : session.monitors.remove? point with
      | none =>
        rw [hmonitors] at hremove
        simp [run_resolved, hresolve, run_onMonitors, hremove, hmonitors, leaves]
      | some monitors =>
        rw [hmonitors] at hremove
        simp [run_resolved, hresolve, run_onMonitors, hremove, hmonitors, leaves]

/-! ## Reasons -/

/-- Why an operation is refused, and with which fault. -/
inductive Refused (session : Session) : Operation → Fault → Prop where
  | noDevice {name : String} {level : Level} :
      (∀ device ∈ session.network.devices, device.name ≠ name) →
      Refused session (.setSwitch name level) (.unknownSignal name)
  | noSwitch {name : String} {level : Level} {device : Device} :
      device ∈ session.network.devices → device.name = name →
      (∀ initial, device.kind ≠ .switch initial) →
      Refused session (.setSwitch name level) (.notASwitch name)
  | unknownAdded {signal : String} : (∀ name ∈ session.signalNames, ¬ Spells signal name) →
      Refused session (.addMonitor signal) (.unknownSignal signal)
  | monitored {signal name : String} : name ∈ session.monitoredNames → Spells signal name →
      Refused session (.addMonitor signal) (.monitorPresent name)
  | unknownRemoved {signal : String} : (∀ name ∈ session.signalNames, ¬ Spells signal name) →
      Refused session (.removeMonitor signal) (.unknownSignal signal)
  | unmonitored {signal name : String} : name ∈ session.unmonitoredNames → Spells signal name →
      Refused session (.removeMonitor signal) (.monitorAbsent signal)
  | unstarted {cycles : Nat} : session.cyclesCompleted = 0 →
      Refused session (.continueRun cycles) .nothingToContinue

theorem accept_eq_error_iff {result : Except Fault Session} :
    (session.accept result).2 = .error fault ↔ result = .error fault := by
  cases result <;> simp [accept]

/-- The device that goes by a name. -/
theorem Sound.device?_of_name (h : session.Sound) {device : Device} :
    (session.names.id? name).bind session.network.device? = some device ↔
      device ∈ session.network.devices ∧ device.name = name := by
  rw [Option.bind_eq_some_iff]
  constructor
  · rintro ⟨id, hid, hdevice⟩
    obtain ⟨hmem, hsame⟩ := Network.mem_of_device? hdevice
    exact ⟨hmem, (h.name_eq_iff hid hmem).2 hsame⟩
  · rintro ⟨hmem, rfl⟩
    have htext : session.names.text? device.id = some device.name :=
      h.named _ (List.mem_map_of_mem hmem)
    exact ⟨device.id, NameTable.id?_eq_some_iff.2 htext,
      h.reachable.distinct.device?_eq_some_iff.2 ⟨hmem, rfl⟩⟩

theorem setSwitch?_eq_none_iff {e : Element} :
    e.setSwitch? level = none ↔ ∀ initial, e.kind ≠ .switch initial := by
  cases e <;> simp [Element.setSwitch?, Element.kind]

/-- **Switches** are refused if no device goes by the name, or one that is not a switch. -/
theorem Sound.setSwitch_eq_error_iff (h : session.Sound) :
    session.setSwitch name level = .error fault ↔ Refused session (.setSwitch name level) fault := by
  rw [setSwitch_eq]
  -- no device goes by the name, and there is nothing to set
  cases hdevice : (session.names.id? name).bind session.network.device? with
  | none =>
    have hset : (session.names.id? name).bind (session.network.setSwitch? · level) = none := by
      rw [Option.bind_eq_none_iff] at hdevice ⊢
      intro id hid
      simp [Network.setSwitch?, hdevice id hid]
    have habsent : ∀ device ∈ session.network.devices, device.name ≠ name := by
      intro device hmem hname
      rw [h.device?_of_name.2 ⟨hmem, hname⟩] at hdevice
      cases hdevice
    rw [hset]
    constructor
    · intro heq
      cases heq
      exact .noDevice habsent
    · intro hrefused
      cases hrefused with
      | noDevice _ => rfl
      | noSwitch hmem hname _ => exact absurd hname (habsent _ hmem)
  | some device =>
    obtain ⟨hmem, hname⟩ := h.device?_of_name.1 hdevice
    obtain ⟨id, hid, hfound⟩ := Option.bind_eq_some_iff.1 hdevice
    -- names tell devices apart
    have hsame : ∀ other ∈ session.network.devices, other.name = name → other = device := by
      intro other hmem' hname'
      have hother := h.device?_of_name.2 ⟨hmem', hname'⟩
      rw [hdevice] at hother
      exact (Option.some.inj hother).symm
    -- the device with the name is found, and whether it can be set depends on its kind
    cases helement : device.element.setSwitch? level with
    | none =>
      have hset : (session.names.id? name).bind (session.network.setSwitch? · level) = none := by
        simp [hid, Network.setSwitch?, hfound, helement]
      rw [hset]
      constructor
      · intro heq
        cases heq
        exact .noSwitch hmem hname (setSwitch?_eq_none_iff.1 helement)
      · intro hrefused
        cases hrefused with
        | noDevice habsent => exact absurd hname (habsent device hmem)
        | noSwitch _ _ _ => rfl
    | some element =>
      have hset : (session.names.id? name).bind (session.network.setSwitch? · level)
          = some (session.network.update id fun device => device.withElement element) := by
        simp [hid, Network.setSwitch?, hfound, helement]
      rw [hset]
      constructor
      · intro heq
        cases heq
      · intro hrefused
        cases hrefused with
        | noDevice habsent => exact absurd hname (habsent device hmem)
        | noSwitch hmem' hname' hkind =>
          rw [hsame _ hmem' hname', Device.kind, ← setSwitch?_eq_none_iff, helement] at hkind
          cases hkind

namespace Legible

/-- Of the names of outputs, a text spells that of the output it is read as. -/
theorem spells_iff (h : session.Legible) {point : OutputRef}
    (hname : session.network.signalName? point = some name) :
    Spells signal name ↔ session.resolve signal = .ok point := by
  rw [h.resolve_eq_ok_iff]
  simp [hname]

/-- Among outputs with some property, a text spells a name exactly if it is read as one of them. -/
theorem exists_spells_iff (h : session.Legible) {p : OutputRef → Prop} :
    ((∃ point, p point ∧ session.network.signalName? point = some name) ∧ Spells signal name) ↔
      ∃ point, p point ∧ session.network.signalName? point = some name ∧
        session.resolve signal = .ok point := by
  constructor
  · rintro ⟨⟨point, hpoint, hname⟩, hspells⟩
    exact ⟨point, hpoint, hname, (h.spells_iff hname).1 hspells⟩
  · rintro ⟨point, hpoint, hname, hresolve⟩
    exact ⟨⟨point, hpoint, hname⟩, (h.spells_iff hname).2 hresolve⟩

/-- A text that spells a name on the first list is read as a monitored output. -/
theorem monitored_iff (h : session.Legible) :
    (name ∈ session.monitoredNames ∧ Spells signal name) ↔ ∃ point ∈ session.monitors.points,
      session.network.signalName? point = some name ∧ session.resolve signal = .ok point := by
  rw [mem_monitoredNames_iff, h.exists_spells_iff]

/-- One that spells a name on the second list is read as one that is not. -/
theorem unmonitored_iff (h : session.Legible) :
    (name ∈ session.unmonitoredNames ∧ Spells signal name) ↔ ∃ point, point ∉ session.monitors.points ∧
      session.network.signalName? point = some name ∧ session.resolve signal = .ok point := by
  rw [mem_unmonitoredNames_iff, h.exists_spells_iff]

/-- **Signals** are unknown if they spell no display name. -/
theorem exists_resolve_eq_error_iff (h : session.Legible) :
    (∃ fault, session.resolve signal = .error fault) ↔
      ∀ name ∈ session.signalNames, ¬ Spells signal name := by
  constructor
  · rintro ⟨fault, herror⟩ name hmem hspells
    obtain ⟨point, -, hname⟩ := List.mem_filterMap.1 hmem
    rw [(h.spells_iff hname).1 hspells] at herror
    cases herror
  · intro hunknown
    cases hresolve : session.resolve signal with
    | error fault => exact ⟨fault, rfl⟩
    | ok point =>
      obtain ⟨name, hname, hspells⟩ := h.resolve_eq_ok_iff.1 hresolve
      have hmem : name ∈ session.signalNames :=
        List.mem_filterMap.2 ⟨point, Network.mem_outputs_of_signalName? hname, hname⟩
      exact absurd hspells (hunknown name hmem)

/-- **Monitors to be added** are refused if the signal is unknown or monitored. -/
theorem addMonitor_eq_error_iff (h : session.Legible) :
    session.addMonitor signal = .error fault ↔ Refused session (.addMonitor signal) fault := by
  constructor
  · intro herror
    rw [addMonitor] at herror
    -- the two checks are made in this order: whether the signal is read, and whether it is monitored
    cases hresolve : session.resolve signal with
    | error other =>
      rw [hresolve, resolve_eq_error hresolve] at herror
      cases herror
      exact .unknownAdded (h.exists_resolve_eq_error_iff.1 ⟨other, hresolve⟩)
    | ok point =>
      obtain ⟨name, hname, -⟩ := h.resolve_eq_ok_iff.1 hresolve
      rw [hresolve] at herror
      by_cases hpoint : point ∈ session.monitors.points
      · have hfault : fault = .monitorPresent name := by
          simpa [Monitors.add, hname, Monitors.contains, hpoint, eq_comm] using herror
        obtain ⟨hmem, hspells⟩ := h.monitored_iff.2 ⟨point, hpoint, hname, hresolve⟩
        rw [hfault]
        exact .monitored hmem hspells
      · simp [Monitors.add, hname, Monitors.contains, hpoint] at herror
  · intro hrefused
    cases hrefused with
    | unknownAdded hunknown =>
      obtain ⟨other, hresolve⟩ := h.exists_resolve_eq_error_iff.2 hunknown
      rw [addMonitor, hresolve, resolve_eq_error hresolve]
    | monitored hmem hspells =>
      obtain ⟨point, hpoint, hname, hresolve⟩ := h.monitored_iff.1 ⟨hmem, hspells⟩
      rw [addMonitor, hresolve]
      simp [Monitors.add, hname, Monitors.contains, hpoint]

/-- **Monitors to be removed** are refused if the signal is unknown or not monitored. -/
theorem removeMonitor_eq_error_iff (h : session.Legible) :
    session.removeMonitor signal = .error fault ↔ Refused session (.removeMonitor signal) fault := by
  constructor
  · intro herror
    rw [removeMonitor] at herror
    -- here also reading comes first, and then the question whether there is a monitor
    cases hresolve : session.resolve signal with
    | error other =>
      rw [hresolve, resolve_eq_error hresolve] at herror
      cases herror
      exact .unknownRemoved (h.exists_resolve_eq_error_iff.1 ⟨other, hresolve⟩)
    | ok point =>
      obtain ⟨name, hname, -⟩ := h.resolve_eq_ok_iff.1 hresolve
      rw [hresolve] at herror
      by_cases hpoint : point ∈ session.monitors.points
      · simp [Monitors.remove?, Monitors.contains, hpoint] at herror
      · have hfault : fault = .monitorAbsent signal := by
          simpa [Monitors.remove?, Monitors.contains, hpoint, eq_comm] using herror
        obtain ⟨hmem, hspells⟩ := h.unmonitored_iff.2 ⟨point, hpoint, hname, hresolve⟩
        rw [hfault]
        exact .unmonitored hmem hspells
  · intro hrefused
    cases hrefused with
    | unknownRemoved hunknown =>
      obtain ⟨other, hresolve⟩ := h.exists_resolve_eq_error_iff.2 hunknown
      rw [removeMonitor, hresolve, resolve_eq_error hresolve]
    | unmonitored hmem hspells =>
      obtain ⟨point, hpoint, hname, hresolve⟩ := h.unmonitored_iff.1 ⟨hmem, hspells⟩
      rw [removeMonitor, hresolve]
      simp [Monitors.remove?, Monitors.contains, hpoint]

end Legible

/-- **Histories** are refused as monitors to be removed are. -/
theorem trace_eq_error_iff :
    session.trace signal = .error fault ↔ session.removeMonitor signal = .error fault := by
  rw [trace, removeMonitor]
  cases session.resolve signal with
  | error other => simp
  | ok point =>
    -- both ask for the monitor of the output
    have hiff : session.monitors.history? point = none ↔ session.monitors.remove? point = none := by
      simp [Monitors.history?, Monitors.remove?, Monitors.contains, Monitors.points]
    cases hhistory : session.monitors.history? point with
    | none => simp [hiff.1 hhistory, hhistory]
    | some history =>
      cases hremove : session.monitors.remove? point with
      | none =>
        rw [hiff.2 hremove] at hhistory
        cases hhistory
      | some monitors => simp [hhistory, hremove]

/-- Runs of cycles fail with oscillations only. -/
theorem execute_ne_error (h : session.Sound) (hcalm : ∀ cycle passes, fault ≠ .oscillating cycle passes)
    (cycles : Nat) : (session.execute cycles).2 ≠ .error fault := by
  intro herror
  exact hcalm _ _ (execute_eq_error h herror).1

/-- What an operation that fails leaves, unless it was a run. -/
theorem perform_of_error (h : session.Sound) {operation : Operation}
    (hfault : (session.perform operation).2 = .error fault)
    (hcalm : ∀ cycle passes, fault ≠ .oscillating cycle passes) :
    (session.perform operation).1 = session := by
  cases operation with
  | run cycles =>
    exact absurd hfault (execute_ne_error (preserved_sound.restart session h) hcalm cycles)
  | continueRun cycles =>
    rw [perform] at hfault ⊢
    by_cases hcold : session.cyclesCompleted = 0
    · rw [continueRun_unstarted hcold]
    · rw [continueRun_started hcold] at hfault
      exact absurd hfault (execute_ne_error h hcalm cycles)
  | setSwitch name level =>
    rw [perform] at hfault ⊢
    rw [accept_eq_error_iff.1 hfault]
    rfl
  | addMonitor signal =>
    rw [perform] at hfault ⊢
    rw [accept_eq_error_iff.1 hfault]
    rfl
  | removeMonitor signal =>
    rw [perform] at hfault ⊢
    rw [accept_eq_error_iff.1 hfault]
    rfl

/-- **Operations** fail for the reasons that are listed, or because the network oscillates. -/
theorem Legible.perform_eq_error_iff (h : session.Legible) {operation : Operation}
    (hcalm : ∀ cycle passes, fault ≠ .oscillating cycle passes) :
    (session.perform operation).2 = .error fault ↔ Refused session operation fault := by
  cases operation with
  | run cycles =>
    constructor
    · intro hfault
      exact absurd hfault
        (execute_ne_error (preserved_sound.restart session h.sound) hcalm cycles)
    · intro hrefused
      cases hrefused
  | continueRun cycles =>
    rw [perform]
    by_cases hcold : session.cyclesCompleted = 0
    · rw [continueRun_unstarted hcold]
      constructor
      · intro hfault
        cases hfault
        exact .unstarted hcold
      · intro hrefused
        cases hrefused
        rfl
    · rw [continueRun_started hcold]
      constructor
      · intro hfault
        exact absurd hfault (execute_ne_error h.sound hcalm cycles)
      · intro hrefused
        cases hrefused with
        | unstarted hunstarted => exact absurd hunstarted hcold
  | setSwitch name level =>
    rw [perform, accept_eq_error_iff, h.sound.setSwitch_eq_error_iff]
  | addMonitor signal =>
    rw [perform, accept_eq_error_iff, h.addMonitor_eq_error_iff]
  | removeMonitor signal =>
    rw [perform, accept_eq_error_iff, h.removeMonitor_eq_error_iff]

/-- A fault that changes in place end with is that of the change which is all or nothing. -/
theorem leaves_eq_error_iff {state : Type} {before after : state} {result : Except Fault state} :
    leaves before result = .error fault after ↔ result = .error fault ∧ after = before := by
  cases result with
  | ok _ => simp [leaves]
  | error other => simp [leaves, eq_comm]

theorem left_eq_error_iff {outcome : Session × Except Fault Unit} :
    left outcome = .error fault after ↔ outcome.2 = .error fault ∧ after = outcome.1 := by
  obtain ⟨left, fault | _⟩ := outcome
  · simp [Session.left, eq_comm]
  · simp [Session.left]

/-- **Refused exactly as listed, and without effect.** In every session that can be reached,

* an operation fails, other than by an oscillation, exactly for the reasons of `Refused`, and a history
  is refused exactly for the reasons for which its monitor would not be removed;
* an operation in place, in the order in which it checks and changes, fails with the same faults and
  leaves table, network, simulator and monitors as they were.

So do additions of devices, wires and monitors in place, in any network and with any monitors. -/
theorem refused_exactly (text : String) (fixedLimit : Option Nat) (operations : List Operation) :
    let session := (load text fixedLimit).1.performAll operations
    (∀ operation fault, (∀ cycle passes, fault ≠ .oscillating cycle passes) →
      ((session.perform operation).2 = .error fault ↔ Refused session operation fault) ∧
      (Refused session operation fault → (session.perform operation).1 = session) ∧
      ∀ after, operation.inPlace.run session = .error fault after ↔
        Refused session operation fault ∧ after = session) ∧
    (∀ signal fault,
      session.trace signal = .error fault ↔ Refused session (.removeMonitor signal) fault) ∧
    (∀ (net after : Network) id name kind fault,
      (Network.addDeviceInPlace id name kind).run net = .error fault after ↔
        net.addDevice id name kind = .error fault ∧ after = net) ∧
    (∀ (net after : Network) names source target fault,
      (Network.connectInPlace names source target).run net = .error fault after ↔
        net.connect names source target = .error fault ∧ after = net) ∧
    ∀ (monitors after : Monitors) names net point elapsed fault,
      (Monitors.addInPlace names net point elapsed).run monitors = .error fault after ↔
        monitors.add names net point elapsed = .error fault ∧ after = monitors := by
  intro session
  have h : session.Legible := legible_performAll text fixedLimit operations
  refine ⟨?_, ?_, ?_, ?_, ?_⟩
  · intro operation fault hcalm
    have hiff : (session.perform operation).2 = .error fault ↔ Refused session operation fault :=
      h.perform_eq_error_iff hcalm
    have hunchanged : Refused session operation fault → (session.perform operation).1 = session :=
      fun hrefused => perform_of_error h.sound (hiff.2 hrefused) hcalm
    refine ⟨hiff, hunchanged, fun after => ?_⟩
    rw [inPlace_eq, left_eq_error_iff, hiff]
    exact and_congr_right fun hrefused => by rw [hunchanged hrefused]
  · intro signal fault
    rw [trace_eq_error_iff, h.removeMonitor_eq_error_iff]
  · intro net after id name kind fault
    rw [Network.addDeviceInPlace_eq, leaves_eq_error_iff]
  · intro net after names source target fault
    rw [Network.connectInPlace_eq, leaves_eq_error_iff]
  · intro monitors after names net point elapsed fault
    rw [Monitors.addInPlace_eq, leaves_eq_error_iff]

/-- In the session with the late monitor, the gate is no switch, is monitored already, and has no output Q;
being told so leaves the session as it was. Before a run there is nothing to continue. -/
theorem refused_exactly_gatedLoop :
    let session := (load gatedLoop none).1.performAll lateMonitor
    session.cyclesCompleted = 3 ∧
    ((session.perform (.setSwitch "G" .high)).2 = .error (.notASwitch "G") ∧
      (session.perform (.setSwitch "G" .high)).1 = session) ∧
    Operation.inPlace (.addMonitor "G.") session = .error (.monitorPresent "G") session ∧
    (session.trace "G.Q" = .error (.unknownSignal "G.Q") ∧
      Refused session (.removeMonitor "G.Q") (.unknownSignal "G.Q")) ∧
    Operation.inPlace (.continueRun 1) (load gatedLoop none).1
      = .error .nothingToContinue (load gatedLoop none).1 := by
  -- one evaluation for all facts
  have hfacts : ((load gatedLoop none).1.performAll lateMonitor).cyclesCompleted = 3 ∧
      (((load gatedLoop none).1.performAll lateMonitor).perform (.setSwitch "G" .high)).2
        = .error (.notASwitch "G") ∧
      (((load gatedLoop none).1.performAll lateMonitor).perform (.addMonitor "G.")).2
        = .error (.monitorPresent "G") ∧
      ((load gatedLoop none).1.performAll lateMonitor).trace "G.Q" = .error (.unknownSignal "G.Q") ∧
      ((load gatedLoop none).1.perform (.continueRun 1)).2 = .error .nothingToContinue := by
    decide +kernel
  obtain ⟨hcount, hswitch, hpresent, htrace, hcontinue⟩ := hfacts
  obtain ⟨hoperations, htraces, -⟩ := refused_exactly gatedLoop none lateMonitor
  obtain ⟨hunstarted, -⟩ := refused_exactly gatedLoop none []
  have hswitch' := hoperations (.setSwitch "G" .high) (.notASwitch "G") (by simp)
  have hpresent' := hoperations (.addMonitor "G.") (.monitorPresent "G") (by simp)
  have hcontinue' := hunstarted (.continueRun 1) .nothingToContinue (by simp)
  exact ⟨hcount, ⟨hswitch, hswitch'.2.1 (hswitch'.1.1 hswitch)⟩,
    (hpresent'.2.2 _).2 ⟨hpresent'.1.1 hpresent, rfl⟩, ⟨htrace, (htraces _ _).1 htrace⟩,
    (hcontinue'.2.2 _).2 ⟨hcontinue'.1.1 hcontinue, rfl⟩⟩

end Session

end LogicCircuit
