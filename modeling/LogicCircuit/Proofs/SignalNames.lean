import LogicCircuit.Proofs.Definition.Identifiers
import LogicCircuit.Proofs.Observation

/-!
# Signal names — which names stand for which outputs

A signal is written as the name of its device, with a dot and a port behind it if the output has a name.
Reading takes a text apart at its first dot, so it gets back what was written because no device has a dot
in its name (`splitName_eq_iff`). But a text without a port and a text with an empty one are read alike:
an output without a name has a second spelling, its display name with a dot behind it (`Spells`).

* **`Legible`** — what is needed of a session for this: `legible_performAll` says that all sessions have it.
* **`resolves_spellings`** — a text is read as an output exactly if it spells its display name.
* **`lists_signals`** — the two lists of a session hold every display name once.
-/

namespace LogicCircuit

/-! ## Splitting -/

theorem OutputPort.ofName?_eq_some_iff {text : String} {port : OutputPort} :
    ofName? text = some port ↔ text = port.name := by
  constructor
  · unfold ofName?
    intro h
    split at h
    · next hmain => cases h; exact hmain
    · split at h
      · next hq => cases h; exact hq
      · split at h
        · next hqbar => cases h; exact hqbar
        · cases h
  · rintro rfl
    exact ofName?_name port

namespace Session

variable {name signal port : String}

/-- A text that reading takes for a display name: the name itself, or one without a dot with a dot behind
it. -/
def Spells (signal name : String) : Prop :=
  signal = name ∨ '.' ∉ name.toList ∧ signal = name ++ "."

/-- Reading up to a dot passes over a text without one. -/
theorem ne_dot_of_notMem {chars : List Char} (h : '.' ∉ chars) : ∀ c ∈ chars, decide (c ≠ '.') = true := by
  intro c hc
  apply decide_eq_true
  rintro rfl
  exact h hc

theorem splitName_of_notMem (h : '.' ∉ name.toList) : splitName name = (name, "") := by
  have hall := ne_dot_of_notMem h
  rw [splitName, List.takeWhile_eq_self_iff.2 hall, List.dropWhile_eq_nil_iff.2 hall]
  simp

theorem splitName_append (h : '.' ∉ name.toList) (port : String) :
    splitName (name ++ "." ++ port) = (name, port) := by
  have hall := ne_dot_of_notMem h
  have hchars : (name ++ "." ++ port).toList = name.toList ++ '.' :: port.toList := by simp
  rw [splitName, hchars, List.takeWhile_append_of_pos hall, List.dropWhile_append_of_pos hall]
  simp

/-- A text has no dot, or a first one. -/
theorem dot_cases (signal : String) : '.' ∉ signal.toList ∨
    ∃ front back : String, '.' ∉ front.toList ∧ signal = front ++ "." ++ back := by
  by_cases hdot : '.' ∈ signal.toList
  · -- the first dot splits the text, so there is none in front of it
    obtain ⟨front, back, hchars, hfront⟩ := List.eq_append_cons_of_mem hdot
    refine .inr ⟨.ofList front, .ofList back, by simpa using hfront, ?_⟩
    apply String.toList_inj.1
    simp [hchars]
  · exact .inl hdot

/-- **Splitting undoes joining.** A text is split into a name without a dot and a port exactly if it is the
two joined by a dot, or the name alone and the port is empty. -/
theorem splitName_eq_iff (h : '.' ∉ name.toList) : splitName signal = (name, port) ↔
    signal = name ∧ port = "" ∨ signal = name ++ "." ++ port := by
  constructor
  · intro hsplit
    -- a dot in the signal is a first one, and splitting is undone by joining there
    rcases dot_cases signal with hnone | ⟨front, back, hfront, rfl⟩
    · rw [splitName_of_notMem hnone, Prod.mk.injEq] at hsplit
      exact .inl ⟨hsplit.1, hsplit.2.symm⟩
    · rw [splitName_append hfront, Prod.mk.injEq] at hsplit
      rw [hsplit.1, hsplit.2]
      exact .inr rfl
  · rintro (⟨rfl, rfl⟩ | rfl)
    · exact splitName_of_notMem h
    · exact splitName_append h port

/-- **Spellings.** A text spells the display name of an output exactly if it is split into the names of the
device and of the port. -/
theorem spells_outputName_iff {device : Device} (h : '.' ∉ device.name.toList) (port : OutputPort) :
    Spells signal (device.outputName port) ↔ splitName signal = (device.name, port.name) := by
  rw [splitName_eq_iff h, Spells]
  -- a port without a name is spelled with and without the dot, the others with it
  cases port with
  | main =>
    have hname : device.outputName .main = device.name := by
      simp [Device.outputName, OutputPort.suffix]
    simp [hname, OutputPort.name, h]
  | q =>
    have hname : device.outputName .q = device.name ++ "." ++ "Q" := by
      simp [Device.outputName, OutputPort.suffix, String.append_assoc]
    simp [hname, OutputPort.name]
  | qbar =>
    have hname : device.outputName .qbar = device.name ++ "." ++ "QBAR" := by
      simp [Device.outputName, OutputPort.suffix, String.append_assoc]
    simp [hname, OutputPort.name]

end Session

/-! ## Display names -/

namespace Network

variable {net after : Network} {point : OutputRef} {name : String}

/-- An output that has a display name is one of a device with its port. -/
theorem signalName?_eq_some_iff : net.signalName? point = some name ↔
    ∃ device, net.device? point.device = some device ∧ point.port ∈ device.outputPorts ∧
      name = device.outputName point.port := by
  rw [signalName?, Option.bind_eq_some_iff]
  apply exists_congr
  intro device
  apply and_congr_right
  intro _
  by_cases hport : point.port ∈ device.outputPorts
  · simp [Device.hasOutput, hport, eq_comm]
  · simp [Device.hasOutput, hport]

/-- Every output has a display name. -/
theorem Distinct.exists_signalName? (hnet : net.Distinct) (hpoint : point ∈ net.outputs) :
    ∃ name, net.signalName? point = some name := by
  obtain ⟨device, hmem, hid, hport⟩ := mem_outputs_iff.1 hpoint
  exact ⟨_, signalName?_eq_some_iff.2 ⟨device, hnet.device?_eq_some_iff.2 ⟨hmem, hid⟩, hport, rfl⟩⟩

/-- Display names depend on the roster only. -/
theorem signalName?_of_roster_eq (h : after.roster = net.roster) :
    after.signalName? = net.signalName? := by
  -- an output is named by what the roster says about its device
  have hread : ∀ net : Network, ∀ point, net.signalName? point =
      (net.roster.find? fun entry => entry.1 = point.device).bind fun entry =>
        if entry.2.2.outputPorts.contains point.port then some (entry.2.1 ++ point.port.suffix)
        else none := by
    intro net point
    rw [roster, List.find?_map, Option.bind_map]
    rfl
  funext point
  rw [hread, h, ← hread]

/-- Outputs are listed once. -/
theorem Distinct.nodup_outputs (hnet : net.Distinct) : net.outputs.Nodup := by
  have hports : ∀ kind : DeviceKind, kind.outputPorts.Nodup := by
    intro kind
    cases kind <;> simp [DeviceKind.outputPorts]
  rw [outputs, List.nodup_flatMap]
  -- within a device by port, and between devices by handle
  constructor
  · intro device _
    apply (hports device.kind).map
    intro port other h
    exact (OutputRef.mk.inj h).2
  · apply (List.pairwise_map.1 hnet).imp
    intro device other hne point hpoint hpoint'
    obtain ⟨port, -, rfl⟩ := List.mem_map.1 hpoint
    obtain ⟨port', -, heq⟩ := List.mem_map.1 hpoint'
    exact hne (OutputRef.mk.inj heq).1.symm

end Network

/-! ## Legible sessions -/

namespace Session

variable {session after : Session} {signal name : String} {point : OutputRef}

/-- A session whose devices go by the identifiers that the table has for them, and that monitors no output
twice. -/
structure Legible (session : Session) : Prop where
  sound : session.Sound
  identifiers : ∀ entry ∈ session.network.roster, Definition.IsIdentifier entry.2.1
  nodup : session.monitors.points.Nodup

theorem legible_load (text : String) (fixedLimit : Option Nat) : (load text fixedLimit).1.Legible := by
  have h := Definition.readOnto_legible .empty text Definition.Circuit.legible_empty
    Network.wellFormed_empty
  exact ⟨sound_load text fixedLimit, h.identifiers, h.nodup⟩

theorem Legible.of_roster_eq (h : session.Legible) (hsound : after.Sound)
    (hroster : after.network.roster = session.network.roster) (hnodup : after.monitors.points.Nodup) :
    after.Legible := by
  refine ⟨hsound, ?_, hnodup⟩
  rw [hroster]
  exact h.identifiers

theorem roster_cycle (h : session.Sound) :
    session.cycle.1.network.roster = session.network.roster := by
  show session.cycle.1.simulator.network.roster = _
  rw [cycle_simulator]
  exact roster_step h.reachable

/-- Recording appends to histories and leaves which outputs are monitored. -/
theorem points_cycle (session : Session) :
    session.cycle.1.monitors.points = session.monitors.points := by
  rcases session.cycle_cases with ⟨simulator, -, -, hcycle⟩ | ⟨simulator, _, -, -, -, hcycle⟩
  · rw [hcycle]
    exact points_record session.monitors simulator.network
  · rw [hcycle]

theorem roster_restart (session : Session) :
    session.restart.network.roster = session.network.roster :=
  Network.roster_of_drawing_eq Network.drawing_coldStart

theorem points_restart (session : Session) :
    session.restart.monitors.points = session.monitors.points :=
  points_clear session.monitors

/-- A switch that is set is not seen in the roster, nor by the monitors. -/
theorem roster_setSwitch (h : session.Sound) {level : Level}
    (hset : session.setSwitch name level = .ok after) :
    after.network.roster = session.network.roster ∧ after.monitors = session.monitors := by
  obtain ⟨id, simulator, -, hsimulator, rfl⟩ := setSwitch_eq_ok hset
  exact ⟨roster_setSwitch? h.reachable hsimulator, rfl⟩

-- only additions need an argument about repetitions: an output is not added while it is monitored
theorem preserved_legible : Preserved Legible where
  cycle := by
    intro session h
    apply h.of_roster_eq (preserved_sound.cycle session h.sound) (roster_cycle h.sound)
    rw [points_cycle]
    exact h.nodup
  restart := by
    intro session h
    apply h.of_roster_eq (preserved_sound.restart session h.sound) session.roster_restart
    rw [points_restart]
    exact h.nodup
  setSwitch := by
    intro session after name level h hset
    obtain ⟨hroster, hmonitors⟩ := roster_setSwitch h.sound hset
    apply h.of_roster_eq (preserved_sound.setSwitch session after name level h.sound hset) hroster
    rw [hmonitors]
    exact h.nodup
  addMonitor := by
    intro session after signal h hadd
    have hsound := preserved_sound.addMonitor session after signal h.sound hadd
    obtain ⟨point, monitors, hmonitors, rfl⟩ := addMonitor_eq_ok hadd
    obtain ⟨-, hnew, rfl⟩ := Monitors.add_eq_ok hmonitors
    apply h.of_roster_eq hsound rfl
    rw [Monitors.points, List.map_append]
    exact h.nodup.append (List.nodup_singleton point) (by simpa using hnew)
  removeMonitor := by
    intro session after signal h hremove
    have hsound := preserved_sound.removeMonitor session after signal h.sound hremove
    obtain ⟨point, rfl⟩ := removeMonitor_eq_ok hremove
    apply h.of_roster_eq hsound rfl
    exact h.nodup.sublist ((List.filter_sublist).map Monitor.point)

/-- **Every session that can be reached is legible.** -/
theorem legible_performAll (text : String) (fixedLimit : Option Nat) (operations : List Operation) :
    ((load text fixedLimit).1.performAll operations).Legible :=
  preserved_legible.performAll operations (legible_load text fixedLimit)

/-! ## Resolving -/

/-- There is one reason why a text is not read. -/
theorem resolve_eq_error {fault : Fault} (h : session.resolve signal = .error fault) :
    fault = .unknownSignal signal := by
  -- both places where reading stops have the same fault
  rw [resolve] at h
  rcases hsplit : splitName signal with ⟨front, back⟩
  simp only [hsplit] at h
  split at h
  · split at h <;> cases h
    rfl
  · cases h
    rfl

/-- The display names of all outputs, in definition order. -/
def signalNames (session : Session) : List String :=
  session.network.outputs.filterMap session.network.signalName?

namespace Legible

theorem text?_id (h : session.Legible) {device : Device} (hmem : device ∈ session.network.devices) :
    session.names.text? device.id = some device.name :=
  h.sound.named _ (List.mem_map_of_mem hmem)

theorem isIdentifier (h : session.Legible) {device : Device}
    (hmem : device ∈ session.network.devices) : Definition.IsIdentifier device.name :=
  h.identifiers _ (List.mem_map_of_mem hmem)

/-- **Reading signals.** A text is read as an output exactly if it spells its display name. -/
theorem resolve_eq_ok_iff (h : session.Legible) : session.resolve signal = .ok point ↔
    ∃ name, session.network.signalName? point = some name ∧ Spells signal name := by
  constructor
  · intro hresolve
    rw [resolve] at hresolve
    rcases hsplit : splitName signal with ⟨front, back⟩
    simp only [hsplit] at hresolve
    -- the text has a device and a port, and the device has the port; otherwise there is a fault
    split at hresolve
    · next id port hid hport =>
      split at hresolve
      · next hnamed =>
        cases hresolve
        obtain ⟨name, hname⟩ := Option.isSome_iff_exists.1 hnamed
        obtain ⟨device, hdevice, houtput, rfl⟩ := Network.signalName?_eq_some_iff.1 hname
        obtain ⟨hmem, hsame⟩ := Network.mem_of_device? hdevice
        -- the table has one text for the handle
        have hfront : front = device.name := by
          have htext := h.text?_id hmem
          rw [hsame, NameTable.id?_eq_some_iff.1 hid] at htext
          exact Option.some.inj htext
        refine ⟨_, hname, (spells_outputName_iff (h.isIdentifier hmem).dot_notMem _).2 ?_⟩
        rw [hsplit, hfront, OutputPort.ofName?_eq_some_iff.1 hport]
      · cases hresolve
    · cases hresolve
  · rintro ⟨name, hname, hspells⟩
    obtain ⟨device, hdevice, houtput, rfl⟩ := Network.signalName?_eq_some_iff.1 hname
    obtain ⟨hmem, hsame⟩ := Network.mem_of_device? hdevice
    have hsplit := (spells_outputName_iff (h.isIdentifier hmem).dot_notMem _).1 hspells
    have hid : session.names.id? device.name = some point.device := by
      rw [NameTable.id?_eq_some_iff, ← hsame]
      exact h.text?_id hmem
    simp [resolve, hsplit, hid, hname]

theorem resolve_of_signalName? (h : session.Legible)
    (hname : session.network.signalName? point = some name) : session.resolve name = .ok point :=
  h.resolve_eq_ok_iff.2 ⟨name, hname, .inl rfl⟩

/-- Outputs are told apart by their display names. -/
theorem eq_of_signalName? (h : session.Legible) {other : OutputRef}
    (hname : session.network.signalName? point = some name)
    (hother : session.network.signalName? other = some name) : point = other := by
  have hsame := h.resolve_of_signalName? hname
  rw [h.resolve_of_signalName? hother] at hsame
  exact (Except.ok.inj hsame).symm

/-- Devices are told apart by their names, since the table has one handle for a text. -/
theorem nodup_names (h : session.Legible) : (session.network.devices.map Device.name).Nodup := by
  have hdevices : session.network.devices.Nodup := .of_map Device.id h.sound.reachable.distinct
  refine hdevices.map_on ?_
  intro device hmem other hmem' hname
  apply List.inj_on_of_nodup_map h.sound.reachable.distinct hmem hmem'
  have hid := NameTable.id?_eq_some_iff.2 (h.text?_id hmem)
  rw [hname, NameTable.id?_eq_some_iff.2 (h.text?_id hmem')] at hid
  exact (Option.some.inj hid).symm

/-! ### The two lists -/

theorem mem_monitoredNames_iff : name ∈ session.monitoredNames ↔
    ∃ point ∈ session.monitors.points, session.network.signalName? point = some name := by
  rw [monitoredNames, Monitors.monitoredNames, List.mem_filterMap]

theorem mem_unmonitoredNames_iff : name ∈ session.unmonitoredNames ↔
    ∃ point, point ∉ session.monitors.points ∧ session.network.signalName? point = some name := by
  rw [unmonitoredNames, Monitors.unmonitoredNames, List.mem_filterMap]
  apply exists_congr
  intro point
  rw [List.mem_filter]
  constructor
  · rintro ⟨⟨-, hpoint⟩, hname⟩
    exact ⟨by simpa [Monitors.contains] using hpoint, hname⟩
  · rintro ⟨hpoint, hname⟩
    exact ⟨⟨Network.mem_outputs_of_signalName? hname, by simpa [Monitors.contains] using hpoint⟩, hname⟩


/-- No display name is listed twice. -/
theorem nodup_signalNames (h : session.Legible) : session.signalNames.Nodup := by
  apply h.sound.reachable.distinct.nodup_outputs.filterMap
  intro point other name hname hother
  exact h.eq_of_signalName? hname hother

/-- No output is monitored twice, and outputs have different names. -/
theorem nodup_monitoredNames (h : session.Legible) : session.monitoredNames.Nodup := by
  apply h.nodup.filterMap
  intro point other name hname hother
  exact h.eq_of_signalName? hname hother

/-- A name is on the list of the monitored ones exactly if its output is monitored. -/
theorem mem_monitoredNames_of_signalName? (h : session.Legible)
    (hname : session.network.signalName? point = some name) :
    name ∈ session.monitoredNames ↔ point ∈ session.monitors.points := by
  rw [mem_monitoredNames_iff]
  constructor
  · rintro ⟨other, hother, hname'⟩
    rwa [h.eq_of_signalName? hname hname']
  · intro hpoint
    exact ⟨point, hpoint, hname⟩

/-- **The unmonitored names** are the names of all outputs without the monitored ones. -/
theorem unmonitoredNames_eq (h : session.Legible) : session.unmonitoredNames
    = session.signalNames.filter fun name => name ∉ session.monitoredNames := by
  rw [unmonitoredNames, Monitors.unmonitoredNames, signalNames, List.filterMap_filter,
    List.filter_filterMap]
  -- output by output: an output is left out exactly if its name is
  apply List.filterMap_congr
  intro point _
  cases hname : session.network.signalName? point with
  | none => simp
  | some name =>
    have hiff := h.mem_monitoredNames_of_signalName? hname
    by_cases hpoint : point ∈ session.monitors.points
    · simp [Monitors.contains, Option.filter, hpoint, hiff.2 hpoint]
    · simp [Monitors.contains, Option.filter, hpoint, mt hiff.1 hpoint]

/-- **The two lists together** hold every display name once. -/
theorem perm_names (h : session.Legible) :
    (session.monitoredNames ++ session.unmonitoredNames).Perm session.signalNames := by
  -- both lists have the same elements, and no repetitions
  have hmonitored : ∀ name ∈ session.monitoredNames, name ∈ session.signalNames := by
    intro name hmem
    obtain ⟨point, -, hname⟩ := mem_monitoredNames_iff.1 hmem
    exact List.mem_filterMap.2 ⟨point, Network.mem_outputs_of_signalName? hname, hname⟩
  have hperm : session.monitoredNames.Perm
      (session.signalNames.filter fun name => name ∈ session.monitoredNames) := by
    apply (List.perm_ext_iff_of_nodup h.nodup_monitoredNames (h.nodup_signalNames.filter _)).2
    intro name
    rw [List.mem_filter, decide_eq_true_eq]
    exact ⟨fun hmem => ⟨hmonitored name hmem, hmem⟩, fun hmem => hmem.2⟩
  -- what is monitored and what is not, put together, is everything
  rw [h.unmonitoredNames_eq]
  apply (hperm.append_right _).trans
  have hsplit := List.filter_append_perm (fun name => decide (name ∈ session.monitoredNames))
    session.signalNames
  simpa using hsplit

/-! ### Monitors that come and go -/

/-- What can be monitored is what a text is read as and is not monitored yet. It comes last. -/
theorem addMonitor_eq_ok_iff (h : session.Legible) : session.addMonitor signal = .ok after ↔
    ∃ point, session.resolve signal = .ok point ∧ point ∉ session.monitors.points ∧
      after = { session with monitors :=
        ⟨session.monitors.entries ++ [⟨point, Array.replicate session.cyclesCompleted .blank⟩]⟩ } := by
  rw [addMonitor]
  cases hresolve : session.resolve signal with
  | error fault => simp
  | ok point =>
    obtain ⟨name, hname, -⟩ := h.resolve_eq_ok_iff.1 hresolve
    by_cases hpoint : point ∈ session.monitors.points
    · simp [Monitors.add, hname, Monitors.contains, hpoint]
    · simp [Monitors.add, hname, Monitors.contains, hpoint, eq_comm]

/-- What can be removed is what a text is read as and is monitored. -/
theorem removeMonitor_eq_ok_iff : session.removeMonitor signal = .ok after ↔
    ∃ point, session.resolve signal = .ok point ∧ point ∈ session.monitors.points ∧
      after = { session with monitors :=
        ⟨session.monitors.entries.filter fun monitor => monitor.point ≠ point⟩ } := by
  rw [removeMonitor]
  cases hresolve : session.resolve signal with
  | error fault => simp
  | ok point =>
    by_cases hpoint : point ∈ session.monitors.points
    · simp [Monitors.remove?, Monitors.contains, hpoint, eq_comm]
    · simp [Monitors.remove?, Monitors.contains, hpoint]

/-- What can be added is what spells a name on the second list. -/
theorem exists_addMonitor_iff (h : session.Legible) :
    (∃ after, session.addMonitor signal = .ok after) ↔
      ∃ name ∈ session.unmonitoredNames, Spells signal name := by
  constructor
  · rintro ⟨after, hafter⟩
    obtain ⟨point, hresolve, hnew, -⟩ := h.addMonitor_eq_ok_iff.1 hafter
    obtain ⟨name, hname, hspells⟩ := h.resolve_eq_ok_iff.1 hresolve
    exact ⟨name, mem_unmonitoredNames_iff.2 ⟨point, hnew, hname⟩, hspells⟩
  · rintro ⟨name, hmem, hspells⟩
    obtain ⟨point, hnew, hname⟩ := mem_unmonitoredNames_iff.1 hmem
    exact ⟨_, h.addMonitor_eq_ok_iff.2
      ⟨point, h.resolve_eq_ok_iff.2 ⟨name, hname, hspells⟩, hnew, rfl⟩⟩

/-- What can be removed is what spells a name on the first list. -/
theorem exists_removeMonitor_iff (h : session.Legible) :
    (∃ after, session.removeMonitor signal = .ok after) ↔
      ∃ name ∈ session.monitoredNames, Spells signal name := by
  constructor
  · rintro ⟨after, hafter⟩
    obtain ⟨point, hresolve, hold, -⟩ := removeMonitor_eq_ok_iff.1 hafter
    obtain ⟨name, hname, hspells⟩ := h.resolve_eq_ok_iff.1 hresolve
    exact ⟨name, mem_monitoredNames_iff.2 ⟨point, hold, hname⟩, hspells⟩
  · rintro ⟨name, hmem, hspells⟩
    obtain ⟨point, hold, hname⟩ := mem_monitoredNames_iff.1 hmem
    exact ⟨_, removeMonitor_eq_ok_iff.2
      ⟨point, h.resolve_eq_ok_iff.2 ⟨name, hname, hspells⟩, hold, rfl⟩⟩

/-- A monitor that is added is listed last. -/
theorem monitoredNames_addMonitor (h : session.Legible) (hafter : session.addMonitor signal = .ok after) :
    ∃ name ∈ session.unmonitoredNames, Spells signal name ∧
      after.monitoredNames = session.monitoredNames ++ [name] := by
  obtain ⟨point, hresolve, hnew, rfl⟩ := h.addMonitor_eq_ok_iff.1 hafter
  obtain ⟨name, hname, hspells⟩ := h.resolve_eq_ok_iff.1 hresolve
  refine ⟨name, mem_unmonitoredNames_iff.2 ⟨point, hnew, hname⟩, hspells, ?_⟩
  simp only [monitoredNames, Monitors.monitoredNames, Monitors.points, List.map_append,
    List.filterMap_append]
  -- the names of those monitored before stay in front
  congr 1
  show [point].filterMap session.network.signalName? = [name]
  simp [hname]

/-- A monitor that is removed leaves the others in their order. -/
theorem monitoredNames_removeMonitor (h : session.Legible)
    (hafter : session.removeMonitor signal = .ok after) :
    ∃ name ∈ session.monitoredNames, Spells signal name ∧
      after.monitoredNames = session.monitoredNames.filter fun other => other ≠ name := by
  obtain ⟨point, hresolve, hold, rfl⟩ := removeMonitor_eq_ok_iff.1 hafter
  obtain ⟨name, hname, hspells⟩ := h.resolve_eq_ok_iff.1 hresolve
  refine ⟨name, mem_monitoredNames_iff.2 ⟨point, hold, hname⟩, hspells, ?_⟩
  -- what is left out by output is left out by name, as outputs are told apart by their names
  have hpoints : (session.monitors.entries.filter fun monitor => monitor.point ≠ point).map
      Monitor.point = session.monitors.points.filter fun other => other ≠ point := by
    rw [Monitors.points, List.filter_map]
    rfl
  show List.filterMap session.network.signalName? (List.map Monitor.point _) = List.filter _
    (List.filterMap session.network.signalName? session.monitors.points)
  rw [hpoints, List.filterMap_filter, List.filter_filterMap]
  apply List.filterMap_congr
  intro other _
  cases hother : session.network.signalName? other with
  | none => simp
  | some name' =>
    by_cases hsame : other = point
    · rw [hsame, hname] at hother
      simp [Option.filter, hsame, Option.some.inj hother]
    · have hne : name' ≠ name := by
        rintro rfl
        exact hsame (h.eq_of_signalName? hother hname)
      simp [Option.filter, hsame, hne]

end Legible

/-! ### Operations that simulate -/

/-- Cycles move neither names nor monitors, whether they are completed or not. -/
theorem execute_keeps (h : session.Sound) (cycles : Nat) :
    (session.execute cycles).1.network.roster = session.network.roster ∧
      (session.execute cycles).1.monitors.points = session.monitors.points := by
  induction cycles generalizing session with
  | zero => exact ⟨rfl, rfl⟩
  | succ cycles ih =>
    rcases session.cycle_result with ⟨hok, -⟩ | ⟨herror, -⟩
    · obtain ⟨hroster, hpoints⟩ := ih (preserved_sound.cycle session h)
      rw [execute_of_cycle_ok hok]
      exact ⟨hroster.trans (roster_cycle h), hpoints.trans session.points_cycle⟩
    · rw [execute_of_cycle_error herror]
      exact ⟨roster_cycle h, session.points_cycle⟩

/-- What does not concern monitors leaves what there is to monitor, and what is monitored. -/
theorem perform_keeps (h : session.Sound) {operation : Operation} (hsimulates : operation.simulates) :
    (session.perform operation).1.network.roster = session.network.roster ∧
      (session.perform operation).1.monitors.points = session.monitors.points := by
  cases operation with
  -- the clearing of a restart, and then the cycles
  | run cycles =>
    obtain ⟨hroster, hpoints⟩ := execute_keeps (preserved_sound.restart session h) cycles
    exact ⟨hroster.trans session.roster_restart, hpoints.trans session.points_restart⟩
  | continueRun cycles =>
    rw [perform, continueRun]
    split
    · exact ⟨rfl, rfl⟩
    · exact execute_keeps h cycles
  | setSwitch name level =>
    rw [perform]
    cases hset : session.setSwitch name level with
    | error fault => exact ⟨rfl, rfl⟩
    | ok after =>
      obtain ⟨hroster, hmonitors⟩ := roster_setSwitch h hset
      exact ⟨hroster, congrArg Monitors.points hmonitors⟩
  | addMonitor signal => cases hsimulates
  | removeMonitor signal => cases hsimulates

/-- So the list of the monitored names stays as it is. -/
theorem monitoredNames_perform (h : session.Sound) {operation : Operation}
    (hsimulates : operation.simulates) :
    (session.perform operation).1.monitoredNames = session.monitoredNames := by
  obtain ⟨hroster, hpoints⟩ := perform_keeps h hsimulates
  rw [monitoredNames, Monitors.monitoredNames, hpoints, Network.signalName?_of_roster_eq hroster]
  rfl

/-! ## Names and outputs -/

/-- A name without a dot is that of an output without a name. -/
theorem Legible.dot_notMem_iff (h : session.Legible)
    (hname : session.network.signalName? point = some name) :
    '.' ∉ name.toList ↔ point.port = .main := by
  obtain ⟨device, hdevice, -, rfl⟩ := Network.signalName?_eq_some_iff.1 hname
  -- a dot can only come from the port, as an identifier has none
  have hdot := (h.isIdentifier (Network.mem_of_device? hdevice).1).dot_notMem
  cases hport : point.port with
  | main => simp [Device.outputName, OutputPort.suffix, hdot]
  | q => simp [Device.outputName, OutputPort.suffix]
  | qbar => simp [Device.outputName, OutputPort.suffix]

/-- **Signals are read as they are spelled.** In every session, a text is read as an output exactly if it is
its display name or, for an output without a name, its display name with a dot behind it. Every other text
is an unknown signal, which can neither be monitored nor removed nor traced. -/
theorem resolves_spellings (text : String) (fixedLimit : Option Nat) (operations : List Operation)
    (signal : String) :
    let session := (load text fixedLimit).1.performAll operations
    (∀ point, session.resolve signal = .ok point ↔
      ∃ name, session.network.signalName? point = some name ∧
        (signal = name ∨ point.port = .main ∧ signal = name ++ ".")) ∧
    ((∀ point, session.resolve signal ≠ .ok point) →
      session.resolve signal = .error (.unknownSignal signal) ∧
      session.addMonitor signal = .error (.unknownSignal signal) ∧
      session.removeMonitor signal = .error (.unknownSignal signal) ∧
      session.trace signal = .error (.unknownSignal signal)) := by
  intro session
  have h : session.Legible := legible_performAll text fixedLimit operations
  constructor
  · intro point
    rw [h.resolve_eq_ok_iff]
    apply exists_congr
    intro name
    apply and_congr_right
    -- whether the name has a dot is whether the output has a name
    intro hname
    rw [Spells, h.dot_notMem_iff hname]
  · intro hunread
    have herror : session.resolve signal = .error (.unknownSignal signal) := by
      cases hresolve : session.resolve signal with
      | error fault => rw [resolve_eq_error hresolve]
      | ok point => exact absurd hresolve (hunread point)
    -- every operation that takes a signal reads it first
    refine ⟨herror, ?_, ?_, ?_⟩
    · rw [addMonitor, herror]
    · rw [removeMonitor, herror]
    · rw [trace, herror]

/-- A switch, and nothing else. -/
def loneSwitch : String :=
  "define A as SWITCH 0 state; END"

/-- Its output has a second spelling. -/
theorem resolves_undisplayed :
    let session := (load loneSwitch none).1
    ∃ point, session.resolve "A." = .ok point ∧ session.network.signalName? point = some "A" ∧
      "A." ≠ "A" := by
  intro session
  exact ⟨⟨⟨27⟩, .main⟩, by decide +kernel⟩

/-- **Signals are listed by their names.** In every session, devices have different names, which are
identifiers and the texts that the table has for their handles. The two lists of a session hold the display
names of all outputs, each once: the monitored ones in the order in which they were added, and the others
in definition order. Every name on the lists is read as the output it is the name of. What can be added to
the monitors is what spells a name on the second list, and what can be removed is what spells one on the
first. -/
theorem lists_signals (text : String) (fixedLimit : Option Nat) (operations : List Operation) :
    let session := (load text fixedLimit).1.performAll operations
    ((session.network.devices.map Device.name).Nodup ∧
      ∀ device ∈ session.network.devices, Definition.IsIdentifier device.name ∧
        session.names.text? device.id = some device.name) ∧
    (session.signalNames.Nodup ∧
      (session.monitoredNames ++ session.unmonitoredNames).Perm session.signalNames ∧
      session.monitoredNames = session.monitors.points.filterMap session.network.signalName? ∧
      session.unmonitoredNames
        = session.signalNames.filter fun name => name ∉ session.monitoredNames) ∧
    (∀ point ∈ session.network.outputs, ∃ name, session.network.signalName? point = some name ∧
      session.resolve name = .ok point) ∧
    ((∀ (monitors after : Monitors) names net point elapsed,
        monitors.add names net point elapsed = .ok after → after.points = monitors.points ++ [point]) ∧
      (∀ operation : Operation, operation.simulates →
        (session.perform operation).1.monitoredNames = session.monitoredNames) ∧
      (∀ signal after, session.addMonitor signal = .ok after →
        ∃ name ∈ session.unmonitoredNames, Spells signal name ∧
          after.monitoredNames = session.monitoredNames ++ [name]) ∧
      ∀ signal after, session.removeMonitor signal = .ok after →
        ∃ name ∈ session.monitoredNames, Spells signal name ∧
          after.monitoredNames = session.monitoredNames.filter fun other => other ≠ name) ∧
    ∀ signal,
      ((∃ after, session.addMonitor signal = .ok after) ↔
        ∃ name ∈ session.unmonitoredNames, Spells signal name) ∧
      ((∃ after, session.removeMonitor signal = .ok after) ↔
        ∃ name ∈ session.monitoredNames, Spells signal name) := by
  intro session
  have h : session.Legible := legible_performAll text fixedLimit operations
  refine ⟨⟨h.nodup_names, ?_⟩, ⟨h.nodup_signalNames, h.perm_names, rfl, h.unmonitoredNames_eq⟩, ?_,
    ⟨?_, ?_, ?_, ?_⟩, ?_⟩
  · intro device hmem
    exact ⟨h.isIdentifier hmem, h.text?_id hmem⟩
  · intro point hpoint
    obtain ⟨name, hname⟩ := h.sound.reachable.distinct.exists_signalName? hpoint
    exact ⟨name, hname, h.resolve_of_signalName? hname⟩
  · intro monitors after names net point elapsed hadd
    obtain ⟨-, -, rfl⟩ := Monitors.add_eq_ok hadd
    exact List.map_append
  · intro operation
    exact monitoredNames_perform h.sound
  · intro signal after
    exact h.monitoredNames_addMonitor
  · intro signal after
    exact h.monitoredNames_removeMonitor
  · intro signal
    exact ⟨h.exists_addMonitor_iff, h.exists_removeMonitor_iff⟩

/-- A text that is on neither list can be monitored. -/
theorem lists_signals_unlisted :
    let session := (load loneSwitch none).1
    session.unmonitoredNames = ["A"] ∧ session.monitoredNames = [] ∧
      ∃ after, session.addMonitor "A." = .ok after ∧ after.monitoredNames = ["A"] := by
  intro session
  have hlists : session.unmonitoredNames = ["A"] ∧ session.monitoredNames = [] ∧
      (session.addMonitor "A.").toOption.map monitoredNames = some ["A"] := by
    decide +kernel
  obtain ⟨hunmonitored, hmonitored, hadded⟩ := hlists
  refine ⟨hunmonitored, hmonitored, ?_⟩
  cases hadd : session.addMonitor "A." with
  | error fault =>
    rw [hadd] at hadded
    cases hadded
  | ok after =>
    rw [hadd] at hadded
    exact ⟨after, rfl, Option.some.inj hadded⟩

end Session

end LogicCircuit
