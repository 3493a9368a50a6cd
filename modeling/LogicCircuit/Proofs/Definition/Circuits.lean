import LogicCircuit.Proofs.Definition.Scanning
import LogicCircuit.Proofs.Reachability

/-!
# Circuits — what reading builds, mistakes or not

A reading leaves a circuit also when the text is full of mistakes. Whatever the text, that circuit is
`Sound`: its network is put together device by device and wire by wire, each device goes by the name
that the table has for its handle, and what is monitored is an output of the network of which nothing
has been recorded.

What a statement may add is decided by two lists: the `roster` of the network, which only grows, and
the names in the table. `Circuit.sound_statement` is the step and `Circuit.sound_statements` the run.
-/

namespace LogicCircuit

/-! ## Rosters -/

namespace Network

variable {net after : Network} {table : NameTable}

/-- Handles, names and kinds of the devices, in definition order. -/
def roster (net : Network) : List (NameId × String × DeviceKind) :=
  net.devices.map fun device => (device.id, device.name, device.kind)

/-- The outputs that a device of the roster has. -/
def rosterOutputs (entry : NameId × String × DeviceKind) : List OutputRef :=
  entry.2.2.outputPorts.map fun port => ⟨entry.1, port⟩

/-- The outputs of a network can be told from its roster. -/
theorem outputs_eq_flatMap_roster : net.outputs = net.roster.flatMap rosterOutputs := by
  rw [roster, List.flatMap_map]
  rfl

theorem outputs_of_roster_eq (h : after.roster = net.roster) : after.outputs = net.outputs := by
  rw [outputs_eq_flatMap_roster, h, outputs_eq_flatMap_roster]

theorem size_of_roster_eq (h : after.roster = net.roster) : after.size = net.size := by
  have hlength := congrArg List.length h
  rwa [roster, roster, List.length_map, List.length_map] at hlength

/-- A change of states and wires leaves the roster. -/
theorem roster_map (change : Device → Device)
    (hchange : ∀ device, (change device).id = device.id ∧ (change device).name = device.name ∧
      (change device).kind = device.kind) :
    ({ devices := net.devices.map change } : Network).roster = net.roster := by
  rw [roster, roster, List.map_map]
  refine List.map_congr_left fun device _ => ?_
  obtain ⟨hid, hname, hkind⟩ := hchange device
  simp [hid, hname, hkind]

theorem roster_drawing (net : Network) : net.drawing.roster = net.roster := by
  refine roster_map _ fun device => ⟨rfl, rfl, ?_⟩
  show (Element.ofKind device.kind).kind = device.kind
  simp

theorem roster_of_drawing_eq (h : after.drawing = net.drawing) : after.roster = net.roster := by
  rw [← roster_drawing, h, roster_drawing]

/-- What has a display name is an output. -/
theorem mem_outputs_of_signalName? {output : OutputRef} {name : String}
    (h : net.signalName? output = some name) : output ∈ net.outputs := by
  simp only [signalName?, Option.bind_eq_some_iff] at h
  obtain ⟨device, hdevice, hname⟩ := h
  obtain ⟨hmem, hid⟩ := mem_of_device? hdevice
  split at hname
  · next houtput => exact mem_outputs_iff.2 ⟨device, hmem, hid, by simpa [Device.hasOutput] using houtput⟩
  · cases hname

/-- The devices go by the names that a table has for their handles. -/
def NamedBy (net : Network) (table : NameTable) : Prop :=
  ∀ entry ∈ net.roster, table.text? entry.1 = some entry.2.1

theorem roster_addDevice {id : NameId} {name : String} {kind : DeviceKind}
    (h : net.addDevice id name kind = .ok after) : after.roster = net.roster ++ [(id, name, kind)] := by
  obtain ⟨-, -, rfl⟩ := addDevice_eq_ok h
  simp [roster, Device.new, Device.kind]

/-- A wire is not on the roster. -/
theorem roster_connect {names : NameTable} {source : OutputRef} {target : InputRef}
    (h : net.connect names source target = .ok after) : after.roster = net.roster := by
  obtain ⟨_, _, _, _, _, _, _, rfl⟩ := connect_eq_ok h
  refine roster_map _ fun device => ?_
  split
  · exact ⟨rfl, rfl, rfl⟩
  · exact ⟨rfl, rfl, rfl⟩

end Network

/-! ## Monitors -/

/-- What is added, when an output can be monitored. -/
theorem Monitors.add_eq_ok {monitors after : Monitors} {names : NameTable} {net : Network}
    {point : OutputRef} {elapsed : Nat} (h : monitors.add names net point elapsed = .ok after) :
    point ∈ net.outputs ∧ point ∉ monitors.points ∧
      after = { entries := monitors.entries ++ [⟨point, Array.replicate elapsed .blank⟩] } := by
  unfold add at h
  split at h
  · split at h <;> cases h
  · next name hname =>
    split at h
    · cases h
    · next hnew =>
      cases h
      exact ⟨Network.mem_outputs_of_signalName? hname, by simpa [contains] using hnew, rfl⟩

namespace Definition

variable {table : NameTable} {circuit : Circuit} {input left : List Symbol}

/-! ## Soundness -/

/-- A circuit as reading leaves it. -/
structure Circuit.Sound (table : NameTable) (circuit : Circuit) : Prop where
  built : circuit.network.Built
  named : circuit.network.NamedBy table
  watched : ∀ monitor ∈ circuit.monitors.entries, monitor.point ∈ circuit.network.outputs
  unrecorded : ∀ monitor ∈ circuit.monitors.entries, monitor.history = #[]

theorem Circuit.sound_empty (table : NameTable) : Circuit.empty.Sound table where
  built := .empty
  named := by simp [Network.NamedBy, Network.roster, Circuit.empty, Network.empty]
  watched := by simp [Circuit.empty, Monitors.empty]
  unrecorded := by simp [Circuit.empty, Monitors.empty]

/-! ## Devices -/

/-- The names that a definition lists are in the table. -/
theorem text?_readNames {net : Network} {listed found : List (NameId × String)}
    (hinput : Known table input) (hlisted : ∀ entry ∈ listed, table.text? entry.1 = some entry.2)
    (h : readNames net listed input = .ok (found, left)) :
    ∀ entry ∈ found, table.text? entry.1 = some entry.2 := by
  induction input generalizing listed with
  | nil => cases h
  | cons symbol rest ih =>
    obtain ⟨kind, offset⟩ := symbol
    cases kind with
    | name text id =>
      have htext : table.text? id = some text :=
        NameTable.id?_eq_some_iff.1 (hinput _ List.mem_cons_self text id rfl)
      -- a name is listed under the handle of its symbol, which is that of its text
      have hlisted' : ∀ entry ∈ listed ++ [(id, text)], table.text? entry.1 = some entry.2 := by
        intro entry hentry
        rcases List.mem_append.1 hentry with hold | hnew
        · exact hlisted entry hold
        · rw [List.mem_singleton.1 hnew]
          exact htext
      rw [readNames] at h
      split at h
      · cases h
      · split at h
        · cases h
          exact hlisted'
        · exact ih (hinput.of_suffix (List.suffix_cons ..)) hlisted' h
    | _ => cases h

/-- A circuit stays sound when a known device joins its network. -/
theorem Circuit.sound_addDevice {net after : Network} {monitors : Monitors} {id : NameId}
    {name : String} {kind : DeviceKind} (h : Circuit.Sound table ⟨net, monitors⟩)
    (hname : table.text? id = some name) (hadd : net.addDevice id name kind = .ok after) :
    Circuit.Sound table ⟨after, monitors⟩ where
  built := .addDevice h.built hadd
  named := by
    intro entry hentry
    rw [Network.roster_addDevice hadd] at hentry
    rcases List.mem_append.1 hentry with hold | hnew
    · exact h.named entry hold
    · rw [List.mem_singleton.1 hnew]
      exact hname
  watched := by
    intro monitor hmonitor
    show monitor.point ∈ after.outputs
    rw [Network.outputs_eq_flatMap_roster, Network.roster_addDevice hadd, List.flatMap_append,
      ← Network.outputs_eq_flatMap_roster]
    exact List.mem_append_left _ (h.watched monitor hmonitor)
  unrecorded := h.unrecorded

/-- So it does with all devices of a definition, as far as they are added. -/
theorem Circuit.sound_addDevices {kind : DeviceKind} {monitors : Monitors}
    {listed : List (NameId × String)} {net : Network} (h : Circuit.Sound table ⟨net, monitors⟩)
    (hlisted : ∀ entry ∈ listed, table.text? entry.1 = some entry.2) :
    Circuit.Sound table ⟨(addDevices net kind listed).1, monitors⟩ := by
  induction listed generalizing net with
  | nil => exact h
  | cons entry rest ih =>
    obtain ⟨hentry, hrest⟩ := List.forall_mem_cons.1 hlisted
    unfold Definition.addDevices
    split
    · next hadd => exact ih (Circuit.sound_addDevice h hentry hadd) hrest
    · exact h

/-- A definition leaves a sound circuit. -/
theorem Circuit.sound_define (h : circuit.Sound table) (hinput : Known table input)
    (start : Place) :
    Circuit.Sound table { circuit with network := (define circuit.network start input).1 } := by
  unfold Definition.define
  split
  · exact h
  · next listed kind rest hdevices =>
    obtain ⟨middle, hnames, -⟩ := readDevices_parts.1 hdevices
    have hlisted : ∀ entry ∈ listed, table.text? entry.1 = some entry.2 :=
      text?_readNames hinput (by simp) hnames
    have hadded : Circuit.Sound table ⟨(addDevices circuit.network kind listed).1, _⟩ :=
      Circuit.sound_addDevices h hlisted
    -- whether all devices could be added or not, these are the ones that have been
    split
    · next hadd =>
      rw [hadd] at hadded
      exact hadded
    · next hadd =>
      rw [hadd] at hadded
      exact hadded

/-! ## Wires and monitors -/

/-- A connection leaves a sound circuit. -/
theorem Circuit.sound_connect (h : circuit.Sound table) (names : NameTable) :
    Circuit.Sound table { circuit with network := (connect names circuit.network input).1 } := by
  unfold Definition.connect
  split
  · exact h
  · split
    · next after hconnect =>
      have hroster := Network.roster_connect hconnect
      exact {
        built := .connect h.built hconnect
        named := by
          intro entry hentry
          rw [hroster] at hentry
          exact h.named entry hentry
        watched := by
          intro monitor hmonitor
          show monitor.point ∈ after.outputs
          rw [Network.outputs_of_roster_eq hroster]
          exact h.watched monitor hmonitor
        unrecorded := h.unrecorded }
    · exact h

/-- One more monitor leaves a sound circuit. -/
theorem Circuit.sound_watch {net : Network} {monitors after : Monitors} {names : NameTable}
    {point : OutputRef} (h : Circuit.Sound table ⟨net, monitors⟩)
    (hadd : monitors.add names net point 0 = .ok after) : Circuit.Sound table ⟨net, after⟩ := by
  obtain ⟨hpoint, -, rfl⟩ := Monitors.add_eq_ok hadd
  refine ⟨h.built, h.named, ?_, ?_⟩
  · intro monitor hmonitor
    rcases List.mem_append.1 hmonitor with hold | hnew
    · exact h.watched monitor hold
    · rw [List.mem_singleton.1 hnew]
      exact hpoint
  · intro monitor hmonitor
    rcases List.mem_append.1 hmonitor with hold | hnew
    · exact h.unrecorded monitor hold
    · rw [List.mem_singleton.1 hnew]
      rfl

/-- Monitors leave a sound circuit, as far as they are added. -/
theorem Circuit.sound_monitor {net : Network} {monitors : Monitors} {input : List Symbol}
    (h : Circuit.Sound table ⟨net, monitors⟩) (names : NameTable) :
    Circuit.Sound table ⟨net, (monitor names net monitors input).1⟩ := by
  rw [Definition.monitor]
  split
  · exact h
  · split
    · exact h
    · next hadd =>
      split
      · exact Circuit.sound_monitor (Circuit.sound_watch h hadd) names
      · exact Circuit.sound_watch h hadd
  termination_by input.length
  decreasing_by exact length_readOutput_lt (by assumption)

/-! ## Statements -/

/-- A statement, read to its end or not, leaves a sound circuit. -/
theorem Circuit.sound_statement {first : Symbol} {rest : List Symbol} (h : circuit.Sound table)
    (hinput : Known table rest) (names : NameTable) :
    (statement names circuit first rest).1.Sound table := by
  unfold Definition.statement
  split
  · exact Circuit.sound_define h hinput _
  · split
    · exact Circuit.sound_connect h names
    · split
      · exact Circuit.sound_monitor h names
      · exact h

/-- So does a run over all statements. -/
theorem Circuit.sound_statements {circuit : Circuit} {input : List Symbol}
    (h : circuit.Sound table) (hinput : Known table input) (names : NameTable) :
    (statements names circuit input).1.Sound table := by
  rw [statements.eq_def]
  split
  · exact h
  · next first rest =>
    split
    · exact h
    · next hend =>
      have hsuffix : (resume (statement names circuit first rest).2).2 <:+ rest :=
        resume_statement_suffix (Bool.eq_false_iff.2 hend)
      have hrest := hinput.of_suffix (List.suffix_cons first rest)
      have hshorter : (resume (statement names circuit first rest).2).2.length < rest.length + 1 :=
        Nat.lt_succ_of_le hsuffix.length_le
      have hstatement : (statement names circuit first rest).1.Sound table :=
        Circuit.sound_statement h hrest names
      -- each statement is read in the sound circuit that the ones in front of it have left
      exact Circuit.sound_statements hstatement (hrest.of_suffix hsuffix) names
  termination_by input.length

/-- **What reading builds is sound**, whatever the text. -/
theorem sound_readOnto {names : NameTable} {text : String}
    (h : circuit.Sound (readOnto names circuit text).names) :
    (readOnto names circuit text).circuit.Sound (readOnto names circuit text).names :=
  Circuit.sound_statements h (known_symbolsOf names circuit text) _

theorem sound_read (text : String) : (read text).circuit.Sound (read text).names :=
  sound_readOnto (Circuit.sound_empty _)

end Definition

end LogicCircuit
