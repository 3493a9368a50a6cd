import LogicCircuit.Proofs.Definition.Circuits
import Mathlib.Data.List.Perm.Basic

/-!
# Integrity — networks that are put together and simulated

Wires are kept at the devices they end at, and name the outputs they come from. So a network is only in
order if what is written at one device agrees with what there is at another. It is, in whatever order
devices are added, wires drawn, switches set, cycles run and cold starts made, refused or not:

* **`WellFormed`** — the invariant. It is a matter of the drawing (`WellFormed.of_drawing_eq`), so what
  moves states keeps it; adding a device (`WellFormed.addDevice`) and drawing a wire
  (`WellFormed.connect`) are the two steps that have something to show.
* **`Extends`** — what is built upon: devices stay, in their order, and wires stay where they end.
* **`perm_inputs`** — every input is at the end of a wire or floating.
* **`performAll_integrity`** — all of it for every sequence of operations, with the condition under which
  a wire can be drawn.
-/

namespace LogicCircuit

/-! ## Kinds -/

namespace DeviceKind

variable {kind : DeviceKind}

/-- The qualifiers that devices can have: gates have 1 to 16 inputs, XOR gates have 2, and clocks hold
each level for some time. -/
def Legal : DeviceKind → Prop
  | gate op inputs => 1 ≤ inputs ∧ inputs ≤ 16 ∧ (op = .xor → inputs = 2)
  | clock halfPeriod => 1 ≤ halfPeriod
  | switch _ | dtype | siggen _ => True

/-- The qualifiers that are accepted are the legal ones. -/
theorem legal_of_badQualifier? (h : kind.badQualifier? = none) : kind.Legal := by
  cases kind with
  | gate op inputs =>
    have hrange : ¬ (inputs = 0 ∨ maxGateInputs < inputs) := by
      intro hrange
      rw [badQualifier?, if_pos hrange] at h
      cases h
    have hxor : ¬ (op = .xor ∧ inputs ≠ 2) := by
      intro hxor
      rw [badQualifier?, if_neg hrange, if_pos hxor] at h
      cases h
    rw [maxGateInputs] at hrange
    refine ⟨by omega, by omega, fun hop => ?_⟩
    by_contra hinputs
    exact hxor ⟨hop, hinputs⟩
  | clock halfPeriod =>
    refine Nat.pos_of_ne_zero fun hzero => ?_
    rw [badQualifier?, if_pos hzero] at h
    cases h
  | _ => trivial

/-- No kind declares an input twice. -/
theorem nodup_inputPorts (kind : DeviceKind) : kind.inputPorts.Nodup := by
  cases kind with
  | gate op inputs =>
    refine List.nodup_range.map fun first second h => ?_
    simpa using h
  | dtype => decide
  | _ => exact List.nodup_nil

end DeviceKind

/-! ## Devices -/

namespace Device

variable {device : Device} {port : InputPort} {source : OutputRef}

/-- The device with its wires taken away. -/
def unwired (device : Device) : Device :=
  { device with drivers := device.drivers.map fun (port, _) => (port, none) }

/-- What drives an input is what stands beside it. -/
theorem driver?_eq_some_iff (hnodup : device.inputPorts.Nodup) :
    device.driver? port = some source ↔ (port, some source) ∈ device.drivers := by
  rw [driver?, Option.join_eq_some_iff, List.lookup_eq_some_iff]
  constructor
  · rintro ⟨before, rest, hdrivers, -⟩
    simp [hdrivers]
  · intro h
    obtain ⟨before, rest, hdrivers⟩ := List.append_of_mem h
    refine ⟨before, rest, hdrivers, fun entry hentry => ?_⟩
    -- an earlier entry of the same port would be a double
    rw [inputPorts, hdrivers, List.map_append, List.map_cons] at hnodup
    have hearlier : entry.1 ∈ before.map Prod.fst := List.mem_map_of_mem hentry
    have hne : entry.1 ≠ port := fun heq =>
      List.disjoint_of_nodup_append hnodup hearlier (heq ▸ List.mem_cons_self)
    simpa using hne.symm

theorem inputPorts_wire : (device.wire port source).inputPorts = device.inputPorts := by
  simp [inputPorts, wire]

theorem unwired_wire : (device.wire port source).unwired = device.unwired := by
  simp [unwired, wire]

/-- A new wire drives the input it ends at, and no other. -/
theorem driver?_wire (hport : port ∈ device.inputPorts) (other : InputPort) :
    (device.wire port source).driver? other
      = if other = port then some source else device.driver? other := by
  have hlookup : ∀ drivers : List (InputPort × Option OutputRef),
      (drivers.map fun (declared, driver) =>
        (declared, if declared = port then some source else driver)).lookup other
      = (drivers.lookup other).map fun driver => if other = port then some source else driver := by
    -- the drivers are gone through as the lookup does
    intro drivers
    induction drivers with
    | nil => rfl
    | cons entry rest ih =>
      obtain ⟨declared, driver⟩ := entry
      simp only [List.map_cons, List.lookup_cons]
      split
      · next h =>
        have hsame : other = declared := by simpa using h
        rw [hsame, Option.map_some]
      · exact ih
  rw [driver?, driver?, wire, hlookup]
  -- the input that is wired is one of the device, so it is found
  by_cases h : other = port
  · subst h
    obtain ⟨entry, hentry, rfl⟩ := List.mem_map.1 hport
    have hsome : (device.drivers.lookup entry.1).isSome :=
      List.lookup_isSome_iff.2 ⟨entry, hentry, by simp⟩
    obtain ⟨driver, hdriver⟩ := Option.isSome_iff_exists.1 hsome
    simp [hdriver]
  · simp [h]

/-- Each input is at the end of a wire or floating. -/
theorem perm_inputs (id : NameId) (drivers : List (InputPort × Option OutputRef)) :
    ((drivers.filterMap fun (port, driver) =>
        driver.map fun source => (⟨source, ⟨id, port⟩⟩ : Connection)).map Connection.target ++
      drivers.filterMap fun (port, driver) =>
        if driver.isNone then some (⟨id, port⟩ : InputRef) else none).Perm
      (drivers.map fun (port, _) => ⟨id, port⟩) := by
  -- one input after the other, which goes to the one list or to the other
  induction drivers with
  | nil => exact .nil
  | cons entry rest ih =>
    obtain ⟨port, driver⟩ := entry
    cases driver with
    | none => simpa using List.perm_middle.trans (ih.cons _)
    | some source => simpa using ih

end Device

/-! ## Networks -/

namespace Network

variable {net after later : Network} {id : NameId}

/-- The inputs of all devices, in definition order. -/
def inputs (net : Network) : List InputRef :=
  net.devices.flatMap fun device => device.inputPorts.map fun port => ⟨device.id, port⟩

/-- The network with its wires taken away. -/
def unwired (net : Network) : Network :=
  { devices := net.devices.map Device.unwired }

/-- A network in order: no handle is taken twice, devices declare the inputs of their kinds, which are
legal, and wires come from outputs that exist. -/
structure WellFormed (net : Network) : Prop where
  distinct : net.Distinct
  legal : ∀ device ∈ net.devices, device.kind.Legal
  declared : ∀ device ∈ net.devices, device.inputPorts = device.kind.inputPorts
  driven : ∀ input source, net.driver? input = some source → source ∈ net.outputs

theorem WellFormed.nodup_inputPorts (h : net.WellFormed) {device : Device}
    (hmem : device ∈ net.devices) : device.inputPorts.Nodup := by
  rw [h.declared device hmem]
  exact device.kind.nodup_inputPorts

/-! ### Inputs and wires -/

/-- **Every input is at the end of a wire or floating**, and never both. -/
theorem perm_inputs (net : Network) :
    (net.connections.map Connection.target ++ net.floating).Perm net.inputs := by
  rw [connections, floating, inputs, List.map_flatMap]
  refine (List.flatMap_append_perm _ _ _).trans (List.Perm.flatMap_left _ fun device _ => ?_)
  rw [Device.inputPorts, List.map_map]
  exact Device.perm_inputs device.id device.drivers

/-- No input is named twice. -/
theorem WellFormed.nodup_inputs (h : net.WellFormed) : net.inputs.Nodup := by
  rw [inputs, List.nodup_flatMap]
  constructor
  · intro device hmem
    refine (h.nodup_inputPorts hmem).map fun first second heq => ?_
    exact (InputRef.mk.inj heq).2
  · -- inputs of different devices have different handles
    have hpairwise : net.devices.Pairwise fun device other => device.id ≠ other.id :=
      List.pairwise_map.1 h.distinct
    refine hpairwise.imp fun {device other} hne input hinput hother => hne ?_
    obtain ⟨_, -, rfl⟩ := List.mem_map.1 hinput
    obtain ⟨_, -, heq⟩ := List.mem_map.1 hother
    exact (InputRef.mk.inj heq).1.symm

/-- An input is a device with one of its ports. -/
theorem mem_inputs_iff {input : InputRef} : input ∈ net.inputs ↔
    ∃ device ∈ net.devices, device.id = input.device ∧ input.port ∈ device.inputPorts := by
  simp only [inputs, List.mem_flatMap, List.mem_map]
  constructor
  · rintro ⟨device, hmem, port, hport, rfl⟩
    exact ⟨device, hmem, rfl, hport⟩
  · rintro ⟨device, hmem, hid, hport⟩
    exact ⟨device, hmem, input.port, hport, by rw [hid]⟩

/-- The wires of a network, input by input. -/
theorem WellFormed.mem_connections_iff (h : net.WellFormed) {wire : Connection} :
    wire ∈ net.connections ↔ net.driver? wire.target = some wire.source := by
  obtain ⟨source, target⟩ := wire
  -- a wire in the list is an entry beside an input
  have hmem : (⟨source, target⟩ : Connection) ∈ net.connections ↔
      ∃ device ∈ net.devices, device.id = target.device ∧
        (target.port, some source) ∈ device.drivers := by
    obtain ⟨id, port⟩ := target
    simp only [connections, List.mem_flatMap, List.mem_filterMap, Option.map_eq_some_iff,
      Connection.mk.injEq, InputRef.mk.injEq, Prod.exists]
    constructor
    · rintro ⟨device, hmem, _, _, hdriver, _, rfl, rfl, rfl, rfl⟩
      exact ⟨device, hmem, rfl, hdriver⟩
    · rintro ⟨device, hmem, rfl, hdriver⟩
      exact ⟨device, hmem, port, some source, hdriver, source, rfl, rfl, rfl, rfl⟩
  rw [hmem, driver?, Option.bind_eq_some_iff]
  constructor
  · rintro ⟨device, hdevice, hid, hdriver⟩
    exact ⟨device, h.distinct.device?_eq_some_iff.2 ⟨hdevice, hid⟩,
      (Device.driver?_eq_some_iff (h.nodup_inputPorts hdevice)).2 hdriver⟩
  · rintro ⟨device, hdevice, hdriver⟩
    obtain ⟨hmem, hid⟩ := mem_of_device? hdevice
    exact ⟨device, hmem, hid,
      (Device.driver?_eq_some_iff (h.nodup_inputPorts hmem)).1 hdriver⟩

/-! ### What moves states only -/

/-- Wires are part of the drawing. -/
theorem driver?_of_drawing_eq (h : after.drawing = net.drawing) (input : InputRef) :
    after.driver? input = net.driver? input := by
  have hdrawing : ∀ net : Network, net.drawing.driver? input = net.driver? input := by
    intro net
    rw [driver?, driver?, device?_drawing, Option.bind_map]
    rfl
  rw [← hdrawing, h, hdrawing]

/-- Whether a network is in order can be read off its drawing. -/
theorem WellFormed.of_drawing_eq (hnet : net.WellFormed) (h : after.drawing = net.drawing) :
    after.WellFormed := by
  -- part by part, what the condition asks for can be seen in the drawing
  constructor
  · exact hnet.distinct.of_drawing_eq h
  · intro device hmem
    obtain ⟨found, hfound, hdrawn⟩ := exists_mem_of_drawing_eq h hmem
    obtain ⟨-, -, -, hkind⟩ := Device.drawn_eq_iff.1 hdrawn
    rw [← hkind]
    exact hnet.legal found hfound
  · intro device hmem
    obtain ⟨found, hfound, hdrawn⟩ := exists_mem_of_drawing_eq h hmem
    obtain ⟨-, -, hdrivers, hkind⟩ := Device.drawn_eq_iff.1 hdrawn
    rw [Device.inputPorts, ← hdrivers, ← hkind]
    exact hnet.declared found hfound
  · intro input source hdriver
    rw [driver?_of_drawing_eq h] at hdriver
    rw [outputs_of_roster_eq (roster_of_drawing_eq h)]
    exact hnet.driven input source hdriver

/-! ### Adding devices -/

section AddDevice

variable {name : String} {kind : DeviceKind}

/-- A new device has no wires. -/
theorem driver?_addDevice (h : net.addDevice id name kind = .ok after) (input : InputRef) :
    after.driver? input = net.driver? input := by
  obtain ⟨hfree, -, rfl⟩ := addDevice_eq_ok h
  -- the inputs of a new device are all without drivers
  have hnew : ∀ port, (Device.new id name kind).driver? port = none := by
    intro port
    by_contra hdriver
    obtain ⟨source, hsource⟩ := Option.ne_none_iff_exists'.1 hdriver
    have hnodup : (Device.new id name kind).inputPorts.Nodup := by
      simpa [Device.inputPorts, Device.new, Function.comp_def] using kind.nodup_inputPorts
    simpa [Device.new] using (Device.driver?_eq_some_iff hnodup).1 hsource
  rw [driver?, driver?, device?, device?, List.find?_append, List.find?_singleton]
  -- an input of a device that was there before, or none of them
  cases hdevice : net.devices.find? fun device => device.id = input.device with
  | some device => simp
  | none =>
    rw [Option.none_or]
    split
    · rw [Option.bind_some, hnew, Option.bind_none]
    · rfl

/-- A device that is added is in order, and the others stay so. -/
theorem WellFormed.addDevice (hnet : net.WellFormed)
    (h : net.addDevice id name kind = .ok after) : after.WellFormed := by
  have hdriver := driver?_addDevice h
  have hroster := roster_addDevice h
  obtain ⟨hfree, hlegal, rfl⟩ := addDevice_eq_ok h
  constructor
  · show (net.devices ++ [Device.new id name kind]).map Device.id |>.Nodup
    rw [List.map_append]
    refine hnet.distinct.append (List.nodup_singleton id) fun other hold hnew => hfree ?_
    rw [← show other = id from List.mem_singleton.1 hnew]
    exact hold
  · intro device hmem
    rcases List.mem_append.1 hmem with hold | hnew
    · exact hnet.legal device hold
    · rw [List.mem_singleton.1 hnew]
      simpa [Device.kind, Device.new] using DeviceKind.legal_of_badQualifier? hlegal
  · intro device hmem
    rcases List.mem_append.1 hmem with hold | hnew
    · exact hnet.declared device hold
    · rw [List.mem_singleton.1 hnew]
      simp [Device.inputPorts, Device.kind, Device.new, Function.comp_def]
  · -- the outputs of before are still there
    intro input source hsource
    rw [hdriver] at hsource
    rw [outputs_eq_flatMap_roster, hroster, List.flatMap_append, ← outputs_eq_flatMap_roster]
    exact List.mem_append_left _ (hnet.driven input source hsource)

end AddDevice

/-! ### Drawing wires -/

section Connect

variable {names : NameTable} {source : OutputRef} {target : InputRef}

/-- A new wire drives the input it ends at, and no other. -/
theorem driver?_connect (h : net.connect names source target = .ok after) (input : InputRef) :
    after.driver? input = if input = target then some source else net.driver? input := by
  obtain ⟨_, device, -, -, hdevice, hinput, -, rfl⟩ := connect_eq_ok h
  obtain ⟨other, port⟩ := input
  obtain ⟨id, targetPort⟩ := target
  simp only at hdevice hinput
  have hport : targetPort ∈ device.inputPorts := by simpa [Device.hasInput] using hinput
  have hid : ∀ device : Device, (device.wire targetPort source).id = device.id := fun _ => rfl
  rw [driver?, driver?, device?_update hid]
  simp only [InputRef.mk.injEq]
  -- the device that is wired, or another one
  by_cases hother : other = id
  · subst hother
    simp [hdevice, Device.driver?_wire hport]
  · simp [hother]

/-- Apart from its wires the network stays as it is. -/
theorem unwired_connect (h : net.connect names source target = .ok after) :
    after.unwired = net.unwired := by
  obtain ⟨_, _, -, -, -, -, -, rfl⟩ := connect_eq_ok h
  rw [unwired, unwired, update, List.map_map]
  congr 1
  refine List.map_congr_left fun device _ => ?_
  simp only [Function.comp_apply]
  split
  · exact Device.unwired_wire
  · rfl

/-- **When a wire can be drawn**: from an output to an input that exist, if nothing drives the input. -/
theorem exists_connect_eq_ok_iff (hnet : net.WellFormed) (names : NameTable) :
    (∃ after, net.connect names source target = .ok after) ↔
      source ∈ net.outputs ∧ target ∈ net.inputs ∧ net.driver? target = none := by
  constructor
  · rintro ⟨after, h⟩
    -- the checks that have been made are what is asked for
    obtain ⟨driver, device, hdriver, houtput, hdevice, hinput, hfree, -⟩ := connect_eq_ok h
    obtain ⟨hmem, hid⟩ := mem_of_device? hdriver
    obtain ⟨hmem', hid'⟩ := mem_of_device? hdevice
    refine ⟨mem_outputs_iff.2 ⟨driver, hmem, hid, ?_⟩, mem_inputs_iff.2 ⟨device, hmem', hid', ?_⟩, ?_⟩
    · simpa [Device.hasOutput] using houtput
    · simpa [Device.hasInput] using hinput
    · rw [driver?, hdevice, Option.bind_some, hfree]
  · rintro ⟨houtput, hinput, hfree⟩
    obtain ⟨driver, hmem, hid, hport⟩ := mem_outputs_iff.1 houtput
    obtain ⟨device, hmem', hid', hport'⟩ := mem_inputs_iff.1 hinput
    have hdriver : net.device? source.device = some driver :=
      hnet.distinct.device?_eq_some_iff.2 ⟨hmem, hid⟩
    have hdevice : net.device? target.device = some device :=
      hnet.distinct.device?_eq_some_iff.2 ⟨hmem', hid'⟩
    rw [driver?, hdevice, Option.bind_some] at hfree
    simp [connect, hdriver, hdevice, Device.hasOutput, Device.hasInput, hport, hport', hfree]

/-- A wire that is drawn comes from an output that exists. -/
theorem WellFormed.connect (hnet : net.WellFormed)
    (h : net.connect names source target = .ok after) : after.WellFormed := by
  have hroster := roster_connect h
  have hdriver := driver?_connect h
  obtain ⟨hsource, -, -⟩ := (exists_connect_eq_ok_iff hnet names).1 ⟨after, h⟩
  obtain ⟨_, _, -, -, -, -, -, hafter⟩ := connect_eq_ok h
  -- all devices but for their wires are as they were
  have hdevice : ∀ device ∈ after.devices, ∃ found ∈ net.devices,
      device.kind = found.kind ∧ device.inputPorts = found.inputPorts := by
    intro device hmem
    rw [hafter] at hmem
    obtain ⟨found, hfound, rfl⟩ := List.mem_map.1 hmem
    refine ⟨found, hfound, ?_⟩
    split
    · exact ⟨rfl, Device.inputPorts_wire⟩
    · exact ⟨rfl, rfl⟩
  constructor
  · rw [Distinct, hafter, ids_wire]
    exact hnet.distinct
  · intro device hmem
    obtain ⟨found, hfound, hkind, -⟩ := hdevice device hmem
    rw [hkind]
    exact hnet.legal found hfound
  · intro device hmem
    obtain ⟨found, hfound, hkind, hinputs⟩ := hdevice device hmem
    rw [hkind, hinputs]
    exact hnet.declared found hfound
  · intro input other hother
    rw [hdriver] at hother
    rw [outputs_of_roster_eq hroster]
    -- the new wire, or an old one
    split at hother
    · cases hother
      exact hsource
    · exact hnet.driven input other hother

end Connect

/-! ## Sequences of operations -/

/-- An operation on a network, or on a simulator that holds it. -/
inductive Operation where
  | addDevice (id : NameId) (name : String) (kind : DeviceKind)
  | connect (names : NameTable) (source : OutputRef) (target : InputRef)
  | setSwitch (id : NameId) (level : Level)
  | coldStart
  /-- A cycle of a simulator with some limit on its sweeps that has completed some cycles. -/
  | step (fixedLimit : Option Nat) (cycle : Nat)

/-- The network after an operation, which leaves it as it is when it is refused. -/
def perform (net : Network) : Operation → Network
  | .addDevice id name kind => (net.addDevice id name kind).toOption.getD net
  | .connect names source target => (net.connect names source target).toOption.getD net
  | .setSwitch id level => (net.setSwitch? id level).getD net
  | .coldStart => net.coldStart
  | .step fixedLimit cycle => (Simulator.mk net fixedLimit cycle).step.1.network

/-- The network after several operations, refused or not. -/
def performAll (net : Network) (operations : List Operation) : Network :=
  operations.foldl perform net

/-- What a network becomes by being built upon and simulated: new devices follow the old ones, which
keep their handles, names and kinds, and an input that is driven stays driven by the same output. -/
structure Extends (net after : Network) : Prop where
  roster : net.roster <+: after.roster
  wires : ∀ input source, net.driver? input = some source → after.driver? input = some source

theorem Extends.refl (net : Network) : net.Extends net :=
  ⟨List.prefix_rfl, fun _ _ h => h⟩

theorem Extends.trans (h : net.Extends after) (h' : after.Extends later) : net.Extends later :=
  ⟨h.roster.trans h'.roster, fun input source hdriver =>
    h'.wires input source (h.wires input source hdriver)⟩

/-- What moves states only keeps devices and wires. -/
theorem extends_of_drawing_eq (h : after.drawing = net.drawing) : net.Extends after := by
  refine ⟨⟨[], ?_⟩, fun input source hdriver => ?_⟩
  · rw [List.append_nil, roster_of_drawing_eq h]
  · rw [driver?_of_drawing_eq h]
    exact hdriver

/-- **One operation** keeps a network in order and extends it. -/
theorem WellFormed.perform (hnet : net.WellFormed) (operation : Operation) :
    (net.perform operation).WellFormed ∧ net.Extends (net.perform operation) := by
  -- cycles, cold starts and switches move states only
  have hstates : ∀ after : Network, after.drawing = net.drawing →
      after.WellFormed ∧ net.Extends after := fun after h =>
    ⟨hnet.of_drawing_eq h, extends_of_drawing_eq h⟩
  cases operation with
  | addDevice id name kind =>
    rw [Network.perform]
    cases h : net.addDevice id name kind with
    | error fault => exact ⟨hnet, .refl net⟩
    | ok after =>
      refine ⟨hnet.addDevice h, ?_, fun input source hdriver => ?_⟩
      · show net.roster <+: after.roster
        rw [roster_addDevice h]
        exact List.prefix_append ..
      · show after.driver? input = some source
        rw [driver?_addDevice h, hdriver]
  | connect names source target =>
    rw [Network.perform]
    cases h : net.connect names source target with
    | error fault => exact ⟨hnet, .refl net⟩
    | ok after =>
      obtain ⟨-, -, hfree⟩ := (exists_connect_eq_ok_iff hnet names).1 ⟨after, h⟩
      refine ⟨hnet.connect h, ⟨[], ?_⟩, fun input other hdriver => ?_⟩
      · show net.roster ++ [] = after.roster
        rw [List.append_nil, roster_connect h]
      · -- an input that was driven is not the one that has been wired
        have hne : input ≠ target := by
          rintro rfl
          rw [hfree] at hdriver
          cases hdriver
        show after.driver? input = some other
        rw [driver?_connect h, if_neg hne, hdriver]
  | setSwitch id level =>
    rw [Network.perform]
    cases h : net.setSwitch? id level with
    | none => exact ⟨hnet, .refl net⟩
    | some after => exact hstates after (drawing_setSwitch? hnet.distinct h)
  | coldStart => exact hstates _ drawing_coldStart
  | step fixedLimit cycle => exact hstates _ (Simulator.drawing_step hnet.distinct)

/-- **Several operations.** -/
theorem WellFormed.performAll (hnet : net.WellFormed) (operations : List Operation) :
    (net.performAll operations).WellFormed ∧ net.Extends (net.performAll operations) := by
  induction operations generalizing net with
  | nil => exact ⟨hnet, .refl net⟩
  | cons operation others ih =>
    obtain ⟨hnext, hextends⟩ := hnet.perform operation
    obtain ⟨hlast, hextends'⟩ := ih hnext
    exact ⟨hlast, hextends.trans hextends'⟩

theorem wellFormed_empty : empty.WellFormed where
  distinct := List.nodup_nil
  legal := by simp [empty]
  declared := by simp [empty]
  driven := by simp [empty, driver?, device?]

/-- **Networks are in order**, whatever has been done to them, with or without success.

* Devices have legal kinds, and declare the inputs and the outputs of their kinds, on which they show
  levels.
* Wires come from outputs of devices that exist. Every input is once at the end of a wire or once
  floating.
* Further operations keep the devices and the wires there are.
* A wire can be drawn exactly from an output to an input that exist when nothing drives the input. It
  then drives that input, and all else is as it was. -/
theorem performAll_integrity (operations : List Operation) :
    let net := empty.performAll operations
    (∀ device ∈ net.devices, device.kind.Legal ∧ device.inputPorts = device.kind.inputPorts ∧
      device.outputPorts = device.kind.outputPorts ∧
      ∀ port, (device.output? port).isSome ↔ port ∈ device.kind.outputPorts) ∧
    (∀ wire ∈ net.connections, net.driver? wire.target = some wire.source ∧
      ∃ driver, net.device? wire.source.device = some driver ∧
        wire.source.port ∈ driver.outputPorts) ∧
    (net.connections.map Connection.target ++ net.floating).Perm net.inputs ∧ net.inputs.Nodup ∧
    (∀ later, net.Extends (net.performAll later)) ∧
    ∀ names source target,
      ((∃ after, net.connect names source target = .ok after) ↔
        source ∈ net.outputs ∧ target ∈ net.inputs ∧ net.driver? target = none) ∧
      ∀ after, net.connect names source target = .ok after →
        after.unwired = net.unwired ∧
        ∀ input, after.driver? input = if input = target then some source else net.driver? input := by
  intro net
  have hnet : net.WellFormed := (wellFormed_empty.performAll operations).1
  refine ⟨fun device hmem => ?_, fun wire hwire => ?_, perm_inputs net, hnet.nodup_inputs,
    fun later => (hnet.performAll later).2, fun names source target => ?_⟩
  · exact ⟨hnet.legal device hmem, hnet.declared device hmem, rfl,
      Element.output?_isSome_iff device.element⟩
  · have hdriver := hnet.mem_connections_iff.1 hwire
    obtain ⟨driver, hmem, hid, hport⟩ := mem_outputs_iff.1 (hnet.driven _ _ hdriver)
    exact ⟨hdriver, driver, hnet.distinct.device?_eq_some_iff.2 ⟨hmem, hid⟩, hport⟩
  · exact ⟨exists_connect_eq_ok_iff hnet names, fun after h =>
      ⟨unwired_connect h, driver?_connect h⟩⟩

/-- A switch and an OR gate that also feeds itself. A second device with the handle of the gate, an XOR
gate with three inputs and a second wire to one input are refused. -/
def feedback : List Operation :=
  [.addDevice ⟨0⟩ "S" (.switch .high), .addDevice ⟨1⟩ "G" (.gate .or 3), .addDevice ⟨1⟩ "H" .dtype,
    .addDevice ⟨2⟩ "X" (.gate .xor 3), .connect .empty ⟨⟨0⟩, .main⟩ ⟨⟨1⟩, .gate 1⟩, .step none 0,
    .connect .empty ⟨⟨1⟩, .main⟩ ⟨⟨1⟩, .gate 1⟩, .connect .empty ⟨⟨1⟩, .main⟩ ⟨⟨1⟩, .gate 2⟩,
    .setSwitch ⟨0⟩ .low]

/-- The gate has its legal kind and the wire to itself, and its third input can still be driven. -/
theorem performAll_integrity_feedback :
    let net := empty.performAll feedback
    (∃ device ∈ net.devices, device.kind = .gate .or 3 ∧ device.kind.Legal ∧
      device.inputPorts = device.kind.inputPorts) ∧
    ⟨⟨⟨1⟩, .main⟩, ⟨⟨1⟩, .gate 2⟩⟩ ∈ net.connections ∧
    net.driver? ⟨⟨1⟩, .gate 2⟩ = some ⟨⟨1⟩, .main⟩ ∧ net.floating = [⟨⟨1⟩, .gate 3⟩] ∧
    ∃ after, net.connect .empty ⟨⟨0⟩, .main⟩ ⟨⟨1⟩, .gate 3⟩ = .ok after ∧
      after.unwired = net.unwired ∧ after.driver? ⟨⟨1⟩, .gate 3⟩ = some ⟨⟨0⟩, .main⟩ := by
  intro net
  obtain ⟨hdevices, hwires, -, -, -, hconnect⟩ := performAll_integrity feedback
  have hdevice : ∃ device ∈ net.devices, device.kind = .gate .or 3 := by decide
  have hwire : ⟨⟨⟨1⟩, .main⟩, ⟨⟨1⟩, .gate 2⟩⟩ ∈ net.connections := by decide
  have hfloating : net.floating = [⟨⟨1⟩, .gate 3⟩] := by decide
  have hends : (⟨⟨0⟩, .main⟩ : OutputRef) ∈ net.outputs ∧ (⟨⟨1⟩, .gate 3⟩ : InputRef) ∈ net.inputs ∧
      net.driver? ⟨⟨1⟩, .gate 3⟩ = none := by
    decide
  obtain ⟨device, hmem, hkind⟩ := hdevice
  obtain ⟨hlegal, hinputs, -⟩ := hdevices device hmem
  obtain ⟨hdrawn, hslot⟩ := hconnect .empty ⟨⟨0⟩, .main⟩ ⟨⟨1⟩, .gate 3⟩
  obtain ⟨after, hafter⟩ := hdrawn.2 hends
  obtain ⟨hunwired, hdriver⟩ := hslot after hafter
  refine ⟨⟨device, hmem, hkind, hlegal, hinputs⟩, hwire, (hwires _ hwire).1, hfloating, after, hafter,
    hunwired, ?_⟩
  rw [hdriver, if_pos rfl]

end Network

end LogicCircuit
