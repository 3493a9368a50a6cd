import LogicCircuit.Proofs.Definition.Grammar
import LogicCircuit.Proofs.Reachability

/-!
# Circuits of scopes — the operations of a network, by name

A scope is legal if its names are distinct, its kinds have legal qualifiers, and each wire ends at an
input of its own that exists. Accepting a statement keeps a scope legal (`Scope.Accepts.legal`).

On the circuit of a legal scope, the devices and wires that statements add are those that the static
rules tell of: `Scope.device_eq_new` and `Scope.connect_network_eq_ok`. A table that knows the names tells
them apart by their handles.
-/

namespace LogicCircuit.Definition

variable {scope after : Scope} {table : NameTable} {name : String} {fresh : List String}
  {kind : DeviceKind} {output : Output} {port : InputPort}

namespace Scope

theorem mem_names (h : (name, kind) ∈ scope.devices) : name ∈ scope.names :=
  List.mem_map_of_mem h

theorem names_declare : (scope.declare fresh kind).names = scope.names ++ fresh := by
  rw [names, declare, List.map_append, List.map_map, names]
  congr 1
  exact List.map_id fresh

/-! ## Legal scopes -/

/-- A scope in which nothing contradicts: names and pins are distinct, and wires end at inputs that exist. -/
structure Legal (scope : Scope) : Prop where
  nodup_names : scope.names.Nodup
  legal_kinds : ∀ entry ∈ scope.devices, entry.2.badQualifier? = none
  nodup_pins : (scope.wires.map Prod.snd).Nodup
  wired : ∀ wire ∈ scope.wires,
    ∃ kind, (wire.2.device, kind) ∈ scope.devices ∧ wire.2.port ∈ kind.inputPorts

/-- Nothing contradicts where nothing has been declared. -/
theorem legal_empty : empty.Legal where
  nodup_names := List.nodup_nil
  legal_kinds := by
    intro entry hentry
    cases hentry
  nodup_pins := List.nodup_nil
  wired := by
    intro wire hwire
    cases hwire

/-- What a body means has legal qualifiers. -/
theorem badQualifier?_of_means {body : Body} (h : body.Means kind) : kind.badQualifier? = none := by
  cases h with
  | switch level => rfl
  | gate op hop digits hpos hmax =>
    have hrange : ¬ (Decimal.count digits.toList = 0 ∨ maxGateInputs < Decimal.count digits.toList) := by
      rw [maxGateInputs]
      omega
    rw [DeviceKind.badQualifier?, if_neg hrange, if_neg fun h => hop h.1]
  | xor => rfl
  | dtype => rfl
  | clock digits hmin =>
    rw [DeviceKind.badQualifier?, if_neg (by omega)]
  | siggen first others hpos htotal => rfl

/-- What a port is called names an input of the kind. -/
theorem mem_inputPorts_of_means {portName : PortName} (h : portName.Means kind port) :
    port ∈ kind.inputPorts := by
  cases h with
  | numbered digits hdigits op inputs hpos hmax =>
    refine List.mem_map.2 ⟨Decimal.value digits - 1, List.mem_range.2 (by omega), ?_⟩
    rw [Nat.sub_add_cancel hpos]
  | _ => decide

/-- New devices keep a scope legal. -/
theorem Legal.declare (hlegal : scope.Legal) (hkind : kind.badQualifier? = none)
    (hnodup : fresh.Nodup) (hnew : ∀ name ∈ fresh, name ∉ scope.names) :
    (scope.declare fresh kind).Legal := by
  constructor
  · rw [names_declare]
    exact hlegal.nodup_names.append hnodup fun name hold hfresh => hnew name hfresh hold
  · intro entry hentry
    rcases List.mem_append.1 hentry with hold | hfresh
    · exact hlegal.legal_kinds entry hold
    · obtain ⟨name, -, rfl⟩ := List.mem_map.1 hfresh
      exact hkind
  · exact hlegal.nodup_pins
  · intro wire hwire
    obtain ⟨kind, hdevice, hport⟩ := hlegal.wired wire hwire
    exact ⟨kind, List.mem_append_left _ hdevice, hport⟩

/-- A wire to a free input of a device keeps a scope legal. -/
theorem Legal.wire {pin : Pin} (hlegal : scope.Legal) (hdevice : (pin.device, kind) ∈ scope.devices)
    (hport : pin.port ∈ kind.inputPorts) (hfree : ∀ wire ∈ scope.wires, wire.2 ≠ pin) :
    (scope.wire output pin).Legal := by
  constructor
  · exact hlegal.nodup_names
  · exact hlegal.legal_kinds
  · show ((scope.wires ++ [(output, pin)]).map Prod.snd).Nodup
    rw [List.map_append]
    refine hlegal.nodup_pins.append (List.nodup_singleton pin) fun found hold hpin => ?_
    obtain ⟨wire, hwire, rfl⟩ := List.mem_map.1 hold
    exact hfree wire hwire (List.mem_singleton.1 hpin)
  · intro wire hwire
    rcases List.mem_append.1 hwire with hold | hfresh
    · exact hlegal.wired wire hold
    · rw [List.mem_singleton.1 hfresh]
      exact ⟨kind, hdevice, hport⟩

theorem Legal.watch {outputs : List Output} (hlegal : scope.Legal) : (scope.watch outputs).Legal :=
  ⟨hlegal.1, hlegal.2, hlegal.3, hlegal.4⟩

/-- **Accepted statements keep a scope legal.** -/
theorem Accepts.legal {statement : Statement} (h : scope.Accepts statement after)
    (hlegal : scope.Legal) : after.Legal := by
  cases h with
  | define hbody hnodup hnew => exact hlegal.declare (badQualifier?_of_means hbody) hnodup hnew
  | connect hsource htarget hport hfree =>
    exact hlegal.wire htarget (mem_inputPorts_of_means hport) hfree
  | monitor => exact hlegal.watch

/-! ## Known names -/

/-- The table has handles for the names of all devices. -/
def KnownTo (scope : Scope) (table : NameTable) : Prop :=
  ∀ name ∈ scope.names, (table.id? name).isSome

theorem knownTo_empty : empty.KnownTo table := by
  intro name hname
  cases hname

/-- New names have to be known as well. -/
theorem KnownTo.declare (h : scope.KnownTo table)
    (hfresh : ∀ name ∈ fresh, (table.id? name).isSome) :
    (scope.declare fresh kind).KnownTo table := by
  intro name hname
  rw [names_declare] at hname
  rcases List.mem_append.1 hname with hold | hnew
  · exact h name hold
  · exact hfresh name hnew

/-! ## Looking up -/

theorem ids_network : (scope.network table).ids = scope.names.map table.handle := by
  rw [Network.ids, network, List.map_map, names, List.map_map]
  rfl

/-- Devices with distinct names have distinct handles. -/
theorem distinct_network (hlegal : scope.Legal) (hknown : scope.KnownTo table) :
    (scope.network table).Distinct := by
  rw [Network.Distinct, ids_network]
  refine List.Nodup.map_on (fun name hname other hother heq => ?_) hlegal.nodup_names
  exact (NameTable.handle_eq_handle_iff (hknown other hother)).1 heq

/-- **Lookup by handle is lookup by name.** -/
theorem device?_network (hlegal : scope.Legal) (hknown : scope.KnownTo table) {device : Device} :
    (scope.network table).device? (table.handle name) = some device ↔
      ∃ kind, (name, kind) ∈ scope.devices ∧ device = scope.device table name kind := by
  rw [(distinct_network hlegal hknown).device?_eq_some_iff]
  constructor
  · rintro ⟨hmem, hid⟩
    obtain ⟨⟨found, kind⟩, hfound, rfl⟩ := List.mem_map.1 hmem
    have hname : name = found :=
      (NameTable.handle_eq_handle_iff (hknown found (mem_names hfound))).1 hid.symm
    subst hname
    exact ⟨kind, hfound, rfl⟩
  · rintro ⟨kind, hmem, rfl⟩
    exact ⟨List.mem_map.2 ⟨_, hmem, rfl⟩, rfl⟩

/-- A handle that no device has is that of a name that none has. -/
theorem device?_network_eq_none (hknown : scope.KnownTo table) :
    (scope.network table).device? (table.handle name) = none ↔ name ∉ scope.names := by
  rw [Network.device?_eq_none_iff, ids_network, not_iff_not, List.mem_map]
  constructor
  · rintro ⟨found, hfound, heq⟩
    rw [(NameTable.handle_eq_handle_iff (hknown found hfound)).1 heq.symm]
    exact hfound
  · intro h
    exact ⟨name, h, rfl⟩

theorem kind_device : (scope.device table name kind).kind = kind :=
  Element.kind_ofKind kind

theorem inputPorts_device : (scope.device table name kind).inputPorts = kind.inputPorts := by
  rw [Device.inputPorts, device, List.map_map]
  exact List.map_id _

/-- An input of a device is driven by the wire that ends at its pin. -/
theorem driver?_device (h : port ∈ kind.inputPorts) :
    (scope.device table name kind).driver? port
      = (scope.driver? ⟨name, port⟩).map (Output.ref table) := by
  have hlookup : ∀ (ports : List InputPort) (driver : InputPort → Option OutputRef),
      port ∈ ports → (ports.map fun port => (port, driver port)).lookup port = some (driver port) := by
    -- on the ports in front of this one
    intro ports driver hmem
    induction ports with
    | nil => cases hmem
    | cons first others ih =>
      rw [List.map_cons, List.lookup_cons]
      by_cases hfirst : port = first
      · subst hfirst
        rw [beq_self_eq_true]
      · rw [beq_false_of_ne hfirst]
        exact ih ((List.mem_cons.1 hmem).resolve_left hfirst)
  rw [Device.driver?, device, hlookup _ _ h]
  rfl

theorem driver?_eq_none_iff {pin : Pin} :
    scope.driver? pin = none ↔ ∀ wire ∈ scope.wires, wire.2 ≠ pin := by
  rw [driver?, Option.map_eq_none_iff, List.find?_eq_none]
  simp only [decide_eq_true_eq]

/-! ## Devices -/

/-- A new device has no wires. -/
theorem device_eq_new (hlegal : scope.Legal) (h : name ∉ scope.names) :
    scope.device table name kind = Device.new (table.handle name) name kind := by
  -- a wire that ends at the name would have needed its device
  have hdriver : ∀ port, scope.driver? ⟨name, port⟩ = none := by
    intro port
    refine driver?_eq_none_iff.2 fun wire hwire heq => ?_
    obtain ⟨found, hfound, -⟩ := hlegal.wired wire hwire
    rw [heq] at hfound
    exact h (mem_names hfound)
  rw [device, Device.new]
  simp only [hdriver, Option.map_none]

def entry (table : NameTable) (name : String) : NameId × String :=
  (table.handle name, name)

/-! ## Outputs -/

/-- A flip-flop has the outputs Q and QBAR, and any other device has one output without a name. -/
theorem mem_outputPorts_iff {port : OutputPort} :
    port ∈ kind.outputPorts ↔ (port ≠ .main ↔ kind = .dtype) := by
  cases kind <;> cases port <;> simp [DeviceKind.outputPorts]

/-- The device of an output that exists has that output. -/
theorem HasOutput.device? (h : scope.HasOutput output) (hlegal : scope.Legal)
    (hknown : scope.KnownTo table) :
    ∃ device, (scope.network table).device? (output.ref table).device = some device ∧
      device.hasOutput (output.ref table).port := by
  obtain ⟨kind, hmem, hport⟩ := h
  refine ⟨_, (device?_network hlegal hknown).2 ⟨kind, hmem, rfl⟩, ?_⟩
  rw [Device.hasOutput, Device.outputPorts, kind_device, List.contains_iff_mem]
  exact mem_outputPorts_iff.2 hport

theorem HasOutput.mem_names (h : scope.HasOutput output) : output.device ∈ scope.names := by
  obtain ⟨kind, hmem, -⟩ := h
  exact Scope.mem_names hmem

/-- Outputs are told apart by their references. -/
theorem ref_eq_ref_iff {other : Output} (h : (table.id? output.device).isSome) :
    other.ref table = output.ref table ↔ other = output := by
  constructor
  · intro heq
    obtain ⟨device, port⟩ := other
    obtain ⟨hdevice, hport⟩ := OutputRef.mk.injEq .. ▸ heq
    have hname : device = output.device := (NameTable.handle_eq_handle_iff h).1 hdevice
    have hport' : port = output.port := hport
    rw [hname, hport']
  · rintro rfl
    rfl

/-! ## Wires -/

/-- A new wire drives its own pin and changes nothing else. -/
theorem driver?_wire {pin target : Pin} (hfree : ∀ wire ∈ scope.wires, wire.2 ≠ target) :
    (scope.wire output target).driver? pin
      = if pin = target then some output else scope.driver? pin := by
  rw [driver?, wire, List.find?_append, List.find?_singleton]
  by_cases hpin : pin = target
  · subst hpin
    have hnone : (scope.wires.find? fun wire => wire.2 = pin) = none := by
      rw [List.find?_eq_none]
      simpa using hfree
    rw [hnone, if_pos rfl]
    simp
  · have hne : ¬ target = pin := fun h => hpin h.symm
    rw [if_neg hpin, driver?]
    simp [hne]

/-- A new wire changes the device it ends at and no other. -/
theorem update_network {target : Pin} (hknown : scope.KnownTo table)
    (hfree : ∀ wire ∈ scope.wires, wire.2 ≠ target) :
    ((scope.network table).update (table.handle target.device) fun device =>
      device.wire target.port (output.ref table)) = (scope.wire output target).network table := by
  rw [Network.update, network, network, List.map_map]
  congr 1
  refine List.map_congr_left ?_
  rintro ⟨name, kind⟩ hentry
  show (if table.handle name = table.handle target.device
    then (scope.device table name kind).wire target.port (output.ref table)
    else scope.device table name kind) = (scope.wire output target).device table name kind
  by_cases hname : name = target.device
  -- the device that the wire ends at: one input changes
  · subst hname
    rw [if_pos rfl, device, device, Device.wire, List.map_map]
    congr 1
    refine List.map_congr_left fun port _ => ?_
    simp only [Function.comp_apply, driver?_wire hfree]
    by_cases hport : port = target.port
    · subst hport
      rw [if_pos rfl, if_pos rfl]
      rfl
    · have hpin : ¬ (⟨target.device, port⟩ : Pin) = target := fun h => hport (congrArg Pin.port h)
      rw [if_neg hport, if_neg hpin]
  -- any other device has another handle
  · have hhandle : ¬ table.handle name = table.handle target.device := fun h =>
      hname ((NameTable.handle_eq_handle_iff (hknown name (mem_names hentry))).1 h.symm).symm
    have hdriver : ∀ port, (scope.wire output target).driver? ⟨name, port⟩
        = scope.driver? ⟨name, port⟩ := by
      intro port
      rw [driver?_wire hfree, if_neg fun h => hname (congrArg Pin.device h)]
    rw [if_neg hhandle, device, device]
    simp only [hdriver]

/-- **Connections.** A wire between ports that exist is refused exactly if its input is taken. -/
theorem connect_network_eq_ok {net : Network} (hlegal : scope.Legal)
    (hknown : scope.KnownTo table) (hsource : scope.HasOutput output)
    (htarget : (name, kind) ∈ scope.devices) (hport : port ∈ kind.inputPorts) :
    (scope.network table).connect table (output.ref table) ⟨table.handle name, port⟩ = .ok net ↔
      (∀ wire ∈ scope.wires, wire.2 ≠ ⟨name, port⟩) ∧
        net = (scope.wire output ⟨name, port⟩).network table := by
  obtain ⟨driver, hdriver, houtput⟩ := hsource.device? hlegal hknown
  have hdevice := (device?_network hlegal hknown).2 ⟨kind, htarget, rfl⟩
  have hinput : (scope.device table name kind).hasInput port := by
    rw [Device.hasInput, inputPorts_device, List.contains_iff_mem]
    exact hport
  rw [Network.connect, hdriver]
  simp only [houtput, Bool.not_true, Bool.false_eq_true, if_false, hdevice, hinput,
    driver?_device hport, Option.isSome_map]
  -- both ports exist, so what is left to check is whether the input is taken
  by_cases hfree : ∀ wire ∈ scope.wires, wire.2 ≠ ⟨name, port⟩
  · have hupdate : ((scope.network table).update (table.handle name) fun device =>
        device.wire port (output.ref table)) = (scope.wire output ⟨name, port⟩).network table :=
      update_network hknown hfree
    rw [driver?_eq_none_iff.2 hfree, hupdate]
    constructor
    · intro h
      cases h
      exact ⟨hfree, rfl⟩
    · rintro ⟨-, rfl⟩
      rfl
  · have htaken : (scope.driver? ⟨name, port⟩).isSome := by
      rw [Option.isSome_iff_ne_none]
      exact fun h => hfree (driver?_eq_none_iff.1 h)
    rw [if_pos htaken]
    constructor
    · intro h
      cases h
    · rintro ⟨h, -⟩
      exact absurd h hfree

/-! ## Reading back -/

/-- Any accepted statements keep a scope legal. -/
theorem AcceptsAll.legal {program : List Statement} (h : scope.AcceptsAll program after)
    (hlegal : scope.Legal) : after.Legal := by
  induction h with
  | nil scope => exact hlegal
  | cons hfirst _ ih => exact ih (hfirst.legal hlegal)

/-- The devices of the network are those that have been declared. -/
theorem devices_network :
    ((scope.network table).devices.map fun device => (device.name, device.kind)) = scope.devices := by
  rw [network, List.map_map]
  refine (List.map_congr_left ?_).trans (List.map_id _)
  rintro ⟨name, kind⟩ -
  exact Prod.ext rfl kind_device

/-- The handle of a device tells its name. -/
theorem text?_id_network (hknown : scope.KnownTo table) {device : Device}
    (h : device ∈ (scope.network table).devices) : table.text? device.id = some device.name := by
  obtain ⟨⟨name, kind⟩, hentry, rfl⟩ := List.mem_map.1 h
  exact NameTable.text?_handle (hknown name (mem_names hentry))

theorem points_monitors :
    (scope.monitors table).points = scope.watched.map (Output.ref table) := by
  rw [Monitors.points, monitors, List.map_map]
  rfl

/-- A wire is found at its end. -/
theorem driver?_of_mem (hlegal : scope.Legal) {wire : Output × Pin} (h : wire ∈ scope.wires) :
    scope.driver? wire.2 = some wire.1 := by
  rw [driver?]
  cases hfind : scope.wires.find? fun other => other.2 = wire.2 with
  | none =>
    have hnone := List.find?_eq_none.1 hfind wire h
    exact absurd (decide_eq_true rfl) hnone
  | some found =>
    have hpin : found.2 = wire.2 := by simpa using List.find?_some hfind
    -- no two wires end at one input
    have hsame : found = wire :=
      List.inj_on_of_nodup_map hlegal.nodup_pins (List.mem_of_find?_eq_some hfind) h hpin
    rw [hsame, Option.map_some]

/-- The connection that a wire declares. -/
def connection (table : NameTable) (wire : Output × Pin) : Connection :=
  ⟨wire.1.ref table, ⟨table.handle wire.2.device, wire.2.port⟩⟩

/-- **Connections.** The connections of the network are those that have been declared. -/
theorem mem_connections_network (hlegal : scope.Legal) {found : Connection} :
    found ∈ (scope.network table).connections ↔ found ∈ scope.wires.map (connection table) := by
  rw [Network.connections, List.mem_flatMap, List.mem_map]
  constructor
  · rintro ⟨device, hdevice, hfound⟩
    obtain ⟨⟨name, kind⟩, -, rfl⟩ := List.mem_map.1 hdevice
    obtain ⟨⟨port, driver⟩, hport, hdriver⟩ := List.mem_filterMap.1 hfound
    obtain ⟨port, -, heq⟩ := List.mem_map.1 hport
    cases heq
    obtain ⟨ref, href, rfl⟩ := Option.map_eq_some_iff.1 hdriver
    obtain ⟨output, houtput, rfl⟩ := Option.map_eq_some_iff.1 href
    obtain ⟨wire, hfind, rfl⟩ := Option.map_eq_some_iff.1 houtput
    -- the wire is found at the pin, so it has been declared
    have hpin : wire.2 = ⟨name, port⟩ := by simpa using List.find?_some hfind
    refine ⟨wire, List.mem_of_find?_eq_some hfind, ?_⟩
    rw [connection, hpin]
    rfl
  · rintro ⟨wire, hwire, rfl⟩
    obtain ⟨kind, hentry, hport⟩ := hlegal.wired wire hwire
    refine ⟨scope.device table wire.2.device kind, List.mem_map.2 ⟨_, hentry, rfl⟩, ?_⟩
    refine List.mem_filterMap.2 ⟨_, List.mem_map.2 ⟨wire.2.port, hport, rfl⟩, ?_⟩
    show Option.map _ ((scope.driver? wire.2).map (Output.ref table)) = _
    rw [driver?_of_mem hlegal hwire]
    rfl

end Scope

end LogicCircuit.Definition
