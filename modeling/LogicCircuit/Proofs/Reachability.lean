import LogicCircuit.Simulator
import Mathlib.Data.List.Nodup

/-!
# Reachability — the simulators that can arise, and what never changes in them

A network is put together device by device and wire by wire, and a simulator then takes it through
cycles, flips of switches and cold starts. `Network.Built` and `Simulator.Reachable` say which
networks and simulators arise in this way. Two things survive every operation:

* **handles are distinct** (`Simulator.Reachable.distinct`), so `Network.device?` finds every device;
* **the drawing stays** (`Network.drawing`): names, kinds and wires. Only the states of elements move.

Operations that visit one handle after the other are folds; `device?_foldl_of_notMem` says that
such a fold leaves alone whatever it does not visit, and `view_foldl` that it keeps whatever its steps
keep.
-/

namespace LogicCircuit

/-! ## Drawings -/

/-- The device as its definition and its wires make it, in the state of a new one. -/
def Device.drawn (device : Device) : Device :=
  device.withElement (.ofKind device.kind)

namespace Device

variable {device other : Device}

@[simp] theorem id_withElement (element : Element) :
    (device.withElement element).id = device.id := rfl

@[simp] theorem drivers_withElement (element : Element) :
    (device.withElement element).drivers = device.drivers := rfl

@[simp] theorem element_withElement (element : Element) :
    (device.withElement element).element = element := rfl

/-- Another element of the same kind does not show in the drawing. -/
theorem drawn_withElement {element : Element} (h : element.kind = device.kind) :
    (device.withElement element).drawn = device.drawn := by
  have hkind : (device.withElement element).kind = device.kind := h
  rw [drawn, drawn, hkind]
  rfl

/-- What a drawing shows of a device. -/
theorem drawn_eq_iff : device.drawn = other.drawn ↔
    device.id = other.id ∧ device.name = other.name ∧ device.drivers = other.drivers ∧
      device.kind = other.kind := by
  constructor
  · intro h
    -- the drawing keeps the state of a new device, and the kind can be read off that
    have helement : Element.ofKind device.kind = Element.ofKind other.kind :=
      congrArg Device.element h
    have hkind := congrArg Element.kind helement
    rw [Element.kind_ofKind, Element.kind_ofKind] at hkind
    have hid : device.drawn.id = other.drawn.id := congrArg Device.id h
    have hname : device.drawn.name = other.drawn.name := congrArg Device.name h
    have hdrivers : device.drawn.drivers = other.drawn.drivers := congrArg Device.drivers h
    exact ⟨hid, hname, hdrivers, hkind⟩
  · rintro ⟨hid, hname, hdrivers, hkind⟩
    obtain ⟨id, name, drivers, element⟩ := device
    obtain ⟨id', name', drivers', element'⟩ := other
    simp only at hid hname hdrivers
    subst hid hname hdrivers
    rw [drawn, drawn, hkind]
    rfl

end Device

namespace Network

variable {net after : Network} {id other : NameId} {device : Device}

/-- The circuit diagram: every device and wire, with no state. -/
def drawing (net : Network) : Network :=
  { devices := net.devices.map Device.drawn }

/-- No two devices share a handle. -/
def Distinct (net : Network) : Prop :=
  net.ids.Nodup

/-! ### Finding devices -/

theorem mem_of_device? (h : net.device? id = some device) :
    device ∈ net.devices ∧ device.id = id :=
  ⟨List.mem_of_find?_eq_some h, by simpa using List.find?_some h⟩

/-- With distinct handles, the device with a handle is the only one that has it. -/
theorem Distinct.device?_eq_some_iff (hnet : net.Distinct) :
    net.device? id = some device ↔ device ∈ net.devices ∧ device.id = id := by
  refine ⟨mem_of_device?, ?_⟩
  rintro ⟨hmem, rfl⟩
  -- some device has the handle; that it is found first does not matter, as no other one has it
  have hsome : (net.device? device.id).isSome := by
    rw [device?, List.find?_isSome]
    exact ⟨device, hmem, by simp⟩
  obtain ⟨found, hfound⟩ := Option.isSome_iff_exists.1 hsome
  obtain ⟨hmem', hid⟩ := mem_of_device? hfound
  rw [hfound, List.inj_on_of_nodup_map hnet hmem' hmem hid]

theorem Distinct.eq_of_device? (hnet : net.Distinct) {found : Device}
    (hdevice : net.device? id = some device) (hmem : found ∈ net.devices) (hid : found.id = id) :
    found = device := by
  have hfound : net.device? id = some found := hnet.device?_eq_some_iff.2 ⟨hmem, hid⟩
  rw [hfound] at hdevice
  exact Option.some.inj hdevice

theorem device?_isSome_iff : (net.device? id).isSome ↔ id ∈ net.ids := by
  rw [device?, List.find?_isSome, ids, List.mem_map]
  simp

theorem device?_eq_none_iff : net.device? id = none ↔ id ∉ net.ids := by
  rw [← device?_isSome_iff, Option.not_isSome_iff_eq_none]

/-- An output that exists is one of a device with its port. -/
theorem mem_outputs_iff {output : OutputRef} : output ∈ net.outputs ↔
    ∃ device ∈ net.devices, device.id = output.device ∧ output.port ∈ device.outputPorts := by
  simp only [outputs, List.mem_flatMap, List.mem_map]
  constructor
  · rintro ⟨device, hdevice, port, hport, rfl⟩
    exact ⟨device, hdevice, rfl, hport⟩
  · rintro ⟨device, hdevice, hid, hport⟩
    exact ⟨device, hdevice, output.port, hport, by rw [hid]⟩

/-- The level on an output depends on the device alone. -/
theorem level?_congr {output : OutputRef}
    (h : after.device? output.device = net.device? output.device) :
    after.level? output = net.level? output := by
  rw [level?, level?, h]

/-! ### Changing devices in their places -/

/-- A change of the element of one device, seen through `device?`. -/
theorem device?_update_element (element : Device → Element) :
    (net.update id fun device => device.withElement (element device)).device? other =
      if other = id then (net.device? id).map fun device => device.withElement (element device)
      else net.device? other := by
  have hid : ∀ device : Device, (device.withElement (element device)).id = device.id :=
    fun _ => rfl
  rw [device?_update hid]
  split
  · next h => rw [h]
  · rfl

/-- A change of the elements of all devices, seen through `device?`. -/
theorem device?_map (change : Device → Device) (hid : ∀ device, (change device).id = device.id) :
    ({ devices := net.devices.map change } : Network).device? id
      = (net.device? id).map change := by
  rw [device?, device?, List.find?_map]
  congr 2
  funext device
  simp [hid]

theorem ids_map (change : Device → Device) (hid : ∀ device, (change device).id = device.id) :
    ({ devices := net.devices.map change } : Network).ids = net.ids := by
  rw [ids, ids, List.map_map]
  exact List.map_congr_left fun device _ => hid device

theorem device?_drawing : net.drawing.device? id = (net.device? id).map Device.drawn :=
  device?_map Device.drawn fun _ => rfl

theorem ids_drawing : net.drawing.ids = net.ids :=
  ids_map Device.drawn fun _ => rfl

theorem ids_eq_of_drawing_eq (h : after.drawing = net.drawing) : after.ids = net.ids := by
  rw [← ids_drawing, h, ids_drawing]

theorem Distinct.of_drawing_eq (hnet : net.Distinct) (h : after.drawing = net.drawing) :
    after.Distinct := by
  rw [Distinct, ids_eq_of_drawing_eq h]
  exact hnet

/-- Where the drawing has a device, so has the network, with the same wires and kind. -/
theorem exists_device?_of_drawing_eq (h : after.drawing = net.drawing)
    (hdevice : net.device? id = some device) :
    ∃ found, after.device? id = some found ∧ found.drawn = device.drawn := by
  have hdrawn : (after.device? id).map Device.drawn = (net.device? id).map Device.drawn := by
    rw [← device?_drawing, ← device?_drawing, h]
  rw [hdevice, Option.map_some, Option.map_eq_some_iff] at hdrawn
  exact hdrawn

theorem exists_mem_of_drawing_eq (h : after.drawing = net.drawing) (hmem : device ∈ after.devices) :
    ∃ found ∈ net.devices, found.drawn = device.drawn := by
  have hdrawn : device.drawn ∈ net.drawing.devices := by
    rw [← h]
    exact List.mem_map_of_mem hmem
  exact List.mem_map.1 hdrawn

/-- A change of every device that only moves states leaves the drawing. -/
theorem drawing_map (change : Device → Device)
    (hchange : ∀ device, (change device).drawn = device.drawn) :
    ({ devices := net.devices.map change } : Network).drawing = net.drawing := by
  rw [drawing, drawing, List.map_map]
  congr 1
  exact List.map_congr_left fun device _ => hchange device

/-- So does a change of the devices with one handle. -/
theorem drawing_update {change : Device → Device}
    (hchange : ∀ device ∈ net.devices, device.id = id → (change device).drawn = device.drawn) :
    (net.update id change).drawing = net.drawing := by
  rw [drawing, drawing, update, List.map_map]
  congr 1
  refine List.map_congr_left fun device hmem => ?_
  simp only [Function.comp_apply]
  split
  · next hid => exact hchange device hmem hid
  · rfl

/-! ## Folds over handles -/

/-- A step that, given a handle, changes no device but the one with that handle. -/
def IsLocal (step : Network → NameId → Network) : Prop :=
  ∀ net id other, other ≠ id → (step net id).device? other = net.device? other

/-- A fold of a local step leaves alone every device that it does not visit. -/
theorem device?_foldl_of_notMem {step : Network → NameId → Network} (hstep : IsLocal step) :
    ∀ (visited : List NameId) (net : Network), other ∉ visited →
      (visited.foldl step net).device? other = net.device? other
  | [], _, _ => rfl
  | id :: rest, net, hother => by
    rw [List.mem_cons, not_or] at hother
    -- what the rest of the fold leaves alone was left alone by the first step
    rw [List.foldl_cons, device?_foldl_of_notMem hstep rest _ hother.2]
    exact hstep net id other hother.1

section Views

variable {α : Type} {view : Network → α}

/-- What a step keeps, a fold of it keeps. -/
theorem view_foldl {step : Network → NameId → Network}
    (hstep : ∀ net id, view (step net id) = view net) (visited : List NameId) (net : Network) :
    view (visited.foldl step net) = view net := by
  induction visited generalizing net with
  | nil => rfl
  -- the induction is on the handles still to be visited, so the network in between is left free
  | cons id rest ih => rw [List.foldl_cons, ih, hstep]

/-- The same where a step needs distinct handles, if it keeps the drawing and so the handles. -/
theorem Distinct.view_foldl {step : Network → NameId → Network}
    (hdrawing : ∀ net id, net.Distinct → (step net id).drawing = net.drawing)
    (hstep : ∀ net id, net.Distinct → view (step net id) = view net) (visited : List NameId)
    (hnet : net.Distinct) : view (visited.foldl step net) = view net := by
  induction visited generalizing net with
  | nil => rfl
  | cons id rest ih =>
    have hnext : (step net id).Distinct := hnet.of_drawing_eq (hdrawing net id hnet)
    rw [List.foldl_cons, ih hnext, hstep net id hnet]

/-- What driving a gate keeps, settling keeps, also if it gives up. -/
theorem view_settleFrom (hrelax : ∀ net id, view (relax net id) = view net) (limit made : Nat)
    (net : Network) : view (net.settleFrom made limit).1 = view net := by
  induction limit generalizing made net with
  | zero => rfl
  | succ limit ih =>
    -- a sweep is such a fold over all handles
    have hsweep : view net.sweep = view net := view_foldl hrelax net.ids net
    simp only [settleFrom]
    split
    · exact hsweep
    · rw [ih, hsweep]

end Views

/-! ## The operations and the drawing -/

theorem drawing_coldStart : net.coldStart.drawing = net.drawing :=
  drawing_map _ fun device => Device.drawn_withElement (Element.kind_reset device.element)

theorem drawing_advanceSources : net.advanceSources.drawing = net.drawing :=
  drawing_map _ fun device => Device.drawn_withElement (Element.kind_advance device.element)

theorem device?_advanceSources : net.advanceSources.device? id =
    (net.device? id).map fun device => device.withElement device.element.advance :=
  device?_map _ fun _ => rfl

theorem device?_coldStart : net.coldStart.device? id =
    (net.device? id).map fun device => device.withElement device.element.reset :=
  device?_map _ fun _ => rfl

/-- What is set, when a switch can be set. -/
theorem setSwitch?_eq_some {level : Level} (h : net.setSwitch? id level = some after) :
    ∃ device initial old, net.device? id = some device ∧ device.element = .switch initial old ∧
      after = net.update id fun device => device.withElement (.switch initial level) := by
  -- the two steps that may fail are taken apart: there is a device, and its element can be set
  simp only [setSwitch?, Option.bind_eq_bind, Option.bind_eq_some_iff, Option.pure_def,
    Option.some.injEq] at h
  obtain ⟨device, hdevice, element, helement, rfl⟩ := h
  cases hswitch : device.element with
  | switch initial old =>
    rw [hswitch] at helement
    cases helement
    exact ⟨device, initial, old, hdevice, hswitch, rfl⟩
  | _ =>
    rw [hswitch] at helement
    cases helement

theorem drawing_setSwitch? {level : Level} (hnet : net.Distinct)
    (h : net.setSwitch? id level = some after) : after.drawing = net.drawing := by
  obtain ⟨device, initial, old, hdevice, hswitch, rfl⟩ := setSwitch?_eq_some h
  -- the device that is found is the only one that is changed
  refine drawing_update fun found hmem hid => ?_
  obtain rfl := hnet.eq_of_device? hdevice hmem hid
  refine Device.drawn_withElement ?_
  rw [Device.kind, hswitch]
  rfl

/-- To drive a gate is to change a level, which a drawing does not show. -/
theorem drawing_relax (net : Network) (id : NameId) : (net.relax id).drawing = net.drawing := by
  unfold relax
  split
  · split
    · -- a gate at its level is left as it is, any other one is driven
      dsimp only
      split
      · rfl
      · exact drawing_update fun device _ _ =>
          Device.drawn_withElement (Element.kind_drive _ device.element)
    · rfl
  · rfl

theorem drawing_foldl_relax (visited : List NameId) (net : Network) :
    (visited.foldl relax net).drawing = net.drawing :=
  view_foldl drawing_relax visited net

theorem drawing_sweep (net : Network) : net.sweep.drawing = net.drawing :=
  view_foldl drawing_relax net.ids net

theorem drawing_settleFrom (limit made : Nat) (net : Network) :
    (net.settleFrom made limit).1.drawing = net.drawing :=
  view_settleFrom drawing_relax limit made net

theorem drawing_settle (net : Network) (limit : Nat) :
    (net.settle limit).1.drawing = net.drawing :=
  drawing_settleFrom limit 0 net

theorem drawing_latch (hnet : net.Distinct) (id : NameId) :
    (net.latch id).drawing = net.drawing := by
  unfold latch
  split
  · next device hdevice =>
    split
    · refine drawing_update fun found hmem hid => ?_
      obtain rfl := hnet.eq_of_device? hdevice hmem hid
      exact Device.drawn_withElement (Element.kind_latch _ _ _ _ found.element)
    · rfl
  · rfl

/-- Each turn of latching finds the handles distinct, as the turns before it have left the drawing. -/
theorem drawing_latchAll (hnet : net.Distinct) : net.latchAll.drawing = net.drawing :=
  hnet.view_foldl (fun _ id h => drawing_latch h id) (fun _ id h => drawing_latch h id) net.ids

/-! ## Building -/

/-- The networks that can be put together. A refused operation leaves the network as it is, so only
the others count. -/
inductive Built : Network → Prop where
  | empty : Built .empty
  | addDevice {net after : Network} {id : NameId} {name : String} {kind : DeviceKind}
      (hnet : Built net) (h : net.addDevice id name kind = .ok after) : Built after
  | connect {net after : Network} {names : NameTable} {source : OutputRef} {target : InputRef}
      (hnet : Built net) (h : net.connect names source target = .ok after) : Built after
  | setSwitch {net after : Network} {id : NameId} {level : Level}
      (hnet : Built net) (h : net.setSwitch? id level = some after) : Built after
  | coldStart {net : Network} (hnet : Built net) : Built net.coldStart

/-- What is added, when a device can be added. -/
theorem addDevice_eq_ok {name : String} {kind : DeviceKind}
    (h : net.addDevice id name kind = .ok after) :
    id ∉ net.ids ∧ kind.badQualifier? = none ∧
      after = { devices := net.devices ++ [Device.new id name kind] } := by
  unfold addDevice at h
  split at h
  · cases h
  · next hfree =>
    rw [device?_isSome_iff] at hfree
    split at h
    · cases h
    · next hlegal =>
      cases h
      exact ⟨hfree, hlegal, rfl⟩

/-- What a wire changes, when it can be added. -/
theorem connect_eq_ok {names : NameTable} {source : OutputRef} {target : InputRef}
    (h : net.connect names source target = .ok after) :
    ∃ driver device, net.device? source.device = some driver ∧ driver.hasOutput source.port ∧
      net.device? target.device = some device ∧ device.hasInput target.port ∧
      device.driver? target.port = none ∧
      after = net.update target.device fun device => device.wire target.port source := by
  unfold connect at h
  split at h
  · cases h
  · next driver hdriver =>
    split at h
    · cases h
    · next houtput =>
      split at h
      · cases h
      · next device hdevice =>
        split at h
        · cases h
        · next hinput =>
          split at h
          · cases h
          · next hfree =>
            cases h
            exact ⟨driver, device, hdriver, by simpa using houtput, hdevice, by simpa using hinput,
              by simpa using hfree, rfl⟩

/-- A wire changes no handle. -/
theorem ids_wire (source : OutputRef) (target : InputRef) :
    (net.update target.device fun device => device.wire target.port source).ids = net.ids := by
  rw [ids, ids, update, List.map_map]
  refine List.map_congr_left fun device _ => ?_
  simp only [Function.comp_apply]
  split <;> rfl

/-- **A built network has distinct handles.** -/
theorem Built.distinct (h : net.Built) : net.Distinct := by
  -- by induction on how the network was put together; only a new device adds a handle, and that one was
  -- free
  induction h with
  | empty => exact List.nodup_nil
  | @addDevice net after id name kind _ h ih =>
    obtain ⟨hfree, -, rfl⟩ := addDevice_eq_ok h
    have hids : ({ devices := net.devices ++ [Device.new id name kind] } : Network).ids
        = net.ids ++ [id] := by
      rw [ids, ids, List.map_append]
      rfl
    rw [Distinct, hids]
    exact List.Nodup.append ih (List.nodup_singleton id) (by simpa using hfree)
  | connect _ h ih =>
    obtain ⟨_, _, _, _, _, _, _, rfl⟩ := connect_eq_ok h
    rw [Distinct, ids_wire]
    exact ih
  | setSwitch _ h ih => exact ih.of_drawing_eq (drawing_setSwitch? ih h)
  | coldStart _ ih => exact ih.of_drawing_eq drawing_coldStart

end Network

/-! ## Running -/

namespace Simulator

variable {sim after : Simulator}

/-- The simulators that a network can be taken through: cycles, completed or not, flips of switches
and cold starts, in any order. -/
inductive Reachable : Simulator → Prop where
  | new {net : Network} (hnet : net.Built) (fixedLimit : Option Nat) :
      Reachable (.new net fixedLimit)
  | step {sim : Simulator} (hsim : Reachable sim) : Reachable sim.step.1
  | setSwitch {sim after : Simulator} {id : NameId} {level : Level}
      (hsim : Reachable sim) (h : sim.setSwitch? id level = some after) : Reachable after
  | coldStart {sim : Simulator} (hsim : Reachable sim) : Reachable sim.coldStart

/-- **How a cycle ends.** The gates settle and the flip-flops latch, or the cycle fails with the
network as the last sweep left it. -/
theorem step_cases (sim : Simulator) :
    (∃ settled passes, sim.network.advanceSources.settle sim.sweepLimit = (settled, some passes) ∧
      sim.step = ({ sim with network := settled.latchAll, cycle := sim.cycle + 1 }, .ok ())) ∨
    (∃ unsettled, sim.network.advanceSources.settle sim.sweepLimit = (unsettled, none) ∧
      sim.step = ({ sim with network := unsettled },
        .error (.oscillating (sim.cycle + 1) sim.sweepLimit))) := by
  rcases hsettle : sim.network.advanceSources.settle sim.sweepLimit with ⟨settled, _ | passes⟩
  · refine .inr ⟨settled, rfl, ?_⟩
    rw [step, hsettle]
  · refine .inl ⟨settled, passes, rfl, ?_⟩
    rw [step, hsettle]

/-- The network that a cycle settles to shows the drawing it started from. -/
theorem drawing_settled {settled : Network} {passes : Option Nat}
    (h : sim.network.advanceSources.settle sim.sweepLimit = (settled, passes)) :
    settled.drawing = sim.network.drawing := by
  -- sources, sweeps and flip-flops in turn, each of which leaves the drawing
  have hadvance : sim.network.advanceSources.drawing = sim.network.drawing :=
    Network.drawing_advanceSources
  have hsettle := Network.drawing_settle sim.network.advanceSources sim.sweepLimit
  rw [h] at hsettle
  exact hsettle.trans hadvance

/-- A cycle moves states only. -/
theorem drawing_step (hnet : sim.network.Distinct) :
    sim.step.1.network.drawing = sim.network.drawing := by
  rcases step_cases sim with ⟨settled, passes, hsettle, hstep⟩ | ⟨unsettled, hsettle, hstep⟩
  · have hsettled := drawing_settled hsettle
    rw [hstep]
    exact (Network.drawing_latchAll (hnet.of_drawing_eq hsettled)).trans hsettled
  · rw [hstep]
    exact drawing_settled hsettle

/-- A cycle keeps the limit on its sweeps. -/
theorem fixedLimit_step (sim : Simulator) : sim.step.1.fixedLimit = sim.fixedLimit := by
  rcases step_cases sim with ⟨_, _, -, hstep⟩ | ⟨_, -, hstep⟩
  · rw [hstep]
  · rw [hstep]

/-- **Reachable simulators have distinct handles.** -/
theorem Reachable.distinct (h : sim.Reachable) : sim.network.Distinct := by
  -- every move leaves the drawing, or is made on a simulator whose handles are distinct already
  induction h with
  | new hnet fixedLimit => exact hnet.distinct
  | step _ ih => exact ih.of_drawing_eq (drawing_step ih)
  | setSwitch _ h ih =>
    rw [setSwitch?, Option.map_eq_some_iff] at h
    obtain ⟨network, hset, rfl⟩ := h
    exact ih.of_drawing_eq (Network.drawing_setSwitch? ih hset)
  | coldStart _ ih => exact ih.of_drawing_eq Network.drawing_coldStart

end Simulator

end LogicCircuit
