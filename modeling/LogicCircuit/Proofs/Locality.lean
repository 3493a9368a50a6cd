import LogicCircuit.Proofs.Latching
import LogicCircuit.Proofs.Sweep
import Mathlib.Data.Finset.Basic

/-!
# Locality — what a signal does not depend on never shows in it

Take a set of devices that holds, with each device, all that drives it. The settle loop has one stop
test for the whole network, so the rest of the network decides how many sweeps these devices get, and
with feedback in the set no number of sweeps is known to be enough. All the same the set runs as if it
were alone:

* **`Network.part`** — the network of the set alone. Each phase of a cycle commutes with taking the
  part: a step at a device of the set is a step of the part, and a step elsewhere does not show in it
  (`Network.part_foldl`).
* **`Network.settle_part`** — a sweep that changes nothing in the network changes nothing in the part, so
  the part has come to rest by the time the network has; the sweeps it gets beyond that do nothing.
* **`Simulator.Isolates`** — a simulator of the part, with a limit that is at least as large, keeps up
  with a simulator of the network as long as cycles are completed.
* **`Simulator.fanin_local`** — so two simulators that have the part in common agree on it.
-/

namespace LogicCircuit

/-! ## Parts of networks -/

/-- The device without its name, which only reports make use of. -/
def Device.unnamed (device : Device) : Device :=
  { device with name := "" }

namespace Device

variable {device : Device}

@[simp] theorem id_unnamed : device.unnamed.id = device.id := rfl

@[simp] theorem drivers_unnamed : device.unnamed.drivers = device.drivers := rfl

@[simp] theorem element_unnamed : device.unnamed.element = device.element := rfl

end Device

namespace Network

variable {S : Finset NameId} {net after : Network} {id : NameId} {device : Device}

/-- The devices with handles in a set, in definition order: kinds, wires and states without names. -/
def part (net : Network) (S : Finset NameId) : Network :=
  { devices := (net.devices.filter fun device => device.id ∈ S).map Device.unnamed }

/-- What drives a device of the set is a device of the set. -/
def FaninClosed (net : Network) (S : Finset NameId) : Prop :=
  ∀ device ∈ net.devices, device.id ∈ S →
    ∀ input ∈ device.drivers, ∀ source ∈ input.2, source.device ∈ S

instance : Decidable (net.FaninClosed S) :=
  inferInstanceAs (Decidable (∀ device ∈ net.devices, device.id ∈ S →
    ∀ input ∈ device.drivers, ∀ source ∈ input.2, source.device ∈ S))

/-- Wires are part of the drawing. -/
theorem FaninClosed.of_drawing_eq (hclosed : net.FaninClosed S) (h : after.drawing = net.drawing) :
    after.FaninClosed S := by
  intro device hmem
  obtain ⟨found, hfound, hdrawn⟩ := exists_mem_of_drawing_eq h hmem
  obtain ⟨hid, -, hdrivers, -⟩ := Device.drawn_eq_iff.1 hdrawn
  rw [← hid, ← hdrivers]
  exact hclosed found hfound

/-- So they are of a part, which has the wires of its devices. -/
theorem FaninClosed.of_part_eq (hclosed : net.FaninClosed S) (h : after.part S = net.part S) :
    after.FaninClosed S := by
  intro device hmem hid
  have hpart : device.unnamed ∈ (net.part S).devices := by
    rw [← h, part]
    exact List.mem_map_of_mem (List.mem_filter.2 ⟨hmem, by simpa using hid⟩)
  obtain ⟨found, hfound, heq⟩ := List.mem_map.1 hpart
  have hids : found.id = device.id := by simpa using congrArg Device.id heq
  have hdrivers : found.drivers = device.drivers := by simpa using congrArg Device.drivers heq
  rw [← hdrivers]
  rw [← hids] at hid
  exact hclosed found (List.mem_filter.1 hfound).1 hid

/-! ### Reading a part -/

/-- A part is searched like the network, but for the names. -/
theorem device?_part (hid : id ∈ S) :
    (net.part S).device? id = (net.device? id).map Device.unnamed := by
  rw [device?, part, List.find?_map, List.find?_filter, device?]
  congr 2
  funext device
  by_cases heq : device.id = id
  · simp [Device.unnamed, heq, hid]
  · simp [Device.unnamed, heq]

theorem ids_part : (net.part S).ids = net.ids.filter fun id => id ∈ S := by
  rw [ids, ids, part, List.map_map, List.filter_map]
  rfl

theorem device?_part_of_notMem (hid : id ∉ S) : (net.part S).device? id = none := by
  rw [device?_eq_none_iff, ids_part, List.mem_filter]
  simp [hid]

theorem Distinct.part (hnet : net.Distinct) : (net.part S).Distinct := by
  rw [Distinct, ids_part]
  exact List.Nodup.filter _ hnet

/-- The devices with handles in the set are those that are found under them. -/
theorem Distinct.filterMap_device? (hnet : net.Distinct) :
    (net.ids.filter fun id => id ∈ S).filterMap net.device?
      = net.devices.filter fun device => device.id ∈ S := by
  have hfound : ∀ device ∈ net.devices.filter (fun device => device.id ∈ S),
      (net.device? ∘ Device.id) device = some device := by
    intro device hmem
    exact hnet.device?_eq_some_iff.2 ⟨(List.mem_filter.1 hmem).1, rfl⟩
  rw [ids, List.filter_map, List.filterMap_map]
  exact (List.filterMap_congr hfound).trans List.filterMap_some

/-- What changes none of the devices of the set does not show in the part. -/
theorem part_eq_of_device? (hnet : net.Distinct) (hdrawing : after.drawing = net.drawing)
    (h : ∀ id ∈ S, after.device? id = net.device? id) : after.part S = net.part S := by
  -- the devices of the part are found one by one, in the order of the handles
  have hfound : ∀ id ∈ net.ids.filter (fun id => id ∈ S), after.device? id = net.device? id := by
    intro id hid
    exact h id (by simpa using (List.mem_filter.1 hid).2)
  rw [part, part, ← (hnet.of_drawing_eq hdrawing).filterMap_device?, ← hnet.filterMap_device?,
    ids_eq_of_drawing_eq hdrawing, List.filterMap_congr hfound]

/-- Inside the part levels are those of the network. -/
theorem level?_part {output : OutputRef} (h : output.device ∈ S) :
    (net.part S).level? output = net.level? output := by
  rw [level?, level?, device?_part h]
  cases net.device? output.device <;> rfl

theorem drivenLevel_part {driver : Option OutputRef}
    (h : ∀ source, driver = some source → source.device ∈ S) :
    (net.part S).drivenLevel driver = net.drivenLevel driver := by
  cases driver with
  | none => rfl
  | some source =>
    rw [drivenLevel, drivenLevel, Option.bind_some, Option.bind_some, level?_part (h source rfl)]

section Inputs

variable (hclosed : net.FaninClosed S) (hid : id ∈ S) (hdevice : net.device? id = some device)
include hclosed hid hdevice

theorem inputLevels_part : (net.part S).inputLevels device.unnamed = net.inputLevels device := by
  obtain ⟨hmem, rfl⟩ := mem_of_device? hdevice
  exact List.map_congr_left fun input hinput => drivenLevel_part (hclosed device hmem hid input hinput)

theorem inputLevel_part (port : InputPort) :
    (net.part S).inputLevel device.unnamed port = net.inputLevel device port := by
  obtain ⟨hmem, rfl⟩ := mem_of_device? hdevice
  -- a driver that is looked up is one of those that the closure is about
  refine drivenLevel_part fun source hsource => ?_
  have hlookup : device.drivers.lookup port = some (some source) := Option.join_eq_some_iff.1 hsource
  obtain ⟨before, rest, hdrivers, -⟩ := List.lookup_eq_some_iff.1 hlookup
  exact hclosed device hmem hid (port, some source) (by simp [hdrivers]) source rfl

end Inputs

/-! ### Changing a part -/

/-- A change of the element of one device, the same under any name. -/
theorem part_update {element : Device → Element}
    (h : ∀ device, element device.unnamed = element device) :
    (net.update id fun device => device.withElement (element device)).part S
      = (net.part S).update id fun device => device.withElement (element device) := by
  -- a change of the element moves no device into the part or out of it
  have hkept : (fun device : Device => decide (device.id ∈ S)) ∘ (fun device : Device =>
      if device.id = id then device.withElement (element device) else device)
      = fun device => decide (device.id ∈ S) := by
    funext device
    simp only [Function.comp_apply]
    split <;> rfl
  rw [part, part, update, update, List.filter_map, hkept, List.map_map, List.map_map]
  congr 1
  refine List.map_congr_left fun device _ => ?_
  show (if device.id = id then device.withElement (element device) else device).unnamed
    = if device.id = id then device.unnamed.withElement (element device.unnamed) else device.unnamed
  rw [h]
  split <;> rfl

/-- A change of all devices is one of the devices of the part. -/
theorem part_map (element : Element → Element) :
    ({ devices := net.devices.map fun device => device.withElement (element device.element) } :
      Network).part S
      = { devices := (net.part S).devices.map fun device =>
            device.withElement (element device.element) } := by
  rw [part, part, List.filter_map, List.map_map, List.map_map]
  rfl

/-- Steps from handle to handle carry over to the part, if those at its devices do. The others are
local, so they do not show in it. -/
theorem part_foldl {step : Network → NameId → Network} (hlocal : IsLocal step)
    (hdrawing : ∀ net id, net.Distinct → (step net id).drawing = net.drawing)
    (hstep : ∀ net id, net.FaninClosed S → id ∈ S → (step net id).part S = step (net.part S) id)
    (visited : List NameId) (net : Network) (hnet : net.Distinct) (hclosed : net.FaninClosed S) :
    (visited.foldl step net).part S = (visited.filter fun id => id ∈ S).foldl step (net.part S) := by
  induction visited generalizing net with
  | nil => rfl
  | cons id rest ih =>
    -- what has been left by the first step still has the same wires
    have hnext := hdrawing net id hnet
    rw [List.foldl_cons, ih _ (hnet.of_drawing_eq hnext) (hclosed.of_drawing_eq hnext)]
    by_cases hid : id ∈ S
    · rw [List.filter_cons_of_pos (by simpa using hid), List.foldl_cons, hstep net id hclosed hid]
    · have hunseen : (step net id).part S = net.part S :=
        part_eq_of_device? hnet hnext fun other hother =>
          hlocal net id other fun h => hid (h ▸ hother)
      rw [List.filter_cons_of_neg (by simpa using hid), hunseen]

/-! ## The phases of a cycle -/

theorem part_coldStart : net.coldStart.part S = (net.part S).coldStart :=
  part_map Element.reset

theorem part_advanceSources : net.advanceSources.part S = (net.part S).advanceSources :=
  part_map Element.advance

/-- Setting a switch in the network and then taking the part is setting it in the part. A switch
elsewhere is not there in the part, and does not show in it. -/
theorem part_setSwitch (hnet : net.Distinct) (id : NameId) (level : Level) :
    ((net.setSwitch? id level).getD net).part S
      = ((net.part S).setSwitch? id level).getD (net.part S) := by
  -- a switch of the part is found in it; any other is not, and changes nothing in it
  by_cases hid : id ∈ S
  · cases hdevice : net.device? id with
    | none => simp [setSwitch?, device?_part hid, hdevice]
    | some device =>
      cases hset : device.element.setSwitch? level with
      | none => simp [setSwitch?, device?_part hid, hdevice, hset]
      | some element => simp [setSwitch?, device?_part hid, hdevice, hset, part_update]
  · have habsent : (net.part S).setSwitch? id level = none := by
      simp [setSwitch?, device?_part_of_notMem hid]
    rw [habsent, Option.getD_none]
    cases hset : net.setSwitch? id level with
    | none => rfl
    | some after =>
      refine part_eq_of_device? hnet (drawing_setSwitch? hnet hset) fun other hother => ?_
      obtain ⟨device, initial, old, -, -, rfl⟩ := setSwitch?_eq_some hset
      have hne : other ≠ id := fun heq => hid (heq ▸ hother)
      rw [Option.getD_some, device?_update_element, if_neg hne]

/-- A gate of the part has all its inputs in the part, so it is driven to the same level there. -/
theorem part_relax (net : Network) (id : NameId) (hclosed : net.FaninClosed S) (hid : id ∈ S) :
    (net.relax id).part S = (net.part S).relax id := by
  cases hdevice : net.device? id with
  | none => simp only [relax, device?_part hid, hdevice, Option.map_none]
  | some device =>
    simp only [relax, device?_part hid, hdevice, Option.map_some, Device.element_unnamed,
      inputLevels_part hclosed hid hdevice]
    cases device.element with
    | gate op inputs output =>
      simp only
      split
      · rfl
      · exact part_update fun _ => rfl
    | _ => rfl

/-- A sweep makes the turns of the part in their order, with turns in between that do not show in it. -/
theorem part_sweep (hnet : net.Distinct) (hclosed : net.FaninClosed S) :
    net.sweep.part S = (net.part S).sweep := by
  rw [sweep, sweep, ids_part]
  exact part_foldl isLocal_relax (fun net id _ => drawing_relax net id) part_relax net.ids net hnet
    hclosed

/-- A flip-flop of the part reads the levels that it reads in the network. -/
theorem part_latch (net : Network) (id : NameId) (hclosed : net.FaninClosed S) (hid : id ∈ S) :
    (net.latch id).part S = (net.part S).latch id := by
  cases hdevice : net.device? id with
  | none => simp only [latch, device?_part hid, hdevice, Option.map_none]
  | some device =>
    simp only [latch, device?_part hid, hdevice, Option.map_some, Device.element_unnamed,
      inputLevel_part hclosed hid hdevice]
    cases device.element with
    | dtype memory lastClk => exact part_update fun _ => rfl
    | _ => rfl

theorem part_latchAll (hnet : net.Distinct) (hclosed : net.FaninClosed S) :
    net.latchAll.part S = (net.part S).latchAll := by
  rw [latchAll, latchAll, ids_part]
  exact part_foldl isLocal_latch (fun _ id hnet => drawing_latch hnet id) part_latch net.ids net hnet
    hclosed

/-! ## Settling -/

/-- The part goes from sweep to sweep with its network. -/
theorem part_iterate_sweep (hnet : net.Distinct) (hclosed : net.FaninClosed S) (count : Nat) :
    (sweep^[count] net).part S = sweep^[count] (net.part S) := by
  induction count with
  | zero => rfl
  | succ count ih =>
    have hdrawing := drawing_iterate_sweep net count
    rw [Function.iterate_succ_apply', Function.iterate_succ_apply',
      part_sweep (hnet.of_drawing_eq hdrawing) (hclosed.of_drawing_eq hdrawing), ih]

/-- What some number of sweeps within the limit makes steady is what settling answers: the sweeps after
the first one that changed nothing have changed nothing either. -/
theorem exists_settle_of_fixed {count limit : Nat} (hlt : count < limit)
    (hfixed : (sweep^[count] net).sweep = sweep^[count] net) :
    ∃ passes, net.settle limit = (sweep^[count] net, some passes) := by
  rcases settle_cases net limit with ⟨first, -, hsettle, hfirst, hbefore⟩ | ⟨-, hbefore⟩
  · -- the first sweep that changes nothing comes no later
    have hle : first ≤ count := by
      by_contra hlater
      exact hbefore count (by omega) hfixed
    have hrest : sweep^[count] net = sweep^[first] net := by
      rw [show count = (count - first) + first from by omega, Function.iterate_add_apply]
      exact Function.iterate_fixed hfirst _
    rw [hrest]
    exact ⟨first + 1, hsettle⟩
  · exact absurd hfixed (hbefore count hlt)

/-- **A part settles with its network**, under any limit that is at least as large, to the part of what the
network settles to. -/
theorem settle_part (hnet : net.Distinct) (hclosed : net.FaninClosed S) {limit wider passes : Nat}
    (hlimit : limit ≤ wider) (h : net.settle limit = (after, some passes)) :
    ∃ fewer, (net.part S).settle wider = (after.part S, some fewer) := by
  rcases settle_cases net limit with ⟨count, hlt, hsettle, hfixed, -⟩ | ⟨hsettle, -⟩
  · rw [hsettle] at h
    cases h
    have hdrawing := drawing_iterate_sweep net count
    rw [part_iterate_sweep hnet hclosed]
    apply exists_settle_of_fixed (by omega)
    -- what holds the network holds the part
    rw [← part_iterate_sweep hnet hclosed,
      ← part_sweep (hnet.of_drawing_eq hdrawing) (hclosed.of_drawing_eq hdrawing), hfixed]
  · rw [hsettle] at h
    cases h

/-! ## Switches -/

/-- A switch can be set where there is one. -/
theorem isSome_setSwitch?_iff {level : Level} : (net.setSwitch? id level).isSome ↔
    ∃ device initial, net.device? id = some device ∧ device.kind = .switch initial := by
  cases hdevice : net.device? id with
  | none => simp [setSwitch?, hdevice]
  | some device =>
    cases helement : device.element <;>
      simp [setSwitch?, hdevice, helement, Element.setSwitch?, Device.kind, Element.kind]

/-- Where there is a switch is part of the drawing. -/
theorem isSome_setSwitch?_of_drawing_eq {level : Level} (h : after.drawing = net.drawing)
    (hsome : (net.setSwitch? id level).isSome) : (after.setSwitch? id level).isSome := by
  obtain ⟨device, initial, hdevice, hkind⟩ := isSome_setSwitch?_iff.1 hsome
  obtain ⟨found, hfound, hdrawn⟩ := exists_device?_of_drawing_eq h hdevice
  obtain ⟨-, -, -, hkinds⟩ := Device.drawn_eq_iff.1 hdrawn
  exact isSome_setSwitch?_iff.2 ⟨found, initial, hfound, hkinds.trans hkind⟩

end Network

/-! ## Simulators -/

namespace Simulator

variable {S : Finset NameId} {limit : Nat} {sim alone after other : Simulator}

/-- What can be done to a simulator. -/
inductive Move where
  | step
  | setSwitch (id : NameId) (level : Level)
  | coldStart
  deriving DecidableEq

/-- Whether a move concerns a network. The setting of a switch does if the network has the switch. -/
def Move.reaches (net : Network) : Move → Bool
  | .setSwitch id level => (net.setSwitch? id level).isSome
  | .step | .coldStart => true

theorem Move.reaches_of_drawing_eq {net after : Network} (h : after.drawing = net.drawing)
    (action : Move) : action.reaches after = action.reaches net := by
  cases action with
  | setSwitch id level =>
    rw [reaches, reaches, Bool.eq_iff_iff]
    exact ⟨Network.isSome_setSwitch?_of_drawing_eq h.symm, Network.isSome_setSwitch?_of_drawing_eq h⟩
  | _ => rfl

/-- The simulator after a move. The setting of what is no switch does nothing. -/
def move (sim : Simulator) : Move → Simulator
  | .step => sim.step.1
  | .setSwitch id level => (sim.setSwitch? id level).getD sim
  | .coldStart => sim.coldStart

/-- The cycles among some moves: the simulator each one leaves, and its result. -/
def steps (sim : Simulator) : List Move → List (Simulator × Except Fault Unit)
  | [] => []
  | .step :: moves => sim.step :: sim.step.1.steps moves
  | .setSwitch id level :: moves => (sim.move (.setSwitch id level)).steps moves
  | .coldStart :: moves => (sim.move .coldStart).steps moves

theorem network_setSwitch (sim : Simulator) (id : NameId) (level : Level) :
    (sim.move (.setSwitch id level)).network
      = (sim.network.setSwitch? id level).getD sim.network := by
  rw [move, setSwitch?]
  cases sim.network.setSwitch? id level <;> rfl

/-- A move changes states only. -/
theorem drawing_move (hnet : sim.network.Distinct) (action : Move) :
    (sim.move action).network.drawing = sim.network.drawing := by
  cases action with
  | step => exact drawing_step hnet
  | setSwitch id level =>
    rw [network_setSwitch]
    cases hset : sim.network.setSwitch? id level with
    | none => rfl
    | some network => exact Network.drawing_setSwitch? hnet hset
  | coldStart => exact Network.drawing_coldStart

/-- Moves leave the limit that was given, and so, with the size, the one that counts. -/
theorem fixedLimit_move (action : Move) : (sim.move action).fixedLimit = sim.fixedLimit := by
  cases action with
  | step => exact fixedLimit_step sim
  | setSwitch id level =>
    rw [move, setSwitch?]
    cases sim.network.setSwitch? id level <;> rfl
  | coldStart => rfl

theorem sweepLimit_move (hnet : sim.network.Distinct) (action : Move) :
    (sim.move action).sweepLimit = sim.sweepLimit := by
  have hids := Network.ids_eq_of_drawing_eq (drawing_move hnet action)
  have hsize : (sim.move action).network.size = sim.network.size := by
    simpa [Network.ids, Network.size] using congrArg List.length hids
  rw [sweepLimit, sweepLimit, fixedLimit_move, hsize]

/-- `alone` has the part of the network of `sim` for its network, and a limit with which it can keep
up. -/
structure Isolates (S : Finset NameId) (limit : Nat) (sim alone : Simulator) : Prop where
  distinct : sim.network.Distinct
  closed : sim.network.FaninClosed S
  network : alone.network = sim.network.part S
  fixedLimit : alone.fixedLimit = some limit
  limit : sim.sweepLimit ≤ limit

namespace Isolates

/-- **A completed cycle of the network** is one of the part. -/
theorem network_step (h : Isolates S limit sim alone) (hok : sim.step.2 = .ok ()) :
    alone.step.1.network = sim.step.1.network.part S := by
  -- the cycle is completed, so the sweeps have come to rest
  rcases step_cases sim with ⟨settled, passes, hsettle, hstep⟩ | ⟨_, -, hstep⟩
  · have hsources : sim.network.advanceSources.drawing = sim.network.drawing :=
      Network.drawing_advanceSources
    have hsettled := drawing_settled hsettle
    have hwider : sim.sweepLimit ≤ alone.sweepLimit := by
      show sim.sweepLimit ≤ alone.fixedLimit.getD _
      rw [h.fixedLimit]
      exact h.limit
    -- by itself the part may need fewer sweeps, but it comes to the same rest
    obtain ⟨fewer, hpart⟩ := Network.settle_part (h.distinct.of_drawing_eq hsources)
      (h.closed.of_drawing_eq hsources) hwider hsettle
    rw [Network.part_advanceSources, ← h.network] at hpart
    rw [hstep, step, hpart]
    exact (Network.part_latchAll (h.distinct.of_drawing_eq hsettled)
      (h.closed.of_drawing_eq hsettled)).symm
  · rw [hstep] at hok
    cases hok

/-- Every move of the network is the same one of the part. -/
theorem network_move (h : Isolates S limit sim alone) {action : Move}
    (hok : action = .step → sim.step.2 = .ok ()) :
    (alone.move action).network = (sim.move action).network.part S := by
  cases action with
  | step => exact h.network_step (hok rfl)
  | setSwitch id level =>
    rw [network_setSwitch, network_setSwitch, Network.part_setSwitch h.distinct, h.network]
  | coldStart =>
    show alone.network.coldStart = sim.network.coldStart.part S
    rw [h.network, Network.part_coldStart]

/-- A move that is completed in the network is made in the part as well. -/
theorem move (h : Isolates S limit sim alone) {action : Move}
    (hok : action = .step → sim.step.2 = .ok ()) :
    Isolates S limit (sim.move action) (alone.move action) where
  distinct := h.distinct.of_drawing_eq (drawing_move h.distinct action)
  closed := h.closed.of_drawing_eq (drawing_move h.distinct action)
  network := h.network_move hok
  fixedLimit := by rw [fixedLimit_move, h.fixedLimit]
  limit := by
    rw [sweepLimit_move h.distinct]
    exact h.limit

/-- **The part keeps up** as long as cycles are completed. -/
theorem steps (h : Isolates S limit sim alone) (moves : List Move)
    (hok : ∀ outcome ∈ sim.steps moves, outcome.2 = .ok ()) :
    (alone.steps moves).map (fun outcome => outcome.1.network)
      = (sim.steps moves).map fun outcome => outcome.1.network.part S := by
  -- by induction on the moves; after each of them the part is still that of the network
  induction moves generalizing sim alone with
  | nil => rfl
  | cons action moves ih =>
    cases action with
    | step =>
      have hstep : sim.step.2 = .ok () := hok sim.step List.mem_cons_self
      have hnext : Isolates S limit (sim.move .step) (alone.move .step) := h.move fun _ => hstep
      rw [Simulator.steps, Simulator.steps, List.map_cons, List.map_cons, h.network_step hstep]
      congr 1
      exact ih hnext fun outcome hmem => hok outcome (List.mem_cons_of_mem _ hmem)
    | setSwitch id level => exact ih (h.move nofun) hok
    | coldStart => exact ih (h.move nofun) hok

end Isolates

/-- Moves that do not concern a network make no difference. -/
theorem steps_filter {net : Network} (hsim : sim.network.Distinct)
    (hnet : sim.network.drawing = net.drawing) (moves : List Move) :
    sim.steps (moves.filter fun action => action.reaches net) = sim.steps moves := by
  induction moves generalizing sim with
  | nil => rfl
  | cons action moves ih =>
    have hdrawing := drawing_move hsim action
    have hrest := ih (hsim.of_drawing_eq hdrawing) (hdrawing.trans hnet)
    cases action with
    | step =>
      rw [List.filter_cons_of_pos rfl, steps, steps]
      exact congrArg _ hrest
    | setSwitch id level =>
      by_cases hreach : (Move.setSwitch id level).reaches net
      · rw [List.filter_cons_of_pos hreach]
        exact hrest
      · -- there is no such switch, so nothing is set
        have hself : sim.move (.setSwitch id level) = sim := by
          rw [← Move.reaches_of_drawing_eq hnet, Move.reaches, Option.not_isSome_iff_eq_none] at hreach
          rw [move, setSwitch?, hreach, Option.map_none, Option.getD_none]
        rw [hself] at hrest
        rw [List.filter_cons_of_neg hreach, hrest, steps, hself]
    | coldStart =>
      rw [List.filter_cons_of_pos rfl]
      exact hrest

/-- **Locality.** Two simulators that have a part in common, with all that drives it, agree on it after
every cycle, whatever else there is in their networks and whatever is done there, if the part is treated
alike and all cycles are completed. Of the networks it is only asked that their handles are distinct, as
in all that are put together (`Network.Built.distinct`, `Reachable.distinct`). -/
theorem fanin_local (hsim : sim.network.Distinct) (hother : other.network.Distinct)
    (hclosed : sim.network.FaninClosed S) (hshared : other.network.part S = sim.network.part S)
    {moves moves' : List Move}
    (hmoves : moves'.filter (fun action => action.reaches (sim.network.part S))
      = moves.filter fun action => action.reaches (sim.network.part S))
    (hok : ∀ outcome ∈ sim.steps moves, outcome.2 = .ok ())
    (hok' : ∀ outcome ∈ other.steps moves', outcome.2 = .ok ()) :
    ((other.steps moves').map fun outcome => outcome.1.network.part S)
      = ((sim.steps moves).map fun outcome => outcome.1.network.part S) ∧
    ∀ output : OutputRef, output.device ∈ S →
      ((other.steps moves').map fun outcome => outcome.1.network.level? output)
        = (sim.steps moves).map fun outcome => outcome.1.network.level? output := by
  -- one simulator of the part keeps up with both
  let limit := max sim.sweepLimit other.sweepLimit
  let alone : Simulator := .new (sim.network.part S) (some limit)
  have hisolates : Isolates S limit sim alone := ⟨hsim, hclosed, rfl, rfl, le_max_left _ _⟩
  have hisolates' : Isolates S limit other alone :=
    ⟨hother, hclosed.of_part_eq hshared, hshared.symm, rfl, le_max_right _ _⟩
  have hparts : ((other.steps moves').map fun outcome => outcome.1.network.part S)
      = (sim.steps moves).map fun outcome => outcome.1.network.part S := by
    have hreached : ∀ moves : List Move, alone.steps
        (moves.filter fun action => action.reaches (sim.network.part S)) = alone.steps moves :=
      steps_filter hsim.part rfl
    rw [← hisolates.steps moves hok, ← hisolates'.steps moves' hok', ← hreached moves,
      ← hreached moves', hmoves]
  refine ⟨hparts, fun output houtput => ?_⟩
  -- the level on an output of the part can be read off the part
  have hlevel : ∀ outcomes : List (Simulator × Except Fault Unit),
      (outcomes.map fun outcome => outcome.1.network.level? output)
        = (outcomes.map fun outcome => outcome.1.network.part S).map (·.level? output) := by
    intro outcomes
    rw [List.map_map]
    exact List.map_congr_left fun outcome _ => (Network.level?_part houtput).symm
  rw [hlevel, hlevel, hparts]

/-- A switch and an OR gate that also feeds itself: the gate holds what it has been set to. -/
def holding : Simulator :=
  .new
    { devices :=
        [⟨⟨0⟩, "S", [], .switch .low .low⟩,
          ⟨⟨1⟩, "G", [(.gate 1, some ⟨⟨0⟩, .main⟩), (.gate 2, some ⟨⟨1⟩, .main⟩)], .gate .or 2 .low⟩] }
    none

/-- The same two devices among others. A row of four inverters starts from the gate, and three of them come
before what drives them: with them the first cycle takes five sweeps, without them one. -/
def surrounded : Simulator :=
  .new
    { devices :=
        [⟨⟨5⟩, "A", [(.gate 1, some ⟨⟨4⟩, .main⟩)], .gate .nand 1 .low⟩,
          ⟨⟨4⟩, "B", [(.gate 1, some ⟨⟨3⟩, .main⟩)], .gate .nand 1 .high⟩,
          ⟨⟨0⟩, "T", [], .switch .low .low⟩,
          ⟨⟨3⟩, "C", [(.gate 1, some ⟨⟨2⟩, .main⟩)], .gate .nand 1 .low⟩,
          ⟨⟨1⟩, "H", [(.gate 1, some ⟨⟨0⟩, .main⟩), (.gate 2, some ⟨⟨1⟩, .main⟩)], .gate .or 2 .low⟩,
          ⟨⟨2⟩, "D", [(.gate 1, some ⟨⟨1⟩, .main⟩)], .gate .nand 1 .low⟩,
          ⟨⟨6⟩, "E", [], .switch .low .low⟩] }
    (some 9)

/-- The gate is low until the switch goes high, and high from then on, in both of them. -/
theorem fanin_local_surrounded :
    let S : Finset NameId := {⟨0⟩, ⟨1⟩}
    let moves : List Move :=
      [.step, .setSwitch ⟨0⟩ .high, .step, .setSwitch ⟨0⟩ .low, .step]
    let moves' : List Move :=
      [.setSwitch ⟨6⟩ .high, .step, .setSwitch ⟨0⟩ .high, .setSwitch ⟨1⟩ .low, .step,
        .setSwitch ⟨0⟩ .low, .step]
    ((surrounded.steps moves').map fun outcome => outcome.1.network.part S)
      = ((holding.steps moves).map fun outcome => outcome.1.network.part S) ∧
    ((surrounded.steps moves').map fun outcome => outcome.1.network.level? ⟨⟨1⟩, .main⟩)
      = [some .low, some .high, some .high] := by
  intro S moves moves'
  have hshared : surrounded.network.part S = holding.network.part S := by decide
  have hmoves : moves'.filter (fun action => action.reaches (holding.network.part S))
      = moves.filter fun action => action.reaches (holding.network.part S) := by
    decide
  have hids : holding.network.ids.Nodup ∧ surrounded.network.ids.Nodup := by decide
  obtain ⟨hparts, hlevels⟩ := fanin_local hids.1 hids.2 (by decide) hshared hmoves (by decide)
    (by decide)
  refine ⟨hparts, ?_⟩
  rw [hlevels ⟨⟨1⟩, .main⟩ (by decide)]
  decide

end Simulator

end LogicCircuit
