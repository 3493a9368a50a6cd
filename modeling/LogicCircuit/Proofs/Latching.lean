import LogicCircuit.Proofs.Reachability

/-!
# Latching — flip-flops latch in turn, not together

At the end of a cycle the flip-flops latch one after the other, in definition order, and each shows
its new bit at once. So what a flip-flop reads from another one depends on the order in which the two
were defined:

* **`device?_latchAll_of_dtype`** — a flip-flop is latched from the levels at its turn
  (`Network.levelInTurn`): those after the cycle for drivers defined before it, the settled ones for
  all others.
* **`device?_latchAll_of_ne_dtype`** — nothing but flip-flops changes.
* **`latches_in_turn`** — the law of a completed cycle, with the exact condition under which a
  flip-flop comes out as if all had latched at one moment (`Device.LatchedTogether`). Wiring in which
  no flip-flop is driven by one defined before it is always of that kind.
* **`shiftRegister_not_latchedTogether`** — a shift register defined front to back is not.
-/

namespace LogicCircuit

/-- The bit a flip-flop stores next, from its state and the levels of its inputs. -/
def nextMemory (memory lastClk data clk set clear : Level) : Level :=
  if set = .high then .high
  else if clear = .high then .low
  else if lastClk = .low ∧ clk = .high then data
  else memory

namespace Network

variable {net : Network} {id other : NameId} {device : Device} {memory lastClk : Level}

/-! ## One flip-flop -/

/-- A device latched from the present levels of its inputs. -/
def latched (net : Network) (device : Device) : Device :=
  let level := net.inputLevel device
  device.withElement
    (device.element.latch (level .data) (level .clk) (level .set) (level .clear))

/-- A flip-flop stores what its inputs ask for, and the level of its clock. -/
theorem latched_of_dtype (h : device.element = .dtype memory lastClk) :
    net.latched device = device.withElement (.dtype
      (nextMemory memory lastClk (net.inputLevel device .data) (net.inputLevel device .clk)
        (net.inputLevel device .set) (net.inputLevel device .clear))
      (net.inputLevel device .clk)) := by
  rw [latched, h]
  rfl

/-- Any other device is left as it is. -/
theorem latched_of_ne_dtype (h : device.kind ≠ .dtype) : net.latched device = device := by
  obtain ⟨id, name, drivers, element⟩ := device
  cases element with
  | dtype memory lastClk => exact absurd rfl h
  | _ => rfl

/-- The turn of a device, seen through the handles. -/
theorem device?_latch : (net.latch id).device? other =
    if other = id then (net.device? id).map net.latched else net.device? other := by
  cases hdevice : net.device? id with
  | none =>
    simp only [latch, hdevice, Option.map_none]
    split
    · next h => rw [h, hdevice]
    · rfl
  | some device =>
    rw [Option.map_some]
    cases helement : device.element with
    | dtype memory lastClk =>
      simp only [latch, hdevice, helement]
      rw [device?_update_element, hdevice, Option.map_some, latched, helement]
    | _ =>
      simp only [latch, hdevice, helement]
      split
      · next h =>
        rw [h, hdevice, latched_of_ne_dtype]
        simp [Device.kind, Element.kind, helement]
      · rfl

/-- A turn reaches the device it is of, and no other. -/
theorem isLocal_latch : IsLocal latch := by
  intro net id other hother
  rw [device?_latch, if_neg hother]

/-! ## All flip-flops in turn -/

/-- The level that reaches an input from its driver when the devices with the handles `earlier` have
latched and no others have: `latched` is the network when all have. -/
def levelInTurn (settled latched : Network) (earlier : List NameId) : Option OutputRef → Level
  | none => .low
  | some source =>
    ((if source.device ∈ earlier then latched else settled).level? source).getD .low

/-- After the first turns, each device is either as it will be after the last or as it was before
the first. -/
theorem device?_foldl_latch {earlier later : List NameId} (hnodup : (earlier ++ later).Nodup) :
    (earlier.foldl latch net).device? id =
      (if id ∈ earlier then (earlier ++ later).foldl latch net else net).device? id := by
  split
  · -- what has had its turn is as it will be in the end
    next hid =>
    have hlater : id ∉ later := fun h => List.disjoint_of_nodup_append hnodup hid h
    rw [List.foldl_append]
    exact (device?_foldl_of_notMem isLocal_latch later _ hlater).symm
  · next hid => exact device?_foldl_of_notMem isLocal_latch earlier net hid

/-- So a driver shows its last level or its first one, depending on its place. -/
theorem drivenLevel_foldl_latch {earlier later : List NameId}
    (hnodup : (earlier ++ later).Nodup) (driver : Option OutputRef) :
    (earlier.foldl latch net).drivenLevel driver
      = levelInTurn net ((earlier ++ later).foldl latch net) earlier driver := by
  cases driver with
  | none => rfl
  | some source =>
    simp only [drivenLevel, levelInTurn, Option.bind_some]
    rw [level?_congr (device?_foldl_latch hnodup)]

/-- The turn of a device: what it becomes is decided by the levels at that moment. -/
theorem device?_latchAll {earlier later : List Device} (hnet : net.Distinct)
    (hdevices : net.devices = earlier ++ device :: later) :
    net.latchAll.device? device.id
      = some (((earlier.map Device.id).foldl latch net).latched device) := by
  have hids : net.ids = earlier.map Device.id ++ device.id :: later.map Device.id := by
    rw [ids, hdevices, List.map_append, List.map_cons]
  have hnodup : (earlier.map Device.id ++ device.id :: later.map Device.id).Nodup := hids ▸ hnet
  have hearlier : device.id ∉ earlier.map Device.id := fun h =>
    List.disjoint_of_nodup_append hnodup h List.mem_cons_self
  have hlater : device.id ∉ later.map Device.id :=
    (List.nodup_cons.1 (List.nodup_append.1 hnodup).2.1).1
  -- no turn but its own reaches the device
  have hbefore : ((earlier.map Device.id).foldl latch net).device? device.id = some device := by
    rw [device?_foldl_of_notMem isLocal_latch _ _ hearlier]
    exact hnet.device?_eq_some_iff.2 ⟨by simp [hdevices], rfl⟩
  rw [latchAll, hids, List.foldl_append, List.foldl_cons,
    device?_foldl_of_notMem isLocal_latch _ _ hlater, device?_latch, if_pos rfl, hbefore,
    Option.map_some]

/-- What is no flip-flop comes through all turns unchanged. -/
theorem device?_latchAll_of_ne_dtype (hnet : net.Distinct) (hdevice : net.device? id = some device)
    (hkind : device.kind ≠ .dtype) : net.latchAll.device? id = some device := by
  obtain ⟨hmem, rfl⟩ := mem_of_device? hdevice
  obtain ⟨earlier, later, hdevices⟩ := List.append_of_mem hmem
  rw [device?_latchAll hnet hdevices, latched_of_ne_dtype hkind]

/-- **A flip-flop is latched from the levels at its turn.** -/
theorem device?_latchAll_of_dtype {earlier later : List Device} (hnet : net.Distinct)
    (hdevices : net.devices = earlier ++ device :: later)
    (helement : device.element = .dtype memory lastClk) :
    let seen port :=
      levelInTurn net net.latchAll (earlier.map Device.id) (device.driver? port)
    net.latchAll.device? device.id = some (device.withElement (.dtype
      (nextMemory memory lastClk (seen .data) (seen .clk) (seen .set) (seen .clear))
      (seen .clk))) := by
  intro seen
  have hids : earlier.map Device.id ++ (device :: later).map Device.id = net.ids := by
    rw [ids, hdevices, List.map_append]
  -- the inputs are read when the devices in front have had their turns
  have hseen : ∀ port,
      ((earlier.map Device.id).foldl latch net).inputLevel device port = seen port := by
    intro port
    have hnodup : (earlier.map Device.id ++ (device :: later).map Device.id).Nodup :=
      hids.symm ▸ hnet
    rw [inputLevel, drivenLevel_foldl_latch hnodup, hids]
    rfl
  rw [device?_latchAll hnet hdevices, latched_of_dtype helement, hseen, hseen, hseen, hseen]

end Network

/-! ## A completed cycle -/

/-- The flip-flop comes out of a cycle as if all flip-flops had latched at one moment, from the
levels that the gates had settled to. -/
def Device.LatchedTogether (device : Device) (settled after : Network) : Prop :=
  ∀ memory lastClk, device.element = .dtype memory lastClk →
    let level := settled.inputLevel device
    after.device? device.id = some (device.withElement (.dtype
      (nextMemory memory lastClk (level .data) (level .clk) (level .set) (level .clear))
      (level .clk)))

namespace Network

variable {net : Network} {device : Device} {memory lastClk : Level}

/-- A driver that is no flip-flop, or that has its turn later, still shows the settled level. -/
theorem levelInTurn_eq_drivenLevel {earlier later : List Device} (hnet : net.Distinct)
    (hdevices : net.devices = earlier ++ later) {driver : Option OutputRef}
    (h : ∀ source, driver = some source → ∀ found ∈ earlier, found.kind = .dtype →
      found.id ≠ source.device) :
    levelInTurn net net.latchAll (earlier.map Device.id) driver = net.drivenLevel driver := by
  cases driver with
  | none => rfl
  | some source =>
    simp only [levelInTurn, drivenLevel, Option.bind_some]
    split
    · -- the driver is defined in front, so it is no flip-flop, and its turn has done nothing
      next hmem =>
      obtain ⟨found, hfound, hid⟩ := List.mem_map.1 hmem
      have hkind : found.kind ≠ .dtype := fun hkind => h source rfl found hfound hkind hid
      have hdevice : net.device? source.device = some found :=
        hnet.device?_eq_some_iff.2 ⟨by simp [hdevices, hfound], hid⟩
      have hkept : net.latchAll.device? source.device = net.device? source.device := by
        rw [device?_latchAll_of_ne_dtype hnet hdevice hkind, hdevice]
      rw [level?_congr hkept]
    · rfl

/-- A flip-flop shows the bit it stores, and its inverse. -/
theorem level?_of_dtype {id : NameId} (hdevice : net.device? id = some device)
    (helement : device.element = .dtype memory lastClk) :
    net.level? ⟨id, .q⟩ = some memory ∧ net.level? ⟨id, .qbar⟩ = some memory.invert := by
  rw [level?, level?, hdevice, Option.bind_some, Option.bind_some, Device.output?, Device.output?,
    helement]
  exact ⟨rfl, rfl⟩

end Network

/-- A flip-flop that was latched has latched with all others exactly if its new state is that of the
settled levels. -/
theorem Device.latchedTogether_iff (settled : Network) {after : Network} {device : Device}
    {memory lastClk stored clk : Level} (helement : device.element = .dtype memory lastClk)
    (hlatched : after.device? device.id = some (device.withElement (.dtype stored clk))) :
    let level := settled.inputLevel device
    device.LatchedTogether settled after ↔ clk = level .clk ∧
      stored = nextMemory memory lastClk (level .data) (level .clk) (level .set) (level .clear) := by
  intro level
  constructor
  · -- the device has one state after the cycle, which is given in two ways
    intro h
    have hsame := Option.some.inj (hlatched.symm.trans (h memory lastClk helement))
    have hstate := congrArg Device.element hsame
    rw [Device.element_withElement, Device.element_withElement, Element.dtype.injEq] at hstate
    exact ⟨hstate.2, hstate.1⟩
  · rintro ⟨hclk, hstored⟩ memory' lastClk' helement'
    rw [helement] at helement'
    cases helement'
    rw [hlatched, hclk, hstored]

namespace Simulator

/-- **Flip-flops latch in turn.** In a completed cycle every flip-flop is latched from the levels at
its turn, and shows the new bit and its inverse. It comes out as if all had latched together exactly
when these levels lead to the same state as the settled ones; they do when none of its inputs is
driven by a flip-flop defined before it. -/
theorem latches_in_turn {sim after : Simulator} (hsim : sim.Reachable)
    (hstep : sim.step = (after, .ok ())) :
    ∃ settled passes,
      sim.network.advanceSources.settle sim.sweepLimit = (settled, some passes) ∧
      ∀ earlier device later memory lastClk, settled.devices = earlier ++ device :: later →
        device.element = .dtype memory lastClk →
        let seen port := Network.levelInTurn settled after.network (earlier.map Device.id)
          (device.driver? port)
        let level := settled.inputLevel device
        let stored :=
          nextMemory memory lastClk (seen .data) (seen .clk) (seen .set) (seen .clear)
        after.network.device? device.id
            = some (device.withElement (.dtype stored (seen .clk))) ∧
          after.network.level? ⟨device.id, .q⟩ = some stored ∧
          after.network.level? ⟨device.id, .qbar⟩ = some stored.invert ∧
          (device.LatchedTogether settled after.network ↔ seen .clk = level .clk ∧
            stored = nextMemory memory lastClk (level .data) (level .clk) (level .set)
              (level .clear)) ∧
          ((∀ port source, device.driver? port = some source →
              ∀ found ∈ earlier, found.kind = .dtype → found.id ≠ source.device) →
            device.LatchedTogether settled after.network) := by
  rcases step_cases sim with ⟨settled, passes, hsettle, hok⟩ | ⟨unsettled, -, herror⟩
  · rw [hok] at hstep
    cases hstep
    refine ⟨settled, passes, hsettle, ?_⟩
    intro earlier device later memory lastClk hdevices helement seen level stored
    have hnet : settled.Distinct := hsim.distinct.of_drawing_eq (drawing_settled hsettle)
    have hlatched : settled.latchAll.device? device.id
        = some (device.withElement (.dtype stored (seen .clk))) :=
      Network.device?_latchAll_of_dtype hnet hdevices helement
    have htogether := Device.latchedTogether_iff settled helement hlatched
    obtain ⟨hq, hqbar⟩ := Network.level?_of_dtype hlatched rfl
    refine ⟨hlatched, hq, hqbar, htogether, ?_⟩
    -- no driver has latched when the turn comes
    intro hwiring
    have hseen : ∀ port, seen port = level port := fun port =>
      Network.levelInTurn_eq_drivenLevel hnet hdevices (hwiring port)
    refine htogether.2 ⟨hseen .clk, ?_⟩
    show nextMemory memory lastClk (seen .data) (seen .clk) (seen .set) (seen .clear) = _
    rw [hseen, hseen, hseen, hseen]
  · rw [herror] at hstep
    cases hstep

/-! ### A shift register

A switch feeds A, A feeds B, and one clock drives both. A is defined first. In the first cycle the
clock rises: A stores the level of the switch, and B, whose turn comes later, stores that level too
in place of the LOW that A held before. -/

/-- The shift register before its first cycle. -/
def shiftRegister : Simulator :=
  let wires (data : OutputRef) : List (InputPort × Option OutputRef) :=
    [(.data, some data), (.clk, some ⟨⟨1⟩, .main⟩), (.set, none), (.clear, none)]
  .new
    { devices :=
        [.new ⟨0⟩ "SW" (.switch .high), .new ⟨1⟩ "CK" (.clock 1),
          ⟨⟨2⟩, "A", wires ⟨⟨0⟩, .main⟩, .dtype .low .low⟩,
          ⟨⟨3⟩, "B", wires ⟨⟨2⟩, .q⟩, .dtype .low .low⟩] }
    none

theorem shiftRegister_reachable : shiftRegister.Reachable := by
  refine .new ?_ none
  have h := Network.Built.empty
  have h := h.addDevice (show Network.addDevice _ ⟨0⟩ "SW" (.switch .high) = .ok _ from rfl)
  have h := h.addDevice (show Network.addDevice _ ⟨1⟩ "CK" (.clock 1) = .ok _ from rfl)
  have h := h.addDevice (show Network.addDevice _ ⟨2⟩ "A" .dtype = .ok _ from rfl)
  have h := h.addDevice (show Network.addDevice _ ⟨3⟩ "B" .dtype = .ok _ from rfl)
  have h := h.connect
    (show Network.connect _ .empty ⟨⟨0⟩, .main⟩ ⟨⟨2⟩, .data⟩ = .ok _ from rfl)
  have h := h.connect
    (show Network.connect _ .empty ⟨⟨1⟩, .main⟩ ⟨⟨2⟩, .clk⟩ = .ok _ from rfl)
  have h := h.connect
    (show Network.connect _ .empty ⟨⟨2⟩, .q⟩ ⟨⟨3⟩, .data⟩ = .ok _ from rfl)
  have h := h.connect
    (show Network.connect _ .empty ⟨⟨1⟩, .main⟩ ⟨⟨3⟩, .clk⟩ = .ok _ from rfl)
  exact h

/-- B does not come out of the first cycle as if it had latched together with A. -/
theorem shiftRegister_not_latchedTogether :
    ∃ after settled passes, shiftRegister.Reachable ∧ shiftRegister.step = (after, .ok ()) ∧
      shiftRegister.network.advanceSources.settle shiftRegister.sweepLimit
        = (settled, some passes) ∧
      ∃ device ∈ settled.devices, ¬ device.LatchedTogether settled after.network := by
  refine ⟨_, _, _, shiftRegister_reachable, rfl, rfl, _, List.mem_of_getElem? (i := 3) rfl, ?_⟩
  intro h
  exact absurd (h .low .low rfl) (by decide)

/-- In the first cycle B stores what A has just stored, and the law of `latches_in_turn` says so. -/
theorem shiftRegister_latches_in_turn :
    ∃ (after : Simulator) (settled : Network),
      shiftRegister.Reachable ∧ shiftRegister.step = (after, .ok ()) ∧
      settled.level? ⟨⟨2⟩, .q⟩ = some .low ∧ after.network.level? ⟨⟨3⟩, .q⟩ = some .high := by
  have hstep : shiftRegister.step = (shiftRegister.step.1, .ok ()) := rfl
  obtain ⟨settled, passes, hsettle, hlaw⟩ := latches_in_turn shiftRegister_reachable hstep
  have hsettled : settled = shiftRegister.network.advanceSources := by
    have h : shiftRegister.network.advanceSources.settle shiftRegister.sweepLimit
        = (shiftRegister.network.advanceSources, some 1) := rfl
    rw [h] at hsettle
    exact (congrArg Prod.fst hsettle).symm
  subst hsettled
  refine ⟨_, shiftRegister.network.advanceSources, shiftRegister_reachable, hstep, rfl, ?_⟩
  obtain ⟨-, hq, -⟩ := hlaw (shiftRegister.network.advanceSources.devices.take 3) _ [] .low .low
    rfl rfl
  exact hq

end Simulator

end LogicCircuit
