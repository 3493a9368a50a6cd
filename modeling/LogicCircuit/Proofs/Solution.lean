import LogicCircuit.Proofs.Latching
import LogicCircuit.Proofs.Sweep

/-!
# Solutions — what a settled network is

Give every gate a level. The levels solve the network if, put on the gates, they satisfy the
equations of all gates at once, with all other devices as they are (`Network.Solves`). Settling
searches for such levels, and this module says what it finds:

* **`Network.solves_gateLevel_iff`** — a network that differs from `net` in the levels of gates alone
  is balanced exactly when these levels solve `net`.
* **`Simulator.settle_solves`** — what settling answers is a solution, which settling again does not
  change; it gives up exactly when every sweep changed some output; after a completed cycle every
  gate shows its function of its drivers, with the flip-flops as they were before they latched; and a
  cycle without a solution fails.

Nothing is assumed of the wiring: loops are allowed.
-/

namespace LogicCircuit

/-! ## Muted devices -/

namespace Device

variable {device other : Device}

def IsGate (device : Device) : Prop :=
  ∃ op inputs output, device.element = .gate op inputs output

theorem isGate_iff : device.IsGate ↔ ∃ op inputs, device.kind = .gate op inputs := by
  obtain ⟨id, name, drivers, element⟩ := device
  cases element <;> simp [IsGate, kind, Element.kind]

theorem isGate_muted : device.muted.IsGate ↔ device.IsGate := by
  obtain ⟨id, name, drivers, element⟩ := device
  cases element <;> simp [IsGate, muted, Element.drive]

theorem muted_of_not_isGate (h : ¬ device.IsGate) : device.muted = device := by
  obtain ⟨id, name, drivers, element⟩ := device
  cases element with
  | gate op inputs output => exact absurd ⟨op, inputs, output, rfl⟩ h
  | _ => rfl

/-- Two devices that are the same when muted are the same, unless they are gates. -/
theorem eq_of_muted_eq (h : device.muted = other.muted) (hgate : ¬ device.IsGate) :
    device = other := by
  have hother : ¬ other.IsGate := by
    rw [← isGate_muted, ← h, isGate_muted]
    exact hgate
  rw [← muted_of_not_isGate hgate, h, muted_of_not_isGate hother]

theorem kind_muted : device.muted.kind = device.kind := by
  rw [muted, kind, element_withElement, Element.kind_drive, kind]

theorem kind_ne_dtype_of_isGate (h : device.IsGate) : device.kind ≠ .dtype := by
  obtain ⟨op, inputs, output, helement⟩ := h
  rw [kind, helement]
  exact fun h => by cases h

end Device

namespace Network

variable {net after : Network} {id : NameId} {device : Device}

theorem ids_muted : net.muted.ids = net.ids :=
  ids_map Device.muted fun _ => rfl

/-- Where one network has a device, another one with the same muted devices has it too. -/
theorem exists_device?_of_muted_eq (h : after.muted = net.muted)
    (hdevice : net.device? id = some device) :
    ∃ found, after.device? id = some found ∧ found.muted = device.muted := by
  have hmuted : (after.device? id).map Device.muted = (net.device? id).map Device.muted := by
    rw [← device?_muted, ← device?_muted, h]
  rw [hdevice, Option.map_some, Option.map_eq_some_iff] at hmuted
  exact hmuted

/-- What is no gate is the same device in both networks. -/
theorem device?_of_muted_eq (h : after.muted = net.muted) (hdevice : net.device? id = some device)
    (hgate : ¬ device.IsGate) : after.device? id = some device := by
  obtain ⟨found, hfound, hmuted⟩ := exists_device?_of_muted_eq h hdevice
  rw [hfound, Device.eq_of_muted_eq hmuted.symm hgate]

/-! ## Levels for the gates -/

/-- The network with the given levels on its gates. -/
def withGates (net : Network) (level : NameId → Level) : Network :=
  { devices := net.devices.map fun device =>
      device.withElement (device.element.drive (level device.id)) }

/-- The levels satisfy all gate equations, with all other devices as they are. -/
def Solves (net : Network) (level : NameId → Level) : Prop :=
  (net.withGates level).Balanced

/-- The level that the device with a handle shows on its unnamed output. -/
def gateLevel (net : Network) (id : NameId) : Level :=
  (net.level? ⟨id, .main⟩).getD .low

/-- Levels on the gates are not seen when these are muted. -/
theorem muted_withGates (level : NameId → Level) : (net.withGates level).muted = net.muted := by
  rw [muted, withGates, List.map_map, muted]
  congr 1
  exact List.map_congr_left fun device _ => device.muted_drive _

/-- The levels of the gates before are lost. -/
theorem withGates_muted (level : NameId → Level) : net.muted.withGates level = net.withGates level := by
  rw [withGates, muted, List.map_map, withGates]
  congr 1
  refine List.map_congr_left fun device _ => ?_
  obtain ⟨id, name, drivers, element⟩ := device
  cases element <;> rfl

/-- A network has the levels of its own gates. -/
theorem withGates_gateLevel (hnet : net.Distinct) : net.withGates net.gateLevel = net := by
  have hself : ∀ device ∈ net.devices,
      device.withElement (device.element.drive (net.gateLevel device.id)) = device := by
    intro device hmem
    have hdevice : net.device? device.id = some device := hnet.device?_eq_some_iff.2 ⟨hmem, rfl⟩
    rw [gateLevel, level?, hdevice, Option.bind_some]
    obtain ⟨id, name, drivers, element⟩ := device
    cases element <;> rfl
  obtain ⟨devices⟩ := net
  rw [withGates, List.map_congr_left hself, List.map_id']

/-- A network that differs in the levels of gates alone is given by these levels. -/
theorem withGates_eq_of_muted_eq (hafter : after.Distinct) (h : after.muted = net.muted) :
    net.withGates after.gateLevel = after := by
  rw [← withGates_muted, ← h, withGates_muted, withGates_gateLevel hafter]

/-- **Balanced networks are solutions.** -/
theorem solves_gateLevel_iff (hafter : after.Distinct) (h : after.muted = net.muted) :
    net.Solves after.gateLevel ↔ after.Balanced := by
  rw [Solves, withGates_eq_of_muted_eq hafter h]

theorem Distinct.of_muted_eq (hnet : net.Distinct) (h : after.muted = net.muted) :
    after.Distinct := by
  rw [Distinct, ← ids_muted, h, ids_muted]
  exact hnet

/-- What settling answers is balanced, and differs in the levels of gates alone. -/
theorem settle_eq_some_balanced {limit passes : Nat} (hnet : net.Distinct)
    (h : net.settle limit = (after, some passes)) :
    after.Distinct ∧ after.muted = net.muted ∧ after.Balanced := by
  have hmuted : after.muted = net.muted := by
    have hsettle := muted_settle net limit
    rw [h] at hsettle
    exact hsettle
  have hafter := hnet.of_muted_eq hmuted
  exact ⟨hafter, hmuted, (sweep_eq_self_iff hafter).1 (settle_eq_some h).2.2⟩

/-- Handles stay distinct however many sweeps are made. -/
theorem distinct_iterate_sweep (hnet : net.Distinct) (count : Nat) :
    (sweep^[count] net).Distinct :=
  hnet.of_muted_eq (muted_iterate_sweep net count)

/-! ## Levels around the latching -/

/-- The level that reaches an input from its driver: a flip-flop as it is in `before`, any other
driver as it is in `after`. -/
def heldLevel (before after : Network) : Option OutputRef → Level
  | none => .low
  | some source =>
    let held := (before.device? source.device).any fun device => device.kind = .dtype
    ((if held then before else after).level? source).getD .low

/-- Flip-flops keep their state until they latch: a cycle starts and settles with the same ones. -/
theorem device?_of_dtype {settled : Network} (h : settled.muted = net.advanceSources.muted)
    (hdevice : net.device? id = some device) (hkind : device.kind = .dtype) :
    settled.device? id = some device := by
  have hadvance : net.advanceSources.device? id = some device := by
    rw [device?_advanceSources, hdevice, Option.map_some]
    obtain ⟨id, name, drivers, element⟩ := device
    -- the advance has nothing to do at a flip-flop
    cases element with
    | dtype memory lastClk => rfl
    | _ => cases hkind
  exact device?_of_muted_eq h hadvance fun hgate => Device.kind_ne_dtype_of_isGate hgate hkind

/-- What was no flip-flop when the cycle began does not latch at its end. -/
theorem device?_latchAll_of_not_held {settled : Network} (hnet : net.Distinct)
    (h : settled.muted = net.advanceSources.muted)
    (hkind : ∀ device, net.device? id = some device → device.kind ≠ .dtype) :
    settled.latchAll.device? id = settled.device? id := by
  have hsettled : settled.Distinct := (hnet.of_drawing_eq drawing_advanceSources).of_muted_eq h
  -- a handle without a device is none after the latching either
  cases hfound : settled.device? id with
  | none =>
    rw [device?_eq_none_iff, ids_eq_of_drawing_eq (drawing_latchAll hsettled),
      ← device?_eq_none_iff, hfound]
  | some found =>
    refine device?_latchAll_of_ne_dtype hsettled hfound ?_
    -- neither the sources' turn nor settling makes another kind of it
    obtain ⟨advanced, hadvanced, hmuted⟩ := exists_device?_of_muted_eq h.symm hfound
    rw [device?_advanceSources, Option.map_eq_some_iff] at hadvanced
    obtain ⟨device, hdevice, rfl⟩ := hadvanced
    have hsame := congrArg Device.kind hmuted
    rw [Device.kind_muted, Device.kind_muted, Device.kind, Device.element_withElement,
      Element.kind_advance] at hsame
    rw [← hsame]
    exact hkind device hdevice

/-- The settled level of a driver, read off the states before and after the cycle. -/
theorem heldLevel_latchAll {settled : Network} (hnet : net.Distinct)
    (h : settled.muted = net.advanceSources.muted) (driver : Option OutputRef) :
    heldLevel net settled.latchAll driver = settled.drivenLevel driver := by
  cases driver with
  | none => rfl
  | some source =>
    simp only [heldLevel, drivenLevel, Option.bind_some]
    -- the driver is a flip-flop, seen as it was before, or it is none, seen as it is now
    split
    · next hheld =>
      -- a flip-flop that kept its state up to the latching
      obtain ⟨device, hdevice, hkind⟩ := (Option.any_eq_true _ _).1 hheld
      have hkept : settled.device? source.device = net.device? source.device := by
        rw [device?_of_dtype h hdevice (of_decide_eq_true hkind), hdevice]
      rw [level?_congr hkept]
    · next hheld =>
      have hkept : settled.latchAll.device? source.device = settled.device? source.device :=
        device?_latchAll_of_not_held hnet h fun device hdevice hkind => hheld (by
          rw [hdevice, Option.any_some, hkind]
          rfl)
      rw [level?_congr hkept]

/-- A gate of the network after the latching is one of the settled network. -/
theorem mem_of_isGate_latchAll (hnet : net.Distinct) (hmem : device ∈ net.latchAll.devices)
    (hgate : device.IsGate) : device ∈ net.devices := by
  have hdrawing := drawing_latchAll hnet
  have hdevice : net.latchAll.device? device.id = some device :=
    (hnet.of_drawing_eq hdrawing).device?_eq_some_iff.2 ⟨hmem, rfl⟩
  obtain ⟨found, hfound, hdrawn⟩ := exists_device?_of_drawing_eq hdrawing.symm hdevice
  -- what latched is a flip-flop, and the gate is none
  have hkind : found.kind ≠ .dtype := by
    rw [(Device.drawn_eq_iff.1 hdrawn).2.2.2]
    exact Device.kind_ne_dtype_of_isGate hgate
  have hsame := device?_latchAll_of_ne_dtype hnet hfound hkind
  rw [hdevice] at hsame
  rw [Option.some.inj hsame]
  exact (mem_of_device? hfound).1

/-! ## What settling leaves -/

/-- No sweep reaches a switch, which shows the level it is set to. -/
theorem switch_of_muted_eq {initial level : Level} (hafter : after.Distinct)
    (h : after.muted = net.muted) (hmem : device ∈ after.devices)
    (helement : device.element = .switch initial level) :
    device ∈ net.devices ∧ after.level? ⟨device.id, .main⟩ = some level := by
  have hdevice : after.device? device.id = some device :=
    hafter.device?_eq_some_iff.2 ⟨hmem, rfl⟩
  have hgate : ¬ device.IsGate := by
    rintro ⟨op, inputs, output, hgate⟩
    rw [helement] at hgate
    cases hgate
  refine ⟨(mem_of_device? (device?_of_muted_eq h.symm hdevice hgate)).1, ?_⟩
  rw [level?, hdevice, Option.bind_some, Device.output?, helement]
  rfl

/-- Settling gives up exactly when every sweep up to the limit changes the level of an output. -/
theorem settle_eq_none_iff_level? (hnet : net.Distinct) {limit : Nat} :
    (net.settle limit).2 = none ↔ ∀ pass < limit, ∃ output,
      (sweep^[pass + 1] net).level? output ≠ (sweep^[pass] net).level? output := by
  rw [settle_eq_none_iff]
  refine forall₂_congr fun pass _ => ?_
  rw [sweep_ne_self_iff (distinct_iterate_sweep hnet pass), Function.iterate_succ_apply']

/-- The equations of the settled network, once its flip-flops have latched. -/
theorem Balanced.latchAll {settled : Network} {op : GateOp} {inputs : Nat} {output : Level}
    (hbalanced : settled.Balanced) (hnet : net.Distinct)
    (h : settled.muted = net.advanceSources.muted) (hmem : device ∈ settled.latchAll.devices)
    (helement : device.element = .gate op inputs output) :
    output = op.evaluate (device.drivers.map fun (_, driver) =>
      heldLevel net settled.latchAll driver) := by
  have hsettled : settled.Distinct := (hnet.of_drawing_eq drawing_advanceSources).of_muted_eq h
  -- the drivers are read around the latching as they were when the network had settled
  have hlevels : (device.drivers.map fun (_, driver) =>
      heldLevel net settled.latchAll driver) = settled.inputLevels device :=
    List.map_congr_left fun (_, driver) _ => heldLevel_latchAll hnet h driver
  rw [hlevels]
  exact hbalanced device (mem_of_isGate_latchAll hsettled hmem ⟨op, inputs, output, helement⟩)
    op inputs output helement

end Network

/-! ## Settling solves the gate equations -/

namespace Simulator

/-- **Settling finds a solution or gives up.**

* What settling answers satisfies all gate equations at once, shows every switch at the level it is
  set to, and does not change when it is settled again.
* It gives up exactly when every sweep within the limit changed the level of some output.
* After a completed cycle every gate shows its function of its drivers, with flip-flops at the levels
  they had before they latched.
* A cycle whose gate equations have no solution fails. -/
theorem settle_solves {sim : Simulator} (hsim : sim.Reachable) :
    (∀ net, net = sim.network ∨ net = sim.network.advanceSources → ∀ limit,
      (∀ settled passes, net.settle limit = (settled, some passes) →
        1 ≤ passes ∧ passes ≤ limit ∧ settled.Balanced ∧
        (∀ device ∈ settled.devices, ∀ initial level, device.element = .switch initial level →
          device ∈ net.devices ∧ settled.level? ⟨device.id, .main⟩ = some level) ∧
        settled.settle limit = (settled, some 1)) ∧
      ((net.settle limit).2 = none ↔ ∀ pass < limit, ∃ output,
        (Network.sweep^[pass + 1] net).level? output
          ≠ (Network.sweep^[pass] net).level? output)) ∧
    (∀ after, sim.step = (after, .ok ()) → ∀ device ∈ after.network.devices,
      ∀ op inputs output, device.element = .gate op inputs output →
        output = op.evaluate (device.drivers.map fun (_, driver) =>
          Network.heldLevel sim.network after.network driver)) ∧
    ((¬ ∃ level, sim.network.advanceSources.Solves level) →
      sim.step.2 = .error (.oscillating (sim.cycle + 1) sim.sweepLimit)) := by
  have hadvanced : sim.network.advanceSources.Distinct :=
    hsim.distinct.of_drawing_eq Network.drawing_advanceSources
  refine ⟨?_, ?_, ?_⟩
  -- settling, before a cycle and after its sources have advanced
  · intro net hnet limit
    have hdistinct : net.Distinct := by
      rcases hnet with rfl | rfl
      · exact hsim.distinct
      · exact hadvanced
    refine ⟨?_, Network.settle_eq_none_iff_level? hdistinct⟩
    intro settled passes hsettle
    obtain ⟨hsettled, hmuted, hbalanced⟩ := Network.settle_eq_some_balanced hdistinct hsettle
    obtain ⟨hpos, hle, hfixed⟩ := Network.settle_eq_some hsettle
    have hswitch : ∀ device ∈ settled.devices, ∀ initial level,
        device.element = .switch initial level →
        device ∈ net.devices ∧ settled.level? ⟨device.id, .main⟩ = some level :=
      fun _ hmem _ _ helement => Network.switch_of_muted_eq hsettled hmuted hmem helement
    have hagain : settled.settle limit = (settled, some 1) :=
      Network.settle_of_sweep_eq_self hfixed (by omega)
    exact ⟨hpos, hle, hbalanced, hswitch, hagain⟩
  -- a completed cycle
  · intro after hstep device hmem op inputs output helement
    rcases step_cases sim with ⟨settled, passes, hsettle, hok⟩ | ⟨unsettled, -, herror⟩
    · rw [hok] at hstep
      cases hstep
      obtain ⟨-, hmuted, hbalanced⟩ := Network.settle_eq_some_balanced hadvanced hsettle
      exact hbalanced.latchAll hsim.distinct hmuted hmem helement
    · rw [herror] at hstep
      cases hstep
  -- a cycle that was completed would have left a solution
  · intro hnone
    rcases step_cases sim with ⟨settled, passes, hsettle, -⟩ | ⟨unsettled, -, herror⟩
    · obtain ⟨hsettled, hmuted, hbalanced⟩ := Network.settle_eq_some_balanced hadvanced hsettle
      exact absurd ⟨_, (Network.solves_gateLevel_iff hsettled hmuted).2 hbalanced⟩ hnone
    · rw [herror]

/-! ### Two loops

An OR gate that feeds itself holds the level it is given once. An inverter that feeds itself has no
level to settle to. -/

/-- An OR gate fed by a switch and by itself. -/
def holdingLoop : Simulator :=
  .new
    { devices :=
        [.new ⟨0⟩ "SW" (.switch .high),
          ⟨⟨1⟩, "G", [(.gate 1, some ⟨⟨0⟩, .main⟩), (.gate 2, some ⟨⟨1⟩, .main⟩)],
            .gate .or 2 .low⟩] }
    none

/-- An inverter fed by itself. -/
def invertingLoop : Simulator :=
  .new { devices := [⟨⟨0⟩, "N", [(.gate 1, some ⟨⟨0⟩, .main⟩)], .gate .nand 1 .low⟩] } none

theorem holdingLoop_reachable : holdingLoop.Reachable := by
  refine .new ?_ none
  have h := Network.Built.empty
  have h := h.addDevice (show Network.addDevice _ ⟨0⟩ "SW" (.switch .high) = .ok _ from rfl)
  have h := h.addDevice (show Network.addDevice _ ⟨1⟩ "G" (.gate .or 2) = .ok _ from rfl)
  have h := h.connect
    (show Network.connect _ .empty ⟨⟨0⟩, .main⟩ ⟨⟨1⟩, .gate 1⟩ = .ok _ from rfl)
  have h := h.connect
    (show Network.connect _ .empty ⟨⟨1⟩, .main⟩ ⟨⟨1⟩, .gate 2⟩ = .ok _ from rfl)
  exact h

theorem invertingLoop_reachable : invertingLoop.Reachable := by
  refine .new ?_ none
  have h := Network.Built.empty
  have h := h.addDevice (show Network.addDevice _ ⟨0⟩ "N" (.gate .nand 1) = .ok _ from rfl)
  have h := h.connect
    (show Network.connect _ .empty ⟨⟨0⟩, .main⟩ ⟨⟨0⟩, .gate 1⟩ = .ok _ from rfl)
  exact h

theorem not_solves_invertingLoop (level : NameId → Level) :
    ¬ invertingLoop.network.advanceSources.Solves level := by
  intro h
  have hequation : level ⟨0⟩ = GateOp.evaluate .nand [level ⟨0⟩] :=
    h _ List.mem_cons_self .nand 1 _ rfl
  revert hequation
  cases level ⟨0⟩ <;> decide

/-- The first loop settles in the second sweep and stays; the second one fails. -/
theorem settle_solves_loops :
    (holdingLoop.Reachable ∧ ∃ settled, holdingLoop.network.settle 3 = (settled, some 2) ∧
      settled.Balanced ∧ settled.settle 3 = (settled, some 1)) ∧
    invertingLoop.Reachable ∧
      (¬ ∃ level, invertingLoop.network.advanceSources.Solves level) ∧
      invertingLoop.step.2 = .error (.oscillating 1 2) := by
  refine ⟨⟨holdingLoop_reachable, _, rfl, ?_⟩, invertingLoop_reachable, ?_, ?_⟩
  · obtain ⟨hanswer, -⟩ := (settle_solves holdingLoop_reachable).1 _ (.inl rfl) 3
    obtain ⟨-, -, hbalanced, -, hagain⟩ := hanswer _ 2 rfl
    exact ⟨hbalanced, hagain⟩
  · exact fun ⟨level, h⟩ => not_solves_invertingLoop level h
  · exact (settle_solves invertingLoop_reachable).2.2 fun ⟨level, h⟩ =>
      not_solves_invertingLoop level h

end Simulator

end LogicCircuit
