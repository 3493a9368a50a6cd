import LogicCircuit.Proofs.Sweep
import Mathlib.Logic.Equiv.Defs

/-!
# Redefinition — what a simulation reads of a circuit

Two circuits that differ only in the handles of their devices, and in the level that a switch was once
defined with, cannot be told apart by running them:

* **`Network.redefine`** — the network as another definition would give it: with other handles, and
  each switch defined with the level it is set to.
* **`step_redefine`** — one cycle of a redefined network is the redefinition of one cycle. It rests on
  a lemma for each phase: `advanceSources_redefine`, `settle_redefine` and `latchAll_redefine`.

The crux is the stop test of settling, which compares networks as a whole. A redefined sweep that
changes nothing might come from a sweep that does, since redefining forgets what switches were defined
with; but sweeps leave the drawing, which remembers it (`eq_of_redefine_eq`).
-/

namespace LogicCircuit

variable {ρ : Equiv.Perm NameId}

/-! ## Redefined circuits -/

/-- The output under another handle. -/
def OutputRef.renumber (ρ : Equiv.Perm NameId) (output : OutputRef) : OutputRef :=
  ⟨ρ output.device, output.port⟩

theorem OutputRef.renumber_injective (ρ : Equiv.Perm NameId) :
    Function.Injective (OutputRef.renumber ρ) := by
  intro output other h
  obtain ⟨hdevice, hport⟩ := OutputRef.mk.inj h
  obtain ⟨device, port⟩ := output
  obtain ⟨device', port'⟩ := other
  exact OutputRef.mk.injEq .. ▸ ⟨ρ.injective hdevice, hport⟩

/-- A switch as if it had been defined with the level it is set to; any other element as it is. -/
def Element.redefine : Element → Element
  | switch _ level => switch level level
  | element => element

/-- The device under another handle, as another definition would give it. -/
def Device.redefine (ρ : Equiv.Perm NameId) (device : Device) : Device :=
  { id := ρ device.id
    name := device.name
    drivers := device.drivers.map fun (port, driver) => (port, driver.map (·.renumber ρ))
    element := device.element.redefine }

/-- The network as another definition of the same circuit would give it: with other handles, and each
switch defined with the level it is set to. -/
def Network.redefine (ρ : Equiv.Perm NameId) (net : Network) : Network :=
  { devices := net.devices.map (·.redefine ρ) }

/-! ## Elements -/

namespace Element

variable (e : Element)

@[simp] theorem output?_redefine (port : OutputPort) : e.redefine.output? port = e.output? port := by
  cases e <;> cases port <;> rfl

theorem reset_redefine : e.redefine.reset = e.reset.redefine := by
  cases e <;> rfl

theorem advance_redefine : e.redefine.advance = e.advance.redefine := by
  cases e with
  | clock halfPeriod counter output =>
    simp only [redefine, advance]
    split <;> rfl
  | _ => rfl

theorem drive_redefine (level : Level) : e.redefine.drive level = (e.drive level).redefine := by
  cases e <;> rfl

/-- Redefining forgets the level that a switch was defined with, and the kind remembers it. -/
theorem eq_of_redefine_eq {e other : Element} (hkind : e.kind = other.kind)
    (h : e.redefine = other.redefine) : e = other := by
  -- the only thing forgotten is the level a switch was defined with, and that is part of the kind
  cases e <;> cases other <;> simp_all [kind, redefine]

end Element

/-! ## Devices -/

namespace Device

variable {device other : Device}

/-- Drivers are looked up by port, and ports are not renumbered. -/
theorem lookup_redefine (port : InputPort) : ∀ drivers : List (InputPort × Option OutputRef),
    (drivers.map fun (port, driver) => (port, driver.map (·.renumber ρ))).lookup port
      = (drivers.lookup port).map (Option.map (·.renumber ρ))
  | [] => rfl
  | (declared, driver) :: rest => by
    simp only [List.map_cons, List.lookup_cons]
    split
    · rfl
    · exact lookup_redefine port rest

theorem driver?_redefine (port : InputPort) :
    (device.redefine ρ).driver? port = (device.driver? port).map (·.renumber ρ) := by
  rw [driver?, driver?, redefine, lookup_redefine]
  cases device.drivers.lookup port <;> rfl

theorem redefine_withElement (element : Element) :
    (device.withElement element).redefine ρ = (device.redefine ρ).withElement element.redefine := rfl

/-- Redefining forgets nothing that the drawing shows, apart from the state. -/
theorem eq_of_redefine_eq (hdrawn : device.drawn = other.drawn)
    (h : device.redefine ρ = other.redefine ρ) : device = other := by
  obtain ⟨hid, hname, hdrivers, hkind⟩ := drawn_eq_iff.1 hdrawn
  have helement := Element.eq_of_redefine_eq hkind (congrArg Device.element h)
  obtain ⟨id, name, drivers, element⟩ := device
  obtain ⟨id', name', drivers', element'⟩ := other
  simp_all

end Device

/-! ## Reading a redefined network -/

namespace Network

variable {net after : Network} {id : NameId} {device : Device}

/-- A device is found under its new handle, since no two handles become one. -/
theorem device?_redefine : (net.redefine ρ).device? (ρ id) = (net.device? id).map (·.redefine ρ) := by
  rw [device?, device?, redefine, List.find?_map]
  congr 2
  funext device
  simp [Device.redefine]

theorem ids_redefine : (net.redefine ρ).ids = net.ids.map ρ := by
  rw [ids, ids, redefine, List.map_map, List.map_map]
  rfl

theorem size_redefine : (net.redefine ρ).size = net.size := by
  rw [size, size, redefine, List.length_map]

/-- The levels are those of the network. -/
theorem level?_redefine (output : OutputRef) :
    (net.redefine ρ).level? (output.renumber ρ) = net.level? output := by
  rw [level?, level?, OutputRef.renumber, device?_redefine]
  cases net.device? output.device with
  | none => rfl
  | some device => simp [Device.output?, Device.redefine]

theorem drivenLevel_redefine (driver : Option OutputRef) :
    (net.redefine ρ).drivenLevel (driver.map (·.renumber ρ)) = net.drivenLevel driver := by
  cases driver with
  | none => rfl
  | some source => simp only [drivenLevel, Option.map_some, Option.bind_some, level?_redefine]

/-- An input of a redefined device is driven as before. -/
theorem inputLevel_redefine (port : InputPort) :
    (net.redefine ρ).inputLevel (device.redefine ρ) port = net.inputLevel device port := by
  rw [inputLevel, Device.driver?_redefine, drivenLevel_redefine, inputLevel]

theorem inputLevels_redefine :
    (net.redefine ρ).inputLevels (device.redefine ρ) = net.inputLevels device := by
  rw [inputLevels, inputLevels, Device.redefine, List.map_map]
  exact List.map_congr_left fun _ _ => drivenLevel_redefine _

/-- A change of one device is redefined as the change of its redefinition. -/
theorem update_redefine {change redefined : Device → Device}
    (h : ∀ device, redefined (device.redefine ρ) = (change device).redefine ρ) :
    (net.redefine ρ).update (ρ id) redefined = (net.update id change).redefine ρ := by
  rw [redefine, redefine, update, update, List.map_map, List.map_map]
  congr 1
  refine List.map_congr_left fun device _ => ?_
  simp only [Function.comp_apply]
  -- the handles that agree are the same before and after
  have hid : (device.redefine ρ).id = ρ id ↔ device.id = id := ρ.injective.eq_iff
  simp only [hid]
  split
  · exact h device
  · rfl

/-- Steps from handle to handle carry over to redefined networks, if a single one does. -/
theorem foldl_redefine {step : Network → NameId → Network}
    (hstep : ∀ net id, step (net.redefine ρ) (ρ id) = (step net id).redefine ρ)
    (visited : List NameId) (net : Network) :
    (visited.map ρ).foldl step (net.redefine ρ) = (visited.foldl step net).redefine ρ := by
  -- the induction is on the handles still to be visited
  induction visited generalizing net with
  | nil => rfl
  | cons id rest ih => rw [List.map_cons, List.foldl_cons, hstep, ih, List.foldl_cons]

/-- The drawing and the redefinition of a network determine it. -/
theorem eq_of_redefine_eq (hdrawing : after.drawing = net.drawing)
    (h : after.redefine ρ = net.redefine ρ) : after = net := by
  have hdrawn := congrArg Network.devices hdrawing
  have hredefined := congrArg Network.devices h
  simp only [drawing, redefine] at hdrawn hredefined
  -- side by side, the two lists of devices fix every device
  have hpairs : after.devices.map (fun device => (device.drawn, device.redefine ρ))
      = net.devices.map fun device => (device.drawn, device.redefine ρ) := by
    rw [← List.zip_map', ← List.zip_map', hdrawn, hredefined]
  have hdevices : after.devices = net.devices := by
    refine List.map_injective_iff.2 (fun device other heq => ?_) hpairs
    exact Device.eq_of_redefine_eq (congrArg Prod.fst heq) (congrArg Prod.snd heq)
  obtain ⟨devices⟩ := net
  obtain ⟨devices'⟩ := after
  exact congrArg Network.mk hdevices

/-! ## The phases of a cycle -/

/-- The phases commute with redefining one by one, since each acts on elements by their kind and state. -/
theorem coldStart_redefine : (net.redefine ρ).coldStart = net.coldStart.redefine ρ := by
  rw [coldStart, coldStart, redefine, redefine, List.map_map, List.map_map]
  congr 1
  refine List.map_congr_left fun device _ => ?_
  rw [Function.comp_apply, Function.comp_apply, Device.redefine_withElement, ← Element.reset_redefine]
  rfl

theorem advanceSources_redefine :
    (net.redefine ρ).advanceSources = net.advanceSources.redefine ρ := by
  rw [advanceSources, advanceSources, redefine, redefine, List.map_map, List.map_map]
  congr 1
  refine List.map_congr_left fun device _ => ?_
  rw [Function.comp_apply, Function.comp_apply, Device.redefine_withElement,
    ← Element.advance_redefine]
  rfl

theorem relax_redefine (net : Network) (id : NameId) :
    (net.redefine ρ).relax (ρ id) = (net.relax id).redefine ρ := by
  cases hdevice : net.device? id with
  | none => simp only [relax, device?_redefine, hdevice, Option.map_none]
  | some device =>
    -- the inputs are at the same levels, so the same gate is driven to the same level or left as it is
    simp only [relax, device?_redefine, hdevice, Option.map_some, inputLevels_redefine]
    cases helement : device.element with
    | gate op inputs output =>
      simp only [Device.redefine, Element.redefine, helement]
      split
      · rfl
      · refine update_redefine fun device => ?_
        rw [Device.redefine_withElement, ← Element.drive_redefine]
        rfl
    | _ => simp only [Device.redefine, Element.redefine, helement]

theorem sweep_redefine (net : Network) : (net.redefine ρ).sweep = net.sweep.redefine ρ := by
  rw [sweep, ids_redefine, foldl_redefine relax_redefine, sweep]

/-- **The stop test does not see a redefinition.** -/
theorem sweep_redefine_eq_self_iff :
    (net.redefine ρ).sweep = net.redefine ρ ↔ net.sweep = net := by
  rw [sweep_redefine]
  exact ⟨eq_of_redefine_eq (drawing_sweep net), fun h => by rw [h]⟩

/-- Settling takes the same number of sweeps, or gives up after the same number. -/
theorem settleFrom_redefine (limit made : Nat) (net : Network) :
    (net.redefine ρ).settleFrom made limit
      = ((net.settleFrom made limit).1.redefine ρ, (net.settleFrom made limit).2) := by
  induction limit generalizing made net with
  | zero => rfl
  | succ limit ih =>
    -- whether the limit is used up depends on the stop test alone
    by_cases hsweep : net.sweep = net
    · have hredefined : (net.redefine ρ).sweep = net.redefine ρ :=
        sweep_redefine_eq_self_iff.2 hsweep
      simp only [settleFrom, hsweep, hredefined, if_true]
    · have hredefined : (net.redefine ρ).sweep ≠ net.redefine ρ := fun h =>
        hsweep (sweep_redefine_eq_self_iff.1 h)
      simp only [settleFrom, hsweep, hredefined, if_false]
      rw [sweep_redefine, ih]

theorem settle_redefine (net : Network) (limit : Nat) :
    (net.redefine ρ).settle limit = ((net.settle limit).1.redefine ρ, (net.settle limit).2) :=
  settleFrom_redefine limit 0 net

/-- A flip-flop latches the same levels under its new handle. -/
theorem latch_redefine (net : Network) (id : NameId) :
    (net.redefine ρ).latch (ρ id) = (net.latch id).redefine ρ := by
  cases hdevice : net.device? id with
  | none => simp only [latch, device?_redefine, hdevice, Option.map_none]
  | some device =>
    simp only [latch, device?_redefine, hdevice, Option.map_some, inputLevel_redefine]
    cases helement : device.element with
    | dtype memory lastClk =>
      simp only [Device.redefine, Element.redefine, helement]
      exact update_redefine fun device => rfl
    | _ => simp only [Device.redefine, Element.redefine, helement]

theorem latchAll_redefine (net : Network) : (net.redefine ρ).latchAll = net.latchAll.redefine ρ := by
  rw [latchAll, ids_redefine, foldl_redefine latch_redefine, latchAll]

end Network

/-! ## A cycle -/

namespace Simulator

/-- The simulator of the redefined network. -/
def redefine (ρ : Equiv.Perm NameId) (sim : Simulator) : Simulator :=
  { sim with network := sim.network.redefine ρ }

theorem sweepLimit_redefine (sim : Simulator) : (sim.redefine ρ).sweepLimit = sim.sweepLimit := by
  simp only [sweepLimit, redefine, Network.size_redefine]

/-- **One cycle of a redefined circuit** is the redefinition of one cycle, with the same result. -/
theorem step_redefine (sim : Simulator) :
    (sim.redefine ρ).step = (sim.step.1.redefine ρ, sim.step.2) := by
  have hsettle : (sim.redefine ρ).network.advanceSources.settle (sim.redefine ρ).sweepLimit
      = ((sim.network.advanceSources.settle sim.sweepLimit).1.redefine ρ,
        (sim.network.advanceSources.settle sim.sweepLimit).2) := by
    rw [sweepLimit_redefine, redefine, Network.advanceSources_redefine, Network.settle_redefine]
  -- the outcome of settling decides how the cycle ends, and it is the same for both
  rcases hcase : sim.network.advanceSources.settle sim.sweepLimit with ⟨settled, _ | passes⟩
  · simp only [hcase] at hsettle
    rw [step, hsettle, step, hcase]
    simp only [sweepLimit_redefine]
    rfl
  · simp only [hcase] at hsettle
    rw [step, hsettle, step, hcase]
    simp only [Network.latchAll_redefine]
    rfl

end Simulator

end LogicCircuit
