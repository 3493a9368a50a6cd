import LogicCircuit.Proofs.Reachability
import Mathlib.Logic.Function.Iterate

/-!
# Sweeps — when a sweep changes nothing, and what it can change

A sweep drives the gates one after the other in place, so a gate sees some of its drivers before and
some after their own turn. The stop test only compares the network before and after the whole sweep.
This module shows that the test is sound, for wiring of any shape:

* **`sweep_eq_self_iff`** — a sweep changes nothing exactly when the equations of all gates hold at
  once. No device is visited twice, so a level that changed at its turn would still differ at the end.
* **`sweep_ne_self_iff`** — a sweep that changes the network changes the level of some output.
* **`muted_sweep`** — apart from the levels of gates nothing moves: with all gates silenced, the
  network after the sweep is the network before it.
* **`settle_cases`** — the two ways in which settling ends, in terms of the sweeps made.
-/

namespace LogicCircuit

namespace Network

variable {net after : Network} {id other : NameId} {device : Device}

/-! ## Gate equations -/

/-- The equation of the gate with a handle: its level is its function of the levels on its inputs.
Of anything but a gate it asks nothing. -/
def BalancedAt (net : Network) (id : NameId) : Prop :=
  ∀ device op inputs output, net.device? id = some device →
    device.element = .gate op inputs output → output = op.evaluate (net.inputLevels device)

/-- The equations of all gates hold at once. -/
def Balanced (net : Network) : Prop :=
  ∀ device ∈ net.devices, ∀ op inputs output, device.element = .gate op inputs output →
    output = op.evaluate (net.inputLevels device)

/-- With distinct handles it makes no difference whether gates are named by their handles. -/
theorem Distinct.balanced_iff (hnet : net.Distinct) : net.Balanced ↔ ∀ id, net.BalancedAt id := by
  constructor
  · intro h id device op inputs output hdevice helement
    exact h device (mem_of_device? hdevice).1 op inputs output helement
  · intro h device hmem op inputs output helement
    exact h device.id device op inputs output (hnet.device?_eq_some_iff.2 ⟨hmem, rfl⟩) helement

/-! ## One gate -/

/-- Driving a gate leaves the other devices as they are. -/
theorem isLocal_relax : IsLocal relax := by
  intro net id other hother
  unfold relax
  split
  · split
    · dsimp only
      split
      · rfl
      · rw [device?_update_element, if_neg hother]
    · rfl
  · rfl

/-- What driving a gate makes of it. -/
theorem device?_relax_gate {op : GateOp} {inputs : Nat} {output : Level}
    (hdevice : net.device? id = some device) (helement : device.element = .gate op inputs output) :
    (net.relax id).device? id
      = some (device.withElement (.gate op inputs (op.evaluate (net.inputLevels device)))) := by
  simp only [relax, hdevice, helement]
  -- the gate is at that level already, or it is put there
  split
  · next h =>
    rw [hdevice, h, ← helement]
    rfl
  · rw [device?_update_element, if_pos rfl, hdevice, Option.map_some, helement]
    rfl

/-- Driving a gate whose equation holds changes nothing. -/
theorem relax_eq_self (h : net.BalancedAt id) : net.relax id = net := by
  unfold relax
  split
  · next device hdevice =>
    split
    · next op inputs output helement =>
      have hlevel := h device op inputs output hdevice helement
      simp only [hlevel, if_true]
    · rfl
  · rfl

/-- Driving a gate whose equation does not hold changes its level. -/
theorem balancedAt_of_level?_relax
    (h : (net.relax id).level? ⟨id, .main⟩ = net.level? ⟨id, .main⟩) : net.BalancedAt id := by
  intro device op inputs output hdevice helement
  rw [level?, level?, device?_relax_gate hdevice helement, hdevice, Option.bind_some,
    Option.bind_some, Device.output?, Device.output?, helement] at h
  exact (Option.some.inj h).symm

/-! ## One sweep -/

/-- Driving gates whose equations hold changes nothing. -/
theorem foldl_relax_eq_self : ∀ (visited : List NameId), (∀ id ∈ visited, net.BalancedAt id) →
    visited.foldl relax net = net
  | [], _ => rfl
  | id :: rest, h => by
    rw [List.foldl_cons, relax_eq_self (h id List.mem_cons_self)]
    exact foldl_relax_eq_self rest fun other hother => h other (List.mem_cons_of_mem id hother)

/-- If no level is another one in the end, then none was another one on the way: the gate visited
first is not visited again, so its level now is its level in the end. -/
theorem balancedAt_of_foldl_relax : ∀ (visited : List NameId) (net : Network), visited.Nodup →
    (∀ output, (visited.foldl relax net).level? output = net.level? output) →
    ∀ id ∈ visited, net.BalancedAt id
  | [], _, _, _ => fun _ hid => absurd hid List.not_mem_nil
  | first :: rest, net, hnodup, hlevel => by
    obtain ⟨hfirst, hrest⟩ := List.nodup_cons.1 hnodup
    have hkept : (rest.foldl relax (net.relax first)).device? first
        = (net.relax first).device? first :=
      device?_foldl_of_notMem isLocal_relax rest _ hfirst
    have hkeptLevel : ((first :: rest).foldl relax net).level? ⟨first, .main⟩
        = (net.relax first).level? ⟨first, .main⟩ := level?_congr hkept
    -- so its own turn did not change it either
    have hbalanced : net.BalancedAt first := by
      apply balancedAt_of_level?_relax
      rw [← hkeptLevel]
      exact hlevel ⟨first, .main⟩
    -- the rest of the sweep starts from the network itself, as the first turn has done nothing
    rw [List.foldl_cons, relax_eq_self hbalanced] at hlevel
    intro id hid
    rcases List.mem_cons.1 hid with rfl | hid
    · exact hbalanced
    · exact balancedAt_of_foldl_relax rest net hrest hlevel id hid

theorem sweep_eq_self (h : ∀ id, net.BalancedAt id) : net.sweep = net :=
  foldl_relax_eq_self net.ids fun id _ => h id

/-- A sweep that leaves every level as it was leaves the equations of all gates holding. -/
theorem balancedAt_of_sweep (hnet : net.Distinct)
    (h : ∀ output, net.sweep.level? output = net.level? output) (id : NameId) :
    net.BalancedAt id := by
  -- a handle that no device has asks for nothing
  by_cases hid : id ∈ net.ids
  · exact balancedAt_of_foldl_relax net.ids net hnet h id hid
  · intro device op inputs output hdevice
    rw [device?_eq_none_iff.2 hid] at hdevice
    cases hdevice

/-- **The stop test is sound.** A sweep changes nothing exactly when all gate equations hold. -/
theorem sweep_eq_self_iff (hnet : net.Distinct) : net.sweep = net ↔ net.Balanced := by
  rw [hnet.balanced_iff]
  refine ⟨fun h => balancedAt_of_sweep hnet fun output => ?_, sweep_eq_self⟩
  rw [h]

/-- A sweep changes the network exactly when it changes the level of an output. -/
theorem sweep_ne_self_iff (hnet : net.Distinct) :
    net.sweep ≠ net ↔ ∃ output, net.sweep.level? output ≠ net.level? output := by
  constructor
  · intro h
    -- otherwise no level differs, all equations hold, and nothing is changed
    by_contra hnone
    push Not at hnone
    exact h (sweep_eq_self (balancedAt_of_sweep hnet hnone))
  · rintro ⟨output, hne⟩ h
    exact hne (by rw [h])

end Network

/-! ## What sweeps leave alone -/

/-- The device with its level, if it is a gate, made LOW. -/
def Device.muted (device : Device) : Device :=
  device.withElement (device.element.drive .low)

/-- Driving a gate does not show once it is muted. -/
theorem Device.muted_drive (device : Device) (level : Level) :
    (device.withElement (device.element.drive level)).muted = device.muted := by
  rw [muted, muted, element_withElement]
  cases device.element <;> rfl

namespace Network

variable {net after : Network} {id other : NameId} {device : Device}

/-- The network with all its gates made LOW: what it is apart from the levels of gates. -/
def muted (net : Network) : Network :=
  { devices := net.devices.map Device.muted }

theorem device?_muted : net.muted.device? id = (net.device? id).map Device.muted :=
  device?_map Device.muted fun _ => rfl

theorem muted_muted : net.muted.muted = net.muted := by
  rw [muted, muted, List.map_map]
  congr 1
  exact List.map_congr_left fun device _ => device.muted_drive .low

/-- A muted network does not show what gates were driven to. -/
theorem muted_relax (net : Network) (id : NameId) : (net.relax id).muted = net.muted := by
  have hdrive : ∀ level, (net.update id fun device =>
      device.withElement (device.element.drive level)).muted = net.muted := by
    intro level
    rw [muted, muted, update, List.map_map]
    congr 1
    refine List.map_congr_left fun device _ => ?_
    simp only [Function.comp_apply]
    split
    · exact device.muted_drive level
    · rfl
  unfold relax
  split
  · split
    · dsimp only
      split
      · rfl
      · exact hdrive _
    · rfl
  · rfl

theorem muted_sweep (net : Network) : net.sweep.muted = net.muted :=
  view_foldl muted_relax net.ids net

theorem muted_iterate_sweep (net : Network) (count : Nat) :
    (sweep^[count] net).muted = net.muted := by
  induction count with
  | zero => rfl
  | succ count ih => rw [Function.iterate_succ_apply', muted_sweep, ih]

theorem drawing_iterate_sweep (net : Network) (count : Nat) :
    (sweep^[count] net).drawing = net.drawing := by
  induction count with
  | zero => rfl
  | succ count ih => rw [Function.iterate_succ_apply', drawing_sweep, ih]

/-! ## Settling -/

/-- **How settling ends.** Either some sweep within the limit is the first that changes nothing, and
the network it leaves is the answer; or all sweeps up to the limit change something. -/
theorem settleFrom_cases (net : Network) (made : Nat) : ∀ limit : Nat,
    (∃ count < limit, net.settleFrom made limit = (sweep^[count] net, some (made + count + 1)) ∧
      (sweep^[count] net).sweep = sweep^[count] net ∧
      ∀ earlier < count, (sweep^[earlier] net).sweep ≠ sweep^[earlier] net) ∨
    (net.settleFrom made limit = (sweep^[limit] net, none) ∧
      ∀ earlier < limit, (sweep^[earlier] net).sweep ≠ sweep^[earlier] net) := by
  intro limit
  induction limit generalizing net made with
  | zero => exact .inr ⟨rfl, by omega⟩
  | succ limit ih =>
    -- the first sweep changes nothing and is the last one, or the others are settled from what it leaves
    by_cases hsweep : net.sweep = net
    · refine .inl ⟨0, by omega, ?_, hsweep, by omega⟩
      simp only [settleFrom, hsweep, if_true]
      rfl
    · have hnext : net.settleFrom made (limit + 1) = net.sweep.settleFrom (made + 1) limit := by
        simp only [settleFrom, hsweep, if_false]
      -- an earlier sweep is the first, or one of those counted from the second
      have hearlier : ∀ count, (∀ earlier < count,
          (sweep^[earlier] net.sweep).sweep ≠ sweep^[earlier] net.sweep) →
          ∀ earlier < count + 1, (sweep^[earlier] net).sweep ≠ sweep^[earlier] net := by
        intro count h earlier hlt
        cases earlier with
        | zero => exact hsweep
        | succ earlier => exact h earlier (by omega)
      rw [hnext]
      rcases ih net.sweep (made + 1) with ⟨count, hlt, hsettle, hfixed, hbefore⟩ | ⟨hsettle, hbefore⟩
      · refine .inl ⟨count + 1, by omega, ?_, hfixed, hearlier count hbefore⟩
        rw [hsettle, show made + 1 + count + 1 = made + (count + 1) + 1 from by omega]
        rfl
      · exact .inr ⟨hsettle, hearlier limit hbefore⟩

/-- The ways in which settling ends, with the sweeps counted from the first. -/
theorem settle_cases (net : Network) (limit : Nat) :
    (∃ count < limit, net.settle limit = (sweep^[count] net, some (count + 1)) ∧
      (sweep^[count] net).sweep = sweep^[count] net ∧
      ∀ earlier < count, (sweep^[earlier] net).sweep ≠ sweep^[earlier] net) ∨
    (net.settle limit = (sweep^[limit] net, none) ∧
      ∀ earlier < limit, (sweep^[earlier] net).sweep ≠ sweep^[earlier] net) := by
  have h := settleFrom_cases net 0 limit
  simp only [Nat.zero_add] at h
  exact h

theorem muted_settle (net : Network) (limit : Nat) : (net.settle limit).1.muted = net.muted :=
  view_settleFrom muted_relax limit 0 net

/-- What settling answers is a network that a further sweep does not change, made by a number of
sweeps within the limit. -/
theorem settle_eq_some {limit passes : Nat} (h : net.settle limit = (after, some passes)) :
    1 ≤ passes ∧ passes ≤ limit ∧ after.sweep = after := by
  rcases settle_cases net limit with ⟨count, hlt, hsettle, hfixed, _⟩ | ⟨hsettle, _⟩
  · rw [hsettle] at h
    cases h
    exact ⟨by omega, by omega, hfixed⟩
  · rw [hsettle] at h
    cases h

/-- Settling gives up exactly when every sweep up to the limit changes the network. -/
theorem settle_eq_none_iff {limit : Nat} : (net.settle limit).2 = none ↔
    ∀ earlier < limit, (sweep^[earlier] net).sweep ≠ sweep^[earlier] net := by
  rcases settle_cases net limit with ⟨count, hlt, hsettle, hfixed, _⟩ | ⟨hsettle, hbefore⟩
  · rw [hsettle]
    exact ⟨fun h => (by cases h), fun h => absurd hfixed (h count hlt)⟩
  · rw [hsettle]
    exact ⟨fun _ => hbefore, fun _ => rfl⟩

/-- A network that a sweep does not change settles at once. -/
theorem settle_of_sweep_eq_self (h : net.sweep = net) {limit : Nat} (hlimit : 0 < limit) :
    net.settle limit = (net, some 1) := by
  -- one sweep is made at least, and it is the last one
  obtain ⟨limit, rfl⟩ := Nat.exists_eq_succ_of_ne_zero (Nat.pos_iff_ne_zero.1 hlimit)
  simp only [settle, settleFrom, h, if_true]

end Network

end LogicCircuit
