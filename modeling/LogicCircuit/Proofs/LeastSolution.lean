import LogicCircuit.Proofs.Acyclic
import Mathlib.Data.Finset.Card
import Mathlib.Order.Basic

/-!
# Least solutions — what AND and OR gates settle to from a cold start

AND and OR gates are monotone: raising a level on an input never lowers the output. A circuit of such
gates may have loops, and then its equations may have many solutions. After a cold start all gates are
LOW, and from there a sweep only ever raises levels. So each sweep that changes the network raises at
least one more gate, and settling takes at most one sweep more than there are gates; and no level is
raised that is LOW in some solution, so what is left is the least solution.

## The architecture

* **`Below`** — the order on networks: every driver shows at most the level it shows in the other one.
* **`Rising`** — every gate shows at most what its inputs ask for, so its turn raises it or leaves it.
  `Rising.relax` says that a turn keeps this, and that levels only rise by it.
* **`Below.relax`** — what is below a balanced network with the same gates and sources stays below it.
* **`card_highs_sweep`** — a sweep that changes the network raises a gate.
* **`settles_least`** — all of it together, for the first cycle after a cold start.
-/

namespace LogicCircuit

/-! ## Monotone gates -/

/-- LOW is below HIGH. -/
instance : PartialOrder Level :=
  PartialOrder.lift Level.isHigh fun a b => by cases a <;> cases b <;> simp [Level.isHigh]

theorem Level.le_iff {a b : Level} : a ≤ b ↔ (a = .high → b = .high) := by
  show a.isHigh ≤ b.isHigh ↔ _
  cases a <;> cases b <;> simp [isHigh]

theorem Level.low_le (level : Level) : .low ≤ level :=
  le_iff.2 fun h => by cases h

/-- A gate whose output rises with its inputs. -/
def GateOp.IsMonotone (op : GateOp) : Prop :=
  op = .and ∨ op = .or

theorem GateOp.IsMonotone.evaluate_le {op : GateOp} (hop : op.IsMonotone) {α : Type} {inputs : List α}
    {level level' : α → Level} (hle : ∀ input ∈ inputs, level input ≤ level' input) :
    op.evaluate (inputs.map level) ≤ op.evaluate (inputs.map level') := by
  have hhigh : ∀ input ∈ inputs, (level input).isHigh = true → (level' input).isHigh = true := by
    intro input hmem hinput
    exact Bool.le_iff_imp.1 (hle input hmem) hinput
  show (op.evaluate (inputs.map level)).isHigh ≤ (op.evaluate (inputs.map level')).isHigh
  rw [Bool.le_iff_imp]
  rcases hop with rfl | rfl
  · -- HIGH on all inputs, or on one, stays so when inputs rise
    simp only [evaluate, Level.isHigh_ofBool, List.all_map, List.all_eq_true]
    exact fun hall input hmem => hhigh input hmem (hall input hmem)
  · simp only [evaluate, Level.isHigh_ofBool, List.any_map, List.any_eq_true]
    rintro ⟨input, hmem, hinput⟩
    exact ⟨input, hmem, hhigh input hmem hinput⟩

namespace Network

variable {net after solution : Network} {id : NameId} {device : Device}

/-- All gates are AND or OR gates. -/
def Monotone (net : Network) : Prop :=
  ∀ id op drivers, net.gate? id = some (op, drivers) → op.IsMonotone

/-! ## Networks below others -/

/-- Every driver shows at most the level it shows in the other network. -/
def Below (net after : Network) : Prop :=
  ∀ driver, net.drivenLevel driver ≤ after.drivenLevel driver

theorem Below.refl (net : Network) : net.Below net := fun _ => le_rfl

theorem Below.trans {last : Network} (h : net.Below after) (h' : after.Below last) : net.Below last :=
  fun driver => (h driver).trans (h' driver)

/-- What the inputs of a monotone gate ask for rises with the network. -/
theorem Below.evaluate (h : net.Below after) {op : GateOp} (hop : op.IsMonotone)
    (drivers : List (Option OutputRef)) :
    op.evaluate (drivers.map net.drivenLevel) ≤ op.evaluate (drivers.map after.drivenLevel) :=
  hop.evaluate_le fun driver _ => h driver

/-- What a gate drives after its turn. -/
theorem drivenLevel_relax_self {op : GateOp} {drivers : List (Option OutputRef)}
    (hgate : net.gate? id = some (op, drivers)) :
    (net.relax id).drivenLevel (some ⟨id, .main⟩) = op.evaluate (drivers.map net.drivenLevel) := by
  obtain ⟨device, inputs, output, hdevice, helement, rfl⟩ := gate?_eq_some_iff.1 hgate
  have hlevels : (device.drivers.map Prod.snd).map net.drivenLevel = net.inputLevels device := by
    rw [List.map_map]
    rfl
  rw [hlevels, drivenLevel, Option.bind_some, level?, device?_relax_gate hdevice helement]
  rfl

/-- What all others drive. -/
theorem drivenLevel_relax_of_ne {driver : Option OutputRef} (hne : driver ≠ some ⟨id, .main⟩) :
    (net.relax id).drivenLevel driver = net.drivenLevel driver := by
  cases driver with
  | none => rfl
  | some source =>
    obtain ⟨other, port⟩ := source
    have hlevel : (net.relax id).level? ⟨other, port⟩ = net.level? ⟨other, port⟩ := by
      by_cases hother : other = id
      · subst hother
        -- the turn puts a level on one output, so another one of the same device is none of a gate
        have hport : port ≠ .main := by
          rintro rfl
          exact hne rfl
        have hgates : (net.relax other).gate? other = net.gate? other :=
          gate?_of_drawing_eq (drawing_relax net other) other
        cases hgate : net.gate? other with
        | none => rw [relax_eq_self (balancedAt_of_gate?_eq_none hgate)]
        | some gate =>
          have hsome : (net.gate? other).isSome := by
            rw [hgate]
            rfl
          have hsome' : ((net.relax other).gate? other).isSome := by
            rw [hgates]
            exact hsome
          rw [level?_of_gate?_isSome hsome hport, level?_of_gate?_isSome hsome' hport]
      · exact level?_congr (isLocal_relax net id other hother)
    rw [drivenLevel, drivenLevel, Option.bind_some, Option.bind_some, hlevel]

/-! ## Rising levels -/

/-- Every gate shows at most what its inputs ask for. -/
def Rising (net : Network) : Prop :=
  ∀ id op drivers, net.gate? id = some (op, drivers) →
    net.drivenLevel (some ⟨id, .main⟩) ≤ op.evaluate (drivers.map net.drivenLevel)

/-- **The turn of a gate raises it or leaves it**, and all gates still show at most what their inputs
ask for, since these have not become less. -/
theorem Rising.relax (h : net.Rising) (hmono : net.Monotone) (id : NameId) :
    net.Below (net.relax id) ∧ (net.relax id).Rising := by
  have hgates : ∀ other, (net.relax id).gate? other = net.gate? other :=
    gate?_of_drawing_eq (drawing_relax net id)
  cases hgate : net.gate? id with
  | none =>
    rw [relax_eq_self (balancedAt_of_gate?_eq_none hgate)]
    exact ⟨.refl net, h⟩
  | some gate =>
    obtain ⟨op, drivers⟩ := gate
    have hbelow : net.Below (net.relax id) := by
      intro driver
      -- the gate itself goes where its inputs ask, and by assumption that is not down
      by_cases hdriver : driver = some ⟨id, .main⟩
      · rw [hdriver, drivenLevel_relax_self hgate]
        exact h id op drivers hgate
      · exact (drivenLevel_relax_of_ne hdriver).ge
    refine ⟨hbelow, fun other op' drivers' hgate' => ?_⟩
    rw [hgates] at hgate'
    -- the inputs of every gate ask for at least as much as before
    have hasked := hbelow.evaluate (hmono other op' drivers' hgate') drivers'
    by_cases hother : other = id
    · subst hother
      rw [drivenLevel_relax_self hgate']
      exact hasked
    · have hne : some (⟨other, .main⟩ : OutputRef) ≠ some ⟨id, .main⟩ := by
        intro heq
        exact hother (OutputRef.mk.inj (Option.some.inj heq)).1
      rw [drivenLevel_relax_of_ne hne]
      exact (h other op' drivers' hgate').trans hasked

/-- **No turn goes beyond a solution**: what is below a balanced network with the same gates stays below
it. -/
theorem Below.relax (h : net.Below solution) (hmono : net.Monotone)
    (hgates : ∀ id, solution.gate? id = net.gate? id) (hbalanced : ∀ id, solution.BalancedAt id)
    (id : NameId) : (net.relax id).Below solution := by
  -- only the gate itself moves, and a solution has at least what its inputs ask for
  intro driver
  by_cases hdriver : driver = some ⟨id, .main⟩
  · subst hdriver
    cases hgate : net.gate? id with
    | none =>
      rw [relax_eq_self (balancedAt_of_gate?_eq_none hgate)]
      exact h _
    | some gate =>
      obtain ⟨op, drivers⟩ := gate
      have hsolution := (hbalanced id).level?_main ((hgates id).trans hgate)
      rw [drivenLevel_relax_self hgate, drivenLevel, Option.bind_some, hsolution]
      exact h.evaluate (hmono id op drivers hgate) drivers
  · rw [drivenLevel_relax_of_ne hdriver]
    exact h driver

theorem Monotone.of_gates_eq (h : net.Monotone) (hgates : ∀ id, after.gate? id = net.gate? id) :
    after.Monotone := by
  intro id op drivers hgate
  rw [hgates] at hgate
  exact h id op drivers hgate

/-! ## Sweeps -/

/-- Turns raise levels one after the other. By induction along the handles; gates stay what they are. -/
theorem Rising.foldl_relax : ∀ (visited : List NameId) {net : Network}, net.Rising → net.Monotone →
    net.Below (visited.foldl Network.relax net) ∧ (visited.foldl Network.relax net).Rising
  | [], net, h, _ => ⟨.refl net, h⟩
  | id :: rest, net, h, hmono => by
    obtain ⟨hbelow, hrising⟩ := h.relax hmono id
    have hmono' := hmono.of_gates_eq (gate?_of_drawing_eq (drawing_relax net id))
    obtain ⟨hbelow', hrising'⟩ := foldl_relax rest hrising hmono'
    exact ⟨hbelow.trans hbelow', hrising'⟩

/-- **Sweeps raise levels.** -/
theorem Rising.sweep (h : net.Rising) (hmono : net.Monotone) :
    net.Below net.sweep ∧ net.sweep.Rising :=
  h.foldl_relax net.ids hmono

/-- **Sweeps from a start where levels rise** only raise them. -/
theorem Rising.iterate_sweep (h : net.Rising) (hmono : net.Monotone) (count : Nat) :
    (Network.sweep^[count] net).Rising := by
  induction count with
  | zero => exact h
  | succ count ih =>
    rw [Function.iterate_succ_apply']
    exact (ih.sweep (hmono.of_gates_eq (gate?_of_drawing_eq (drawing_iterate_sweep net count)))).2

/-- Turns stay below a solution one after the other. -/
theorem Below.foldl_relax (hbalanced : ∀ id, solution.BalancedAt id) :
    ∀ (visited : List NameId) {net : Network}, net.Below solution → net.Monotone →
      (∀ id, solution.gate? id = net.gate? id) → (visited.foldl Network.relax net).Below solution
  | [], _, h, _, _ => h
  | id :: rest, net, h, hmono, hgates => by
    have hsame := gate?_of_drawing_eq (drawing_relax net id)
    have hgates' : ∀ other, solution.gate? other = (net.relax id).gate? other := fun other =>
      (hgates other).trans (hsame other).symm
    exact foldl_relax hbalanced rest (h.relax hmono hgates hbalanced id) (hmono.of_gates_eq hsame)
      hgates'

/-- **Sweeps stay below solutions.** -/
theorem Below.iterate_sweep (h : net.Below solution) (hmono : net.Monotone)
    (hgates : ∀ id, solution.gate? id = net.gate? id) (hbalanced : ∀ id, solution.BalancedAt id)
    (count : Nat) : (sweep^[count] net).Below solution := by
  induction count with
  | zero => exact h
  | succ count ih =>
    have hsame := gate?_of_drawing_eq (drawing_iterate_sweep net count)
    rw [Function.iterate_succ_apply']
    exact Below.foldl_relax hbalanced _ ih (hmono.of_gates_eq hsame) fun other =>
      (hgates other).trans (hsame other).symm

/-! ## Counting gates -/

/-- The handles of the gates. -/
def gateIds (net : Network) : List NameId :=
  net.find fun kind => match kind with
    | .gate _ _ => true
    | _ => false

/-- The gates are found by their kind, in the order of the devices. -/
theorem mem_gateIds_iff (hnet : net.Distinct) : id ∈ net.gateIds ↔ (net.gate? id).isSome := by
  rw [gate?_isSome_iff, gateIds, find, List.mem_map]
  constructor
  · rintro ⟨device, hmem, rfl⟩
    obtain ⟨hdevices, hkind⟩ := List.mem_filter.1 hmem
    refine ⟨device, hnet.device?_eq_some_iff.2 ⟨hdevices, rfl⟩, Device.isGate_iff.2 ?_⟩
    cases hdevice : device.kind with
    | gate op inputs => exact ⟨op, inputs, rfl⟩
    | _ =>
      rw [hdevice] at hkind
      cases hkind
  · rintro ⟨device, hdevice, hgate⟩
    obtain ⟨hmem, hid⟩ := mem_of_device? hdevice
    obtain ⟨op, inputs, hkind⟩ := Device.isGate_iff.1 hgate
    exact ⟨device, List.mem_filter.2 ⟨hmem, by rw [hkind]⟩, hid⟩

/-- The gates that are HIGH. -/
def highs (net : Network) : Finset NameId :=
  net.gateIds.toFinset.filter fun id => net.drivenLevel (some ⟨id, .main⟩) = .high

theorem mem_highs_iff (hnet : net.Distinct) : id ∈ net.highs ↔
    (net.gate? id).isSome ∧ net.drivenLevel (some ⟨id, .main⟩) = .high := by
  rw [highs, Finset.mem_filter, List.mem_toFinset, mem_gateIds_iff hnet]

theorem card_highs_le (net : Network) : net.highs.card ≤ net.gateIds.length :=
  (Finset.card_filter_le _ _).trans (List.toFinset_card_le _)

/-- Gates are the same ones in networks with one drawing. -/
theorem gateIds_of_drawing_eq (h : after.drawing = net.drawing) : after.gateIds = net.gateIds := by
  have hdrawn : ∀ net : Network, net.drawing.gateIds = net.gateIds := by
    intro net
    rw [gateIds, gateIds, find, find, drawing, List.filter_map, List.map_map]
    simp only [Function.comp_def, Device.drawn, Device.kind, Device.element_withElement,
      Device.id_withElement, Element.kind_ofKind]
  rw [← hdrawn, h, hdrawn]

/-- The level of a gate. -/
theorem level?_main_of_gate? (hgate : (net.gate? id).isSome) :
    net.level? ⟨id, .main⟩ = some (net.drivenLevel (some ⟨id, .main⟩)) := by
  obtain ⟨device, hdevice, op, inputs, output, helement⟩ := gate?_isSome_iff.1 hgate
  rw [drivenLevel, Option.bind_some, level?, hdevice, Option.bind_some, Device.output?, helement]
  rfl

/-- Networks with the same gates and sources, and the same levels on the gates, show the same levels. -/
theorem level?_eq_of_gates (hgates : ∀ id, after.gate? id = net.gate? id)
    (hsources : ∀ output, after.sourceLevel? output = net.sourceLevel? output)
    (hlevels : ∀ id, (net.gate? id).isSome →
      after.drivenLevel (some ⟨id, .main⟩) = net.drivenLevel (some ⟨id, .main⟩))
    (output : OutputRef) : after.level? output = net.level? output := by
  obtain ⟨id, port⟩ := output
  by_cases hgate : (net.gate? id).isSome
  · have hgate' : (after.gate? id).isSome := by
      rw [hgates]
      exact hgate
    by_cases hport : port = .main
    · rw [hport, level?_main_of_gate? hgate, level?_main_of_gate? hgate', hlevels id hgate]
    · rw [level?_of_gate?_isSome hgate hport, level?_of_gate?_isSome hgate' hport]
  · have hnone : net.gate? id = none := Option.not_isSome_iff_eq_none.1 hgate
    rw [level?_of_gate?_eq_none hnone, level?_of_gate?_eq_none ((hgates id).trans hnone), hsources]

/-- **A sweep that changes the network raises a gate.** -/
theorem Rising.card_highs_sweep (h : net.Rising) (hmono : net.Monotone) (hnet : net.Distinct)
    (hne : net.sweep ≠ net) : net.highs.card < net.sweep.highs.card := by
  have hbelow : net.Below net.sweep := (h.sweep hmono).1
  have hgates : ∀ id, net.sweep.gate? id = net.gate? id := gate?_of_drawing_eq (drawing_sweep net)
  have hsweep : net.sweep.Distinct := hnet.of_muted_eq (muted_sweep net)
  -- some gate shows another level, or all levels were the same
  obtain ⟨id, hgate, hchanged⟩ : ∃ id, (net.gate? id).isSome ∧
      net.sweep.drivenLevel (some ⟨id, .main⟩) ≠ net.drivenLevel (some ⟨id, .main⟩) := by
    by_contra hsame
    push Not at hsame
    obtain ⟨output, hlevel⟩ := (sweep_ne_self_iff hnet).1 hne
    exact hlevel (level?_eq_of_gates hgates (sourceLevel?_of_muted_eq (muted_sweep net)) hsame output)
  have hle := Level.le_iff.1 (hbelow (some ⟨id, .main⟩))
  have hraised : net.drivenLevel (some ⟨id, .main⟩) = .low ∧
      net.sweep.drivenLevel (some ⟨id, .main⟩) = .high := by
    cases hbefore : net.drivenLevel (some ⟨id, .main⟩) with
    | high => exact absurd ((hle hbefore).trans hbefore.symm) hchanged
    | low =>
      cases hafter : net.sweep.drivenLevel (some ⟨id, .main⟩) with
      | high => exact ⟨rfl, rfl⟩
      | low => exact absurd (hafter.trans hbefore.symm) hchanged
  apply Finset.card_lt_card
  rw [Finset.ssubset_iff_of_subset]
  · -- the raised gate is HIGH now, and was not before
    refine ⟨id, (mem_highs_iff hsweep).2 ⟨by rw [hgates]; exact hgate, hraised.2⟩, ?_⟩
    intro hmem
    rw [mem_highs_iff hnet, hraised.1] at hmem
    cases hmem.2
  · -- none that was HIGH has become LOW
    intro other hother
    obtain ⟨hgate', hhigh⟩ := (mem_highs_iff hnet).1 hother
    refine (mem_highs_iff hsweep).2 ⟨by rw [hgates]; exact hgate', ?_⟩
    exact Level.le_iff.1 (hbelow _) hhigh

/-- So as many sweeps as change the network raise at least as many gates. -/
theorem Rising.le_card_highs (h : net.Rising) (hmono : net.Monotone) (hnet : net.Distinct)
    (count : Nat) (hchanged : ∀ earlier < count, (Network.sweep^[earlier] net).sweep
      ≠ Network.sweep^[earlier] net) : count ≤ (Network.sweep^[count] net).highs.card := by
  induction count with
  | zero => exact Nat.zero_le _
  | succ count ih =>
    -- by induction: the last sweep has raised one gate more than those before it
    have hmono' := hmono.of_gates_eq (gate?_of_drawing_eq (drawing_iterate_sweep net count))
    have hraised := (h.iterate_sweep hmono count).card_highs_sweep hmono'
      (distinct_iterate_sweep hnet count) (hchanged count (by omega))
    have hearlier := ih fun earlier hlt => hchanged earlier (by omega)
    rw [Function.iterate_succ_apply']
    omega

/-- So at most as many sweeps change the network as there are gates. -/
theorem Rising.le_gates (h : net.Rising) (hmono : net.Monotone) (hnet : net.Distinct) {count : Nat}
    (hchanged : ∀ earlier < count, (Network.sweep^[earlier] net).sweep
      ≠ Network.sweep^[earlier] net) : count ≤ net.gateIds.length := by
  have hhighs := h.le_card_highs hmono hnet count hchanged
  have hle := card_highs_le (Network.sweep^[count] net)
  rw [gateIds_of_drawing_eq (drawing_iterate_sweep net count)] at hle
  omega

/-! ## Settling -/

/-- **Settling takes at most one sweep more than there are gates**, and leaves a network below every
solution. -/
theorem Rising.settle (h : net.Rising) (hmono : net.Monotone) (hnet : net.Distinct) {limit : Nat}
    (hlimit : net.gateIds.length + 1 ≤ limit) :
    ∃ settled passes, net.settle limit = (settled, some passes) ∧
      passes ≤ net.gateIds.length + 1 ∧
      ∀ solution : Network, net.Below solution → (∀ id, solution.gate? id = net.gate? id) →
        (∀ id, solution.BalancedAt id) → settled.Below solution := by
  -- the sweeps in front of the last one have changed the network, so they are no more than the gates
  rcases settle_cases net limit with ⟨count, -, hsettle, -, hbefore⟩ | ⟨-, hbefore⟩
  · have hcount := h.le_gates hmono hnet hbefore
    refine ⟨_, _, hsettle, by omega, ?_⟩
    intro solution hbelow hgates hbalanced
    exact hbelow.iterate_sweep hmono hgates hbalanced count
  · have hcount := h.le_gates hmono hnet hbefore
    omega

/-! ## Gates that are LOW -/

/-- All gates are LOW. -/
def Quiet (net : Network) : Prop :=
  ∀ device ∈ net.devices, device.muted = device

theorem Quiet.drivenLevel_eq (h : net.Quiet) (hgate : (net.gate? id).isSome) :
    net.drivenLevel (some ⟨id, .main⟩) = .low := by
  obtain ⟨device, hdevice, op, inputs, output, helement⟩ := gate?_isSome_iff.1 hgate
  have hlow : device.muted.element = device.element := by
    rw [h device (mem_of_device? hdevice).1]
  rw [Device.muted, Device.element_withElement, helement] at hlow
  rw [drivenLevel, Option.bind_some, level?, hdevice, Option.bind_some, Device.output?, helement,
    ← hlow]
  rfl

/-- Gates that are LOW show at most what their inputs ask for. -/
theorem Quiet.rising (h : net.Quiet) : net.Rising := by
  intro id op drivers hgate
  have hlow : net.drivenLevel (some ⟨id, .main⟩) = .low := h.drivenLevel_eq (by rw [hgate]; rfl)
  rw [hlow]
  exact Level.low_le _

/-- With all gates LOW, a network is below all networks with the same gates and sources. -/
theorem Quiet.below (h : net.Quiet) (hgates : ∀ id, after.gate? id = net.gate? id)
    (hsources : ∀ output, after.sourceLevel? output = net.sourceLevel? output) : net.Below after := by
  intro driver
  cases driver with
  | none => exact le_rfl
  | some source =>
    obtain ⟨id, port⟩ := source
    -- gates are LOW here, and all else shows the same in both networks
    by_cases hgate : (net.gate? id).isSome
    · by_cases hport : port = .main
      · rw [hport, h.drivenLevel_eq hgate]
        exact Level.low_le _
      · rw [drivenLevel, Option.bind_some, level?_of_gate?_isSome hgate hport]
        exact Level.low_le _
    · have hnone : net.gate? id = none := Option.not_isSome_iff_eq_none.1 hgate
      rw [drivenLevel, drivenLevel, Option.bind_some, Option.bind_some, level?_of_gate?_eq_none hnone,
        level?_of_gate?_eq_none ((hgates id).trans hnone), hsources]

/-- A cold start makes all gates LOW. -/
theorem quiet_coldStart (net : Network) : net.coldStart.Quiet := by
  intro device hmem
  obtain ⟨old, -, rfl⟩ := List.mem_map.1 hmem
  obtain ⟨id, name, drivers, element⟩ := old
  cases element <;> rfl

/-- Sources move, and gates stay LOW. -/
theorem Quiet.advanceSources (h : net.Quiet) : net.advanceSources.Quiet := by
  intro device hmem
  obtain ⟨old, hold, rfl⟩ := List.mem_map.1 hmem
  by_cases hgate : old.IsGate
  · have hsame : old.withElement old.element.advance = old := by
      obtain ⟨id, name, drivers, element⟩ := old
      obtain ⟨op, inputs, output, rfl⟩ := hgate
      rfl
    rw [hsame]
    exact h old hold
  · apply Device.muted_of_not_isGate
    rw [Device.isGate_iff] at hgate ⊢
    rw [Device.kind, Device.element_withElement, Element.kind_advance]
    exact hgate

/-- The setting of a switch leaves gates LOW. -/
theorem Quiet.setSwitch? {level : Level} (h : net.Quiet) (hset : net.setSwitch? id level = some after) :
    after.Quiet := by
  obtain ⟨device, initial, old, -, -, rfl⟩ := setSwitch?_eq_some hset
  intro changed hmem
  obtain ⟨before, hbefore, rfl⟩ := List.mem_map.1 hmem
  split
  · rfl
  · exact h before hbefore

/-! ## The least solution -/

/-- The settled network is the least one with the gates and sources of `net` in which all equations
hold. -/
structure Least (net settled : Network) : Prop where
  muted : settled.muted = net.muted
  balanced : settled.Balanced
  below : ∀ solution : Network, (∀ id, solution.gate? id = net.gate? id) →
    (∀ output, solution.sourceLevel? output = net.sourceLevel? output) →
    (∀ id, solution.BalancedAt id) → settled.Below solution

/-- **When all gates are LOW, AND and OR gates settle to the least solution.** -/
theorem Quiet.settle (h : net.Quiet) (hmono : net.Monotone) (hnet : net.Distinct) {limit : Nat}
    (hlimit : net.gateIds.length + 1 ≤ limit) :
    ∃ settled passes, net.settle limit = (settled, some passes) ∧
      passes ≤ net.gateIds.length + 1 ∧ net.Least settled := by
  obtain ⟨settled, passes, hsettle, hpasses, hleast⟩ := h.rising.settle hmono hnet hlimit
  obtain ⟨-, hmuted, hbalanced⟩ := settle_eq_some_balanced hnet hsettle
  -- every solution is above the LOW gates, so the sweeps end below it
  refine ⟨settled, passes, hsettle, hpasses, hmuted, hbalanced, ?_⟩
  intro solution hgates hsources hsolution
  exact hleast solution (h.below hgates hsources) hgates hsolution

namespace Least

variable {settled : Network}

theorem distinct (h : net.Least settled) (hnet : net.Distinct) : settled.Distinct :=
  hnet.of_muted_eq h.muted

theorem solves (h : net.Least settled) (hnet : net.Distinct) : net.Solves settled.gateLevel :=
  (solves_gateLevel_iff (h.distinct hnet) h.muted).2 h.balanced

/-- Latched or not, the levels of the gates solve the network. -/
theorem solves_of_gateLevel_eq (h : net.Least settled) (hnet : net.Distinct) {level : NameId → Level}
    (hlevel : ∀ id, (net.gate? id).isSome → level id = settled.gateLevel id) : net.Solves level := by
  have hsame : net.withGates level = net.withGates settled.gateLevel :=
    withGates_congr hnet hlevel
  rw [Solves, hsame]
  exact h.solves hnet

/-- Levels that solve the network are nowhere below. -/
theorem gateLevel_le (h : net.Least settled) (hnet : net.Distinct) {level : NameId → Level}
    (hsolves : net.Solves level) (hgate : (net.gate? id).isSome) : settled.gateLevel id ≤ level id := by
  have hmuted : (net.withGates level).muted = net.muted := muted_withGates level
  have hbalanced := (hnet.of_muted_eq hmuted).balanced_iff.1 hsolves
  have hbelow := h.below _ (gate?_of_muted_eq hmuted) (sourceLevel?_of_muted_eq hmuted) hbalanced
    (some ⟨id, .main⟩)
  rw [drivenLevel, drivenLevel, Option.bind_some, Option.bind_some, level?_withGates hgate] at hbelow
  exact hbelow

/-- The least network is below each other least network with the same gates and sources. -/
theorem below_of_same (h : net.Least settled) {other settled' : Network} (hnet : other.Distinct)
    (h' : other.Least settled') (hgates : ∀ id, other.gate? id = net.gate? id)
    (hsources : ∀ output, other.sourceLevel? output = net.sourceLevel? output) :
    settled.Below settled' := by
  -- the other network has the same gates and sources and solves the equations
  apply h.below
  · intro id
    rw [gate?_of_muted_eq h'.muted, hgates]
  · intro output
    rw [sourceLevel?_of_muted_eq h'.muted, hsources]
  · exact (h'.distinct hnet).balanced_iff.1 h'.balanced

/-- **The least levels do not depend on the definition order.** -/
theorem gateLevel_of_perm (h : net.Least settled) (hnet : net.Distinct) {other settled' : Network}
    (h' : other.Least settled') (hperm : other.devices.Perm net.devices) (id : NameId) :
    settled'.gateLevel id = settled.gateLevel id := by
  have hother : other.Distinct := (hperm.map Device.id).nodup_iff.2 hnet
  have hgates : ∀ id, other.gate? id = net.gate? id := fun id => by
    rw [gate?, gate?, device?_of_perm hnet hperm]
  have hsources : ∀ output, other.sourceLevel? output = net.sourceLevel? output := fun output => by
    rw [sourceLevel?, sourceLevel?, device?_of_perm hnet hperm]
  have hle := h.below_of_same hother h' hgates hsources
  have hge := h'.below_of_same hnet h (fun id => (hgates id).symm) fun output => (hsources output).symm
  -- each is below the other
  exact le_antisymm (hge (some ⟨id, .main⟩)) (hle (some ⟨id, .main⟩))

end Least

/-- Latching does not reach gates. -/
theorem gateLevel_latchAll (hnet : net.Distinct) (hgate : (net.gate? id).isSome) :
    net.latchAll.gateLevel id = net.gateLevel id := by
  obtain ⟨device, hdevice, hisGate⟩ := gate?_isSome_iff.1 hgate
  have hlatched := device?_latchAll_of_ne_dtype hnet hdevice (Device.kind_ne_dtype_of_isGate hisGate)
  rw [gateLevel, gateLevel, level?, level?, hlatched, hdevice]

end Network

/-! ## The first cycle -/

namespace Simulator

/-- The simulator before its first cycle: after a cold start, and after switches that are set then. -/
inductive Cold (sim : Simulator) : Simulator → Prop where
  | coldStart : Cold sim sim.coldStart
  | setSwitch {start after : Simulator} {id : NameId} {level : Level} (hstart : Cold sim start)
      (h : start.setSwitch? id level = some after) : Cold sim after

/-- What cold starts and switches leave of a simulator. -/
structure Primed (sim start : Simulator) : Prop where
  quiet : start.network.Quiet
  drawing : start.network.drawing = sim.network.drawing
  fixedLimit : start.fixedLimit = sim.fixedLimit

/-- By induction on what is done before the first cycle: gates stay LOW, and the drawing stays. -/
theorem Cold.primed {sim start : Simulator} (hstart : sim.Cold start) (hnet : sim.network.Distinct) :
    sim.Primed start := by
  induction hstart with
  | coldStart => exact ⟨Network.quiet_coldStart _, Network.drawing_coldStart, rfl⟩
  | @setSwitch start after id level hstart hset ih =>
    obtain ⟨network, hnetwork, rfl⟩ := Option.map_eq_some_iff.1 hset
    have hdistinct : start.network.Distinct := hnet.of_drawing_eq ih.drawing
    exact ⟨ih.quiet.setSwitch? hnetwork,
      (Network.drawing_setSwitch? hdistinct hnetwork).trans ih.drawing, ih.fixedLimit⟩

/-- **A cycle that starts with all gates LOW**, under a limit that allows a sweep for each gate and one
more. The gates show the least solution, also when the flip-flops have latched. -/
theorem step_of_quiet {sim : Simulator} (hquiet : sim.network.Quiet) (hmono : sim.network.Monotone)
    (hnet : sim.network.Distinct) (hlimit : sim.network.gateIds.length + 1 ≤ sim.sweepLimit) :
    ∃ settled after, sim.network.advanceSources.Least settled ∧ sim.step = (after, .ok ()) ∧
      ∀ id, (sim.network.gate? id).isSome → after.network.gateLevel id = settled.gateLevel id := by
  have hdrawing : sim.network.advanceSources.drawing = sim.network.drawing :=
    Network.drawing_advanceSources
  have hgates := Network.gate?_of_drawing_eq hdrawing
  have hadvanced : sim.network.advanceSources.Distinct := hnet.of_drawing_eq hdrawing
  rw [← Network.gateIds_of_drawing_eq hdrawing] at hlimit
  obtain ⟨settled, passes, hsettle, -, hleast⟩ :=
    hquiet.advanceSources.settle (hmono.of_gates_eq hgates) hadvanced hlimit
  refine ⟨settled, { sim with network := settled.latchAll, cycle := sim.cycle + 1 }, hleast, ?_, ?_⟩
  · rw [step, hsettle]
  · intro id hgate
    apply Network.gateLevel_latchAll (hleast.distinct hadvanced)
    rw [Network.gate?_of_muted_eq hleast.muted, hgates]
    exact hgate

/-- **The definition order does not matter**: such a cycle brings the same devices in another order to the
same levels. -/
theorem step_of_perm {sim other after : Simulator} (hquiet : sim.network.Quiet)
    (hmono : sim.network.Monotone) (hnet : sim.network.Distinct)
    (hlimit : sim.network.gateIds.length + 1 ≤ sim.sweepLimit) (hstep : sim.step = (after, .ok ()))
    (hperm : other.network.devices.Perm sim.network.devices)
    (hlimit' : sim.network.gateIds.length + 1 ≤ other.sweepLimit) :
    ∃ after', other.step = (after', .ok ()) ∧
      ∀ id, (sim.network.gate? id).isSome →
        after'.network.gateLevel id = after.network.gateLevel id := by
  have hgates : ∀ id, other.network.gate? id = sim.network.gate? id := by
    intro id
    rw [Network.gate?, Network.gate?, Network.device?_of_perm hnet hperm]
  have hquiet' : other.network.Quiet := by
    intro device hdevice
    exact hquiet device (hperm.mem_iff.1 hdevice)
  -- the limits allow as many sweeps for either order
  have hcount : other.network.gateIds.length = sim.network.gateIds.length :=
    ((hperm.filter _).map Device.id).length_eq
  rw [← hcount] at hlimit'
  obtain ⟨settled, _, hleast, hsim, hlevels⟩ := step_of_quiet hquiet hmono hnet hlimit
  obtain ⟨settled', after', hleast', hstep', hlevels'⟩ := step_of_quiet hquiet'
    (hmono.of_gates_eq hgates) ((hperm.map Device.id).nodup_iff.2 hnet) hlimit'
  -- the cycle is the one that is given, so its levels are the least ones
  rw [hstep] at hsim
  cases hsim
  have hadvanced : sim.network.advanceSources.Distinct :=
    hnet.of_drawing_eq Network.drawing_advanceSources
  refine ⟨after', hstep', fun id hgate => ?_⟩
  rw [hlevels' id (by rw [hgates]; exact hgate), hlevels id hgate]
  exact hleast.gateLevel_of_perm hadvanced hleast' (hperm.map _) id

/-- **AND and OR gates settle to the least solution.** Whatever loops there are, in the first cycle after
a cold start settling takes at most one sweep more than there are gates, which the default limit allows.
The cycle then leaves the gates at levels that solve the network, with the sources as they are in that
cycle, and that are nowhere above any others that do. The same devices in another definition order come
to the same levels. -/
theorem settles_least {sim start : Simulator} (hsim : sim.Reachable) (hmono : sim.network.Monotone)
    (hstart : sim.Cold start) :
    let net := start.network.advanceSources
    let gates := sim.network.gateIds
    (∀ limit, gates.length + 1 ≤ limit → ∃ settled passes,
      net.settle limit = (settled, some passes) ∧ passes ≤ gates.length + 1) ∧
    (start.fixedLimit = none → gates.length + 1 ≤ start.sweepLimit) ∧
    (gates.length + 1 ≤ start.sweepLimit → ∃ after, start.step = (after, .ok ()) ∧
      net.Solves after.network.gateLevel ∧
      (∀ level, net.Solves level → ∀ id ∈ gates, after.network.gateLevel id ≤ level id) ∧
      ∀ other : Simulator, other.network.devices.Perm start.network.devices →
        gates.length + 1 ≤ other.sweepLimit → ∃ after', other.step = (after', .ok ()) ∧
          ∀ id ∈ gates, after'.network.gateLevel id = after.network.gateLevel id) := by
  intro net gates
  obtain ⟨hquiet, hdrawing, hfixed⟩ := hstart.primed hsim.distinct
  have hdistinct : start.network.Distinct := hsim.distinct.of_drawing_eq hdrawing
  have hmono' : start.network.Monotone := hmono.of_gates_eq (Network.gate?_of_drawing_eq hdrawing)
  have hgates : start.network.gateIds = gates := Network.gateIds_of_drawing_eq hdrawing
  have hadvanced : net.drawing = start.network.drawing := Network.drawing_advanceSources
  have hnet : net.Distinct := hdistinct.of_drawing_eq hadvanced
  have hmem : ∀ id ∈ gates, (start.network.gate? id).isSome := by
    intro id hid
    rw [← hgates] at hid
    exact (Network.mem_gateIds_iff hdistinct).1 hid
  have hnetGate : ∀ id, net.gate? id = start.network.gate? id := Network.gate?_of_drawing_eq hadvanced
  -- the passes that settling takes, what the default limit allows, and where a cycle ends
  refine ⟨?_, ?_, ?_⟩
  · intro limit hlimit
    have hcount : net.gateIds = gates := (Network.gateIds_of_drawing_eq hadvanced).trans hgates
    rw [← hcount] at hlimit ⊢
    obtain ⟨settled, passes, hsettle, hpasses, -⟩ :=
      hquiet.advanceSources.settle (hmono'.of_gates_eq hnetGate) hnet hlimit
    exact ⟨settled, passes, hsettle, hpasses⟩
  · intro hnone
    have hle : gates.length ≤ start.network.size := by
      rw [← hgates, Network.gateIds, Network.find, List.length_map]
      exact List.length_filter_le _ _
    rw [sweepLimit, hnone, Option.getD_none]
    omega
  · intro hlimit
    rw [← hgates] at hlimit
    obtain ⟨settled, after, hleast, hstep, hlevels⟩ := step_of_quiet hquiet hmono' hdistinct hlimit
    refine ⟨after, hstep, ?_, ?_, ?_⟩
    · apply hleast.solves_of_gateLevel_eq hnet
      intro id hgate
      rw [hnetGate] at hgate
      exact hlevels id hgate
    · intro level hsolves id hid
      rw [hlevels id (hmem id hid)]
      apply hleast.gateLevel_le hnet hsolves
      rw [hnetGate]
      exact hmem id hid
    · intro other hperm hlimit'
      rw [← hgates] at hlimit'
      obtain ⟨after', hstep', hsame⟩ :=
        step_of_perm hquiet hmono' hdistinct hlimit hstep hperm hlimit'
      exact ⟨after', hstep', fun id hid => hsame id (hmem id hid)⟩

/-- The OR gate that feeds itself, after a cold start and with its switch LOW. -/
def releasedLoop : Simulator :=
  .new
    { devices :=
        [⟨⟨0⟩, "SW", [], .switch .high .low⟩,
          ⟨⟨1⟩, "G", [(.gate 1, some ⟨⟨0⟩, .main⟩), (.gate 2, some ⟨⟨1⟩, .main⟩)],
            .gate .or 2 .low⟩] }
    none

theorem holdingLoop_monotone : holdingLoop.step.1.network.Monotone := by
  intro id op drivers hgate
  obtain ⟨device, inputs, output, hdevice, helement, -⟩ := Network.gate?_eq_some_iff.1 hgate
  have hdevices : device ∈ holdingLoop.step.1.network.devices := (Network.mem_of_device? hdevice).1
  have hall : ∀ device ∈ holdingLoop.step.1.network.devices,
      device.kind = .switch .high ∨ device.kind = .gate .or 2 := by
    decide +kernel
  have hkind : device.kind = .gate op inputs := by
    rw [Device.kind, helement]
    rfl
  rcases hall device hdevices with h | h
  · rw [h] at hkind
    cases hkind
  · rw [h] at hkind
    cases hkind
    exact .inr rfl

theorem holdingLoop_cold : holdingLoop.step.1.Cold releasedLoop :=
  .setSwitch .coldStart (show Simulator.setSwitch? _ ⟨0⟩ .low = some releasedLoop from rfl)

/-- The loop has run while its switch was HIGH. After a cold start with the switch LOW both levels solve
the equation of the gate, and it settles to LOW, in no more than two sweeps. -/
theorem settles_least_releasedLoop :
    holdingLoop.step.1.Reachable ∧ holdingLoop.step.1.network.gateLevel ⟨1⟩ = .high ∧
    holdingLoop.step.1.network.Monotone ∧ holdingLoop.step.1.Cold releasedLoop ∧
    (∃ settled passes, releasedLoop.network.advanceSources.settle 2 = (settled, some passes) ∧
      passes ≤ 2) ∧
    releasedLoop.network.advanceSources.Solves (fun _ => .high) ∧
    ∃ after, releasedLoop.step = (after, .ok ()) ∧ after.network.gateLevel ⟨1⟩ = .low := by
  have hsolves : ∀ level, releasedLoop.network.advanceSources.Solves fun _ => level := by
    intro level device hmem op inputs output helement
    rcases List.mem_cons.1 hmem with rfl | hmem
    · cases helement
    · obtain rfl := List.mem_singleton.1 hmem
      cases helement
      cases level <;> rfl
  obtain ⟨hsettle, hdefault, hstep⟩ :=
    settles_least holdingLoop_reachable.step holdingLoop_monotone holdingLoop_cold
  obtain ⟨after, hafter, -, hleast, -⟩ := hstep (hdefault rfl)
  have hlow := hleast (fun _ => .low) (hsolves .low) ⟨1⟩ (by decide +kernel)
  have hgates : holdingLoop.step.1.network.gateIds.length + 1 ≤ 2 := by decide +kernel
  exact ⟨holdingLoop_reachable.step, rfl, holdingLoop_monotone, holdingLoop_cold, hsettle 2 hgates,
    hsolves .high, after, hafter, le_antisymm hlow (Level.low_le _)⟩

end Simulator

end LogicCircuit
