import LogicCircuit.Proofs.Solution
import Mathlib.Data.List.Chain
import Mathlib.Order.Lattice.Nat
import Mathlib.Data.List.Perm.Subperm
import Mathlib.Logic.Relation

/-!
# Acyclic circuits — how many sweeps they take, and what they settle to

A gate drives another one if its output is wired to an input of the other. Flip-flops cut such paths,
since within a cycle their outputs stand still. This module is about circuits in which no path leads
back to where it started.

## The architecture

* **`Firm`** — a gate is firm if its equation holds and all gates that drive it are firm. No sweep
  moves a firm gate (`Firm.relax`), and a gate driven by firm gates is firm after its next turn,
  wherever in the sweep that turn comes (`firm_sweep`).
* **`firm_iterate_sweep`** — so after as many sweeps as the longest chain up to a gate has gates, the
  gate is firm. One more sweep confirms that nothing moves.
* **`Firm.level?_eq`** — the level of a firm gate follows from the sources by going up the chains.
  Whatever else solves the equations over the same sources agrees with it.
* **`level?_eq_of_perm`** — so the definition order does not matter, nor do the levels the gates had.
* **`settles_of_acyclic`** — all of it together.
-/

namespace LogicCircuit

namespace Network

variable {net after : Network} {id source target : NameId} {device : Device}

/-! ## Gates and sources -/

/-- What the gate with a handle computes and what drives its inputs. -/
def gate? (net : Network) (id : NameId) : Option (GateOp × List (Option OutputRef)) :=
  (net.device? id).bind fun device =>
    match device.element with
    | .gate op _ _ => some (op, device.drivers.map Prod.snd)
    | _ => none

/-- The level on an output of a switch, clock, signal generator or flip-flop. -/
def sourceLevel? (net : Network) (output : OutputRef) : Option Level :=
  (net.device? output.device).bind fun device =>
    match device.element with
    | .gate _ _ _ => none
    | element => element.output? output.port

/-- A gate is found with its function and with what its inputs are wired to. -/
theorem gate?_eq_some_iff {op : GateOp} {drivers : List (Option OutputRef)} :
    net.gate? id = some (op, drivers) ↔ ∃ device inputs output, net.device? id = some device ∧
      device.element = .gate op inputs output ∧ device.drivers.map Prod.snd = drivers := by
  rw [gate?, Option.bind_eq_some_iff]
  constructor
  · rintro ⟨device, hdevice, h⟩
    cases helement : device.element with
    | gate op' inputs output =>
      rw [helement] at h
      simp only [Option.some.injEq, Prod.mk.injEq] at h
      obtain ⟨rfl, rfl⟩ := h
      exact ⟨device, inputs, output, hdevice, helement, rfl⟩
    | _ =>
      rw [helement] at h
      cases h
  · rintro ⟨device, inputs, output, hdevice, helement, rfl⟩
    exact ⟨device, hdevice, by rw [helement]⟩

/-- There is a gate where there is a device that is one. -/
theorem gate?_isSome_iff :
    (net.gate? id).isSome ↔ ∃ device, net.device? id = some device ∧ device.IsGate := by
  rw [Option.isSome_iff_exists]
  constructor
  · rintro ⟨⟨op, drivers⟩, h⟩
    obtain ⟨device, inputs, output, hdevice, helement, -⟩ := gate?_eq_some_iff.1 h
    exact ⟨device, hdevice, op, inputs, output, helement⟩
  · rintro ⟨device, hdevice, op, inputs, output, helement⟩
    exact ⟨_, gate?_eq_some_iff.2 ⟨device, inputs, output, hdevice, helement, rfl⟩⟩

/-- Where there is no gate, levels are those of sources. -/
theorem level?_of_gate?_eq_none (h : net.gate? id = none) (port : OutputPort) :
    net.level? ⟨id, port⟩ = net.sourceLevel? ⟨id, port⟩ := by
  rw [gate?] at h
  rw [level?, sourceLevel?]
  cases hdevice : net.device? id with
  | none => rfl
  | some device =>
    rw [hdevice, Option.bind_some] at h
    rw [Option.bind_some, Option.bind_some, Device.output?]
    cases helement : device.element with
    | gate op inputs output =>
      rw [helement] at h
      cases h
    | _ => rfl

/-- The equation of a gate, in terms of what drives it. -/
theorem BalancedAt.level?_main {op : GateOp} {drivers : List (Option OutputRef)}
    (h : net.BalancedAt id) (hgate : net.gate? id = some (op, drivers)) :
    net.level? ⟨id, .main⟩ = some (op.evaluate (drivers.map net.drivenLevel)) := by
  obtain ⟨device, inputs, output, hdevice, helement, rfl⟩ := gate?_eq_some_iff.1 hgate
  have hlevels : (device.drivers.map Prod.snd).map net.drivenLevel = net.inputLevels device := by
    rw [List.map_map]
    rfl
  rw [hlevels, level?, hdevice, Option.bind_some, Device.output?, helement,
    ← h device op inputs output hdevice helement]
  rfl

/-- A gate has no output but the unnamed one. -/
theorem level?_of_gate?_isSome (h : (net.gate? id).isSome) {port : OutputPort}
    (hport : port ≠ .main) : net.level? ⟨id, port⟩ = none := by
  obtain ⟨device, hdevice, op, inputs, output, helement⟩ := gate?_isSome_iff.1 h
  rw [level?, hdevice, Option.bind_some, Device.output?, helement]
  cases port with
  | main => exact absurd rfl hport
  | q => rfl
  | qbar => rfl

/-- The gates are part of the drawing. -/
theorem gate?_of_drawing_eq (h : after.drawing = net.drawing) (id : NameId) :
    after.gate? id = net.gate? id := by
  have hgate : ∀ net : Network, net.drawing.gate? id = net.gate? id := by
    intro net
    rw [gate?, gate?, device?_drawing, Option.bind_map]
    congr 1
    funext device
    obtain ⟨id, name, drivers, element⟩ := device
    cases element <;> rfl
  rw [← hgate, h, hgate]

/-- Nor do they depend on levels. -/
theorem gate?_muted (net : Network) (id : NameId) : net.muted.gate? id = net.gate? id := by
  rw [gate?, gate?, device?_muted, Option.bind_map]
  congr 1
  funext device
  obtain ⟨id, name, drivers, element⟩ := device
  cases element <;> rfl

theorem gate?_of_muted_eq (h : after.muted = net.muted) (id : NameId) :
    after.gate? id = net.gate? id := by
  rw [← gate?_muted, h, gate?_muted]

/-- Sources keep their levels when gates are made LOW. -/
theorem sourceLevel?_muted (net : Network) (output : OutputRef) :
    net.muted.sourceLevel? output = net.sourceLevel? output := by
  rw [sourceLevel?, sourceLevel?, device?_muted, Option.bind_map]
  congr 1
  funext device
  obtain ⟨id, name, drivers, element⟩ := device
  cases element <;> rfl

theorem sourceLevel?_of_muted_eq (h : after.muted = net.muted) (output : OutputRef) :
    after.sourceLevel? output = net.sourceLevel? output := by
  rw [← sourceLevel?_muted, h, sourceLevel?_muted]

/-! ## Chains of gates -/

/-- One gate drives an input of another. -/
def Drives (net : Network) (source target : NameId) : Prop :=
  (net.gate? source).isSome ∧
    ∃ op drivers, net.gate? target = some (op, drivers) ∧ some ⟨source, .main⟩ ∈ drivers

/-- No gate drives itself, through any number of other gates. -/
def Acyclic (net : Network) : Prop :=
  ∀ id, ¬ Relation.TransGen net.Drives id id

/-- Gates each of which is driven by the next one in the list. -/
def GateChain (net : Network) (chain : List NameId) : Prop :=
  (∀ id ∈ chain, (net.gate? id).isSome) ∧
    chain.IsChain fun target source => net.Drives source target

/-- The longest chain of gates has `count` gates. -/
def LongestChain (net : Network) (count : Nat) : Prop :=
  (∃ chain, net.GateChain chain ∧ chain.length = count) ∧
    ∀ chain, net.GateChain chain → chain.length ≤ count

theorem drives_congr (h : ∀ id, after.gate? id = net.gate? id) :
    after.Drives source target ↔ net.Drives source target := by
  simp only [Drives, h]

theorem gateChain_congr (h : ∀ id, after.gate? id = net.gate? id) {chain : List NameId} :
    after.GateChain chain ↔ net.GateChain chain := by
  simp only [GateChain, h, drives_congr h]

theorem longestChain_congr (h : ∀ id, after.gate? id = net.gate? id) {count : Nat} :
    after.LongestChain count ↔ net.LongestChain count := by
  simp only [LongestChain, gateChain_congr h]

/-- A chain goes on at the gate that its first one drives. -/
theorem GateChain.cons {chain : List NameId} (h : net.GateChain (source :: chain))
    (hdrives : net.Drives source id) : net.GateChain (id :: source :: chain) := by
  obtain ⟨op, drivers, hgate, -⟩ := hdrives.2
  refine ⟨?_, List.isChain_cons_cons.2 ⟨hdrives, h.2⟩⟩
  intro other hother
  rcases List.mem_cons.1 hother with rfl | hother
  · rw [hgate]
    rfl
  · exact h.1 other hother

/-- In an acyclic network no gate stands twice in a chain. -/
theorem GateChain.nodup (hacyclic : net.Acyclic) {chain : List NameId} (h : net.GateChain chain) :
    chain.Nodup := by
  have htrans : chain.IsChain fun target source => Relation.TransGen net.Drives source target :=
    h.2.imp fun _ _ hdrives => .single hdrives
  have : Trans (fun target source => Relation.TransGen net.Drives source target)
      (fun target source => Relation.TransGen net.Drives source target)
      (fun target source => Relation.TransGen net.Drives source target) :=
    ⟨fun hfirst hsecond => hsecond.trans hfirst⟩
  -- a gate that stood twice would drive itself through those in between
  have hpairwise := List.isChain_iff_pairwise.1 htrans
  refine hpairwise.imp fun {target source} hpath heq => ?_
  subst heq
  exact hacyclic target hpath

/-- So a chain has at most as many gates as there are devices. -/
theorem GateChain.length_le_size (hacyclic : net.Acyclic) {chain : List NameId}
    (h : net.GateChain chain) : chain.length ≤ net.size := by
  have hsubset : chain ⊆ net.ids := by
    intro id hid
    obtain ⟨device, hdevice, -⟩ := gate?_isSome_iff.1 (h.1 id hid)
    rw [← device?_isSome_iff, hdevice]
    rfl
  have hle := (List.subperm_of_subset (h.nodup hacyclic) hsubset).length_le
  rwa [ids, List.length_map] at hle

/-- The lengths of chains are bounded, so one of them is the largest. -/
theorem Acyclic.exists_longestChain (hacyclic : net.Acyclic) :
    ∃ count, net.LongestChain count := by
  let lengths : Set Nat := { count | ∃ chain, net.GateChain chain ∧ chain.length = count }
  have hnonempty : lengths.Nonempty :=
    ⟨0, [], ⟨fun id hid => (by cases hid), List.isChain_nil⟩, rfl⟩
  have hbounded : BddAbove lengths := by
    refine ⟨net.size, ?_⟩
    rintro _ ⟨chain, hchain, rfl⟩
    exact hchain.length_le_size hacyclic
  refine ⟨sSup lengths, Nat.sSup_mem hnonempty hbounded, fun chain hchain => ?_⟩
  exact le_csSup hbounded ⟨chain, hchain, rfl⟩

/-! ## Firm gates -/

/-- The equation of the gate holds, and so do those of all gates up its chains. -/
inductive Firm (net : Network) : NameId → Prop where
  | intro {id : NameId} (hbalanced : net.BalancedAt id)
      (hdrivers : ∀ source, net.Drives source id → Firm net source) : Firm net id

theorem Firm.balancedAt (h : net.Firm id) : net.BalancedAt id := by
  cases h with
  | intro hbalanced _ => exact hbalanced

/-- Driving one gate does not move what reaches a gate that it does not drive. -/
theorem inputLevels_relax {op : GateOp} {inputs : Nat} {output : Level}
    (hdevice : net.device? target = some device) (helement : device.element = .gate op inputs output)
    (hdrives : ¬ net.Drives source target) :
    (net.relax source).inputLevels device = net.inputLevels device := by
  -- input by input: what drives it is another device, an output that is none, or no gate
  refine List.map_congr_left fun (port, driver) hmem => ?_
  cases driver with
  | none => rfl
  | some wire =>
    have hlevel : (net.relax source).level? wire = net.level? wire := by
      by_cases hsource : wire.device = source
      · obtain ⟨wireDevice, wirePort⟩ := wire
        simp only at hsource
        subst hsource
        by_cases hgate : (net.gate? wireDevice).isSome
        · -- a gate drives by its unnamed output alone
          have hport : wirePort ≠ .main := by
            rintro rfl
            have htarget : net.gate? target = some (op, device.drivers.map Prod.snd) :=
              gate?_eq_some_iff.2 ⟨device, inputs, output, hdevice, helement, rfl⟩
            exact hdrives ⟨hgate, op, _, htarget, List.mem_map.2 ⟨_, hmem, rfl⟩⟩
          have hgate' : ((net.relax wireDevice).gate? wireDevice).isSome := by
            rw [gate?_of_drawing_eq (drawing_relax net wireDevice)]
            exact hgate
          rw [level?_of_gate?_isSome hgate hport, level?_of_gate?_isSome hgate' hport]
        · have hbalanced : net.BalancedAt wireDevice := by
            intro found op' inputs' output' hfound helement'
            exact absurd (gate?_isSome_iff.2 ⟨found, hfound, op', inputs', output', helement'⟩) hgate
          rw [relax_eq_self hbalanced]
      · exact level?_congr (isLocal_relax net source wire.device hsource)
    show (net.relax source).drivenLevel (some wire) = net.drivenLevel (some wire)
    simp only [drivenLevel, Option.bind_some, hlevel]

/-- **No turn moves a firm gate**, nor any gate up its chains. -/
theorem Firm.relax (h : net.Firm id) (other : NameId) : (net.relax other).Firm id := by
  by_cases hother : net.Firm other
  · rw [relax_eq_self hother.balancedAt]
    exact h
  · -- up the chains; the gate whose turn it is has an equation that does not hold, so it is none of them
    induction h with
    | @intro id hbalanced hdrivers ih =>
      have hne : id ≠ other := by
        rintro rfl
        exact hother (.intro hbalanced hdrivers)
      have hdrives : ¬ net.Drives other id := fun hdrives => hother (hdrivers other hdrives)
      refine .intro ?_ fun source hsource => ?_
      · intro device op inputs output hdevice helement
        rw [isLocal_relax net other id hne] at hdevice
        rw [inputLevels_relax hdevice helement hdrives]
        exact hbalanced device op inputs output hdevice helement
      · exact ih source ((drives_congr (gate?_of_drawing_eq (drawing_relax net other))).1 hsource)

theorem Firm.foldl_relax : ∀ (visited : List NameId) {net : Network}, net.Firm id →
    (visited.foldl Network.relax net).Firm id
  | [], _, h => h
  | other :: rest, _, h => foldl_relax rest (h.relax other)

/-- A gate driven by firm gates is firm after its turn. -/
theorem firm_relax (h : ∀ source, net.Drives source id → net.Firm source) :
    (net.relax id).Firm id := by
  by_cases hself : net.Drives id id
  -- a gate that drives itself is among the firm ones
  · exact (h id hself).relax id
  -- otherwise its turn does not move its own inputs
  · refine .intro ?_ fun source hsource => ?_
    · intro found op inputs output hfound helement
      obtain ⟨device, hdevice, hdrawn⟩ :=
        exists_device?_of_drawing_eq (drawing_relax net id).symm hfound
      have hkind : device.element.kind = .gate op inputs := by
        have hkind := (Device.drawn_eq_iff.1 hdrawn).2.2.2
        -- the gate that is found now had the same function before its turn
        rw [Device.kind, Device.kind, helement] at hkind
        exact hkind
      cases hgate : device.element with
      | gate op' inputs' before =>
        rw [hgate] at hkind
        cases hkind
        rw [device?_relax_gate hdevice hgate] at hfound
        cases hfound
        cases helement
        exact congrArg op.evaluate (inputLevels_relax hdevice hgate hself).symm
      | _ =>
        rw [hgate] at hkind
        cases hkind
    · exact (h source ((drives_congr (gate?_of_drawing_eq (drawing_relax net id))).1 hsource)).relax id

/-- The turn comes somewhere in every sweep. What is firm before it stays firm up to it, and the
gate stays firm after it. -/
theorem firm_sweep (hid : id ∈ net.ids) (h : ∀ source, net.Drives source id → net.Firm source) :
    net.sweep.Firm id := by
  obtain ⟨earlier, later, hids⟩ := List.append_of_mem hid
  rw [sweep, hids, List.foldl_append, List.foldl_cons]
  refine Firm.foldl_relax later (firm_relax fun source hsource => ?_)
  have hdrawing := drawing_foldl_relax earlier net
  exact Firm.foldl_relax earlier (h source ((drives_congr (gate?_of_drawing_eq hdrawing)).1 hsource))

/-- **A gate is firm after as many sweeps as the chains up to it are long.** Induction on the number
of sweeps: what drives the gate has chains that are shorter by one. -/
theorem firm_iterate_sweep (count : Nat) : ∀ id, (net.gate? id).isSome →
    (∀ chain, net.GateChain (id :: chain) → chain.length < count) →
    (sweep^[count] net).Firm id := by
  induction count with
  | zero =>
    intro id hgate hchains
    -- a gate alone is a chain, so no gate has chains shorter than that
    have hchain : net.GateChain [id] :=
      ⟨fun other hother => (List.mem_singleton.1 hother) ▸ hgate, List.isChain_singleton id⟩
    exact absurd (hchains [] hchain) (by omega)
  | succ count ih =>
    intro id hgate hchains
    have hdrawing := drawing_iterate_sweep net count
    rw [Function.iterate_succ_apply']
    have hid : id ∈ (sweep^[count] net).ids := by
      obtain ⟨device, hdevice, -⟩ := gate?_isSome_iff.1 hgate
      rw [ids_eq_of_drawing_eq hdrawing, ← device?_isSome_iff, hdevice]
      rfl
    refine firm_sweep hid fun source hsource => ?_
    have hdrives := (drives_congr (gate?_of_drawing_eq hdrawing)).1 hsource
    refine ih source hdrives.1 fun chain hchain => ?_
    have hlength := hchains (source :: chain) (hchain.cons hdrives)
    rw [List.length_cons] at hlength
    omega

/-! ## Settling -/

variable {count : Nat}

/-- After that many sweeps every gate is firm. -/
theorem LongestChain.firm (hlongest : net.LongestChain count) (hgate : (net.gate? id).isSome) :
    (sweep^[count] net).Firm id := by
  refine firm_iterate_sweep count id hgate fun chain hchain => ?_
  have hlength := hlongest.2 _ hchain
  rw [List.length_cons] at hlength
  omega

/-- Where there is no gate there is no equation. -/
theorem balancedAt_of_gate?_eq_none (h : net.gate? id = none) : net.BalancedAt id := by
  intro device op inputs output hdevice helement
  have hgate : (net.gate? id).isSome :=
    gate?_isSome_iff.2 ⟨device, hdevice, op, inputs, output, helement⟩
  rw [h] at hgate
  cases hgate

/-- So one more sweep changes nothing. -/
theorem LongestChain.sweep_iterate (hlongest : net.LongestChain count) :
    (sweep^[count] net).sweep = sweep^[count] net := by
  refine sweep_eq_self fun id => ?_
  cases hgate : net.gate? id with
  | none =>
    refine balancedAt_of_gate?_eq_none ?_
    rw [gate?_of_drawing_eq (drawing_iterate_sweep net count), hgate]
  | some gate =>
    have hfirm : (sweep^[count] net).Firm id := hlongest.firm (by rw [hgate]; rfl)
    exact hfirm.balancedAt

/-- **An acyclic network settles** in one sweep more than its longest chain has gates, and all its
gates are firm then. -/
theorem LongestChain.settle (hlongest : net.LongestChain count) {limit : Nat}
    (hlimit : count + 1 ≤ limit) :
    ∃ settled passes, net.settle limit = (settled, some passes) ∧ passes ≤ count + 1 ∧
      ∀ id, (net.gate? id).isSome → settled.Firm id := by
  rcases settle_cases net limit with ⟨made, hlt, hsettle, hfixed, hbefore⟩ | ⟨-, hbefore⟩
  · -- the last sweep was the first that changed nothing, so it came no later than that
    refine ⟨_, _, hsettle, ?_, fun id hgate => ?_⟩
    · by_contra hmade
      exact hbefore count (by omega) hlongest.sweep_iterate
    · -- what a sweep does not change, any number of sweeps does not change
      have hdrawing := drawing_iterate_sweep net made
      have hfirm := ((longestChain_congr (gate?_of_drawing_eq hdrawing)).2 hlongest).firm
        (by rw [gate?_of_drawing_eq hdrawing]; exact hgate)
      rwa [Function.iterate_fixed hfixed] at hfirm
  · exact absurd hlongest.sweep_iterate (hbefore count (by omega))

/-! ## Uniqueness -/

/-- **Firm levels follow from the sources.** Another network with the same gates, the same wires
between them and the same levels on its sources, in which all equations hold, has the same levels.
Induction up the chains. -/
theorem Firm.level?_eq {other : Network} (hgates : ∀ id, other.gate? id = net.gate? id)
    (hsources : ∀ output, other.sourceLevel? output = net.sourceLevel? output)
    (hbalanced : ∀ id, other.BalancedAt id) (h : net.Firm id) (port : OutputPort) :
    other.level? ⟨id, port⟩ = net.level? ⟨id, port⟩ := by
  -- outputs of sources, and those a gate lacks, agree without any induction
  have hnone : ∀ {id : NameId}, net.gate? id = none → ∀ port,
      other.level? ⟨id, port⟩ = net.level? ⟨id, port⟩ := by
    intro id hgate port
    rw [level?_of_gate?_eq_none hgate, level?_of_gate?_eq_none ((hgates id).trans hgate), hsources]
  have hunnamed : ∀ {id : NameId}, (net.gate? id).isSome → ∀ {port : OutputPort}, port ≠ .main →
      other.level? ⟨id, port⟩ = net.level? ⟨id, port⟩ := by
    intro id hgate port hport
    have hgate' : (other.gate? id).isSome := by
      rw [hgates]
      exact hgate
    rw [level?_of_gate?_isSome hgate' hport, level?_of_gate?_isSome hgate hport]
  induction h generalizing port with
  | @intro id hfirm hdrivers ih =>
    cases hgate : net.gate? id with
    | none => exact hnone hgate port
    | some gate =>
      obtain ⟨op, drivers⟩ := gate
      have hgate' : other.gate? id = some (op, drivers) := (hgates id).trans hgate
      by_cases hport : port = .main
      · subst hport
        rw [(hbalanced id).level?_main hgate', hfirm.level?_main hgate]
        -- the inputs agree, each by what drives it
        congr 2
        refine List.map_congr_left fun driver hmem => ?_
        cases driver with
        | none => rfl
        | some wire =>
          have hlevel : other.level? wire = net.level? wire := by
            obtain ⟨source, wirePort⟩ := wire
            cases hsource : net.gate? source with
            | none => exact hnone hsource wirePort
            | some sourceGate =>
              by_cases hwire : wirePort = .main
              · subst hwire
                exact ih source ⟨by rw [hsource]; rfl, op, drivers, hgate, hmem⟩ .main
              · exact hunnamed (by rw [hsource]; rfl) hwire
          simp only [drivenLevel, Option.bind_some, hlevel]
      · exact hunnamed (by rw [hgate]; rfl) hport

/-- A gate shows the level it has been given. -/
theorem level?_withGates {level : NameId → Level} (hgate : (net.gate? id).isSome) :
    (net.withGates level).level? ⟨id, .main⟩ = some (level id) := by
  obtain ⟨device, hdevice, op, inputs, output, helement⟩ := gate?_isSome_iff.1 hgate
  have hfound : (net.withGates level).device? id
      = some (device.withElement (device.element.drive (level device.id))) := by
    have hmap : (net.withGates level).device? id = (net.device? id).map fun device =>
        device.withElement (device.element.drive (level device.id)) :=
      device?_map _ fun _ => rfl
    rw [hmap, hdevice, Option.map_some]
  rw [level?, hfound, Option.bind_some, Device.output?, Device.element_withElement, helement,
    (mem_of_device? hdevice).2]
  rfl

/-- Levels that agree on the gates give the same network. -/
theorem withGates_congr {level level' : NameId → Level} (hnet : net.Distinct)
    (h : ∀ id, (net.gate? id).isSome → level id = level' id) :
    net.withGates level = net.withGates level' := by
  rw [withGates, withGates]
  congr 1
  refine List.map_congr_left fun device hmem => ?_
  cases helement : device.element with
  | gate op inputs output =>
    have hdevice : net.device? device.id = some device := hnet.device?_eq_some_iff.2 ⟨hmem, rfl⟩
    rw [h device.id (gate?_isSome_iff.2 ⟨device, hdevice, op, inputs, output, helement⟩)]
  | _ => rfl

/-- **The levels of firm gates are the only solution.** -/
theorem solves_iff_of_firm {settled : Network} (hsettled : settled.Distinct)
    (hmuted : settled.muted = net.muted)
    (hfirm : ∀ id, (net.gate? id).isSome → settled.Firm id) (level : NameId → Level) :
    net.Solves level ↔
      ∀ id, (net.gate? id).isSome → settled.level? ⟨id, .main⟩ = some (level id) := by
  have hbalanced : settled.Balanced := by
    refine hsettled.balanced_iff.2 fun id => ?_
    cases hgate : net.gate? id with
    | none =>
      refine balancedAt_of_gate?_eq_none ?_
      rw [gate?_of_muted_eq hmuted, hgate]
    | some gate => exact (hfirm id (by rw [hgate]; rfl)).balancedAt
  -- a solution is another network with these gates and sources; and levels that are the same give the same
  -- network
  constructor
  · intro hsolves id hgate
    -- the network with the solution on its gates has the same gates and sources
    have hput : (net.withGates level).muted = settled.muted := (muted_withGates level).trans hmuted.symm
    have hdistinct : (net.withGates level).Distinct := hsettled.of_muted_eq hput
    have hlevel : (net.withGates level).level? ⟨id, .main⟩ = settled.level? ⟨id, .main⟩ :=
      (hfirm id hgate).level?_eq (gate?_of_muted_eq hput) (sourceLevel?_of_muted_eq hput)
        (hdistinct.balanced_iff.1 hsolves) .main
    rw [← hlevel, level?_withGates hgate]
  · intro hlevels
    have hnet : net.Distinct := hsettled.of_muted_eq hmuted.symm
    have hsame : net.withGates level = net.withGates settled.gateLevel := by
      refine withGates_congr hnet fun id hgate => ?_
      rw [gateLevel, hlevels id hgate]
      rfl
    rw [Solves, hsame, withGates_eq_of_muted_eq hsettled hmuted]
    exact hbalanced

/-! ## Definition order -/

/-- The order of definition is all that is different, so the handles are the same ones. -/
theorem ids_of_perm (h : after.muted.devices.Perm net.muted.devices) : after.ids.Perm net.ids := by
  rw [← ids_muted, ← @ids_muted net, ids, ids]
  exact h.map Device.id

/-- Handles find the same devices in any definition order. -/
theorem device?_of_perm (hnet : net.Distinct) (h : after.devices.Perm net.devices) (id : NameId) :
    after.device? id = net.device? id := by
  have hafter : after.Distinct := (h.map Device.id).nodup_iff.2 hnet
  ext device
  rw [hafter.device?_eq_some_iff, hnet.device?_eq_some_iff, h.mem_iff]

/-- So gates are the same in any definition order. -/
theorem gate?_of_perm (hnet : net.Distinct) (h : after.muted.devices.Perm net.muted.devices)
    (id : NameId) : after.gate? id = net.gate? id := by
  have hmuted : net.muted.Distinct := hnet.of_muted_eq muted_muted
  rw [← gate?_muted after, gate?, device?_of_perm hmuted h, ← gate?, gate?_muted]

/-- And sources show the same levels. -/
theorem sourceLevel?_of_perm (hnet : net.Distinct)
    (h : after.muted.devices.Perm net.muted.devices) (output : OutputRef) :
    after.sourceLevel? output = net.sourceLevel? output := by
  have hmuted : net.muted.Distinct := hnet.of_muted_eq muted_muted
  rw [← sourceLevel?_muted after, sourceLevel?, device?_of_perm hmuted h, ← sourceLevel?,
    sourceLevel?_muted]

/-- **Firm levels do not depend on the definition order**, nor on the levels that the gates had
before: what `net` and `other` settle to shows the same levels. -/
theorem level?_eq_of_perm {other settled settled' : Network} (hnet : net.Distinct)
    (hperm : other.muted.devices.Perm net.muted.devices) (hmuted : settled.muted = net.muted)
    (hbalanced : settled.Balanced) (hmuted' : settled'.muted = other.muted)
    (hfirm : ∀ id, (other.gate? id).isSome → settled'.Firm id) (output : OutputRef) :
    settled'.level? output = settled.level? output := by
  obtain ⟨id, port⟩ := output
  have hgates : ∀ id, settled.gate? id = settled'.gate? id := by
    intro id
    rw [gate?_of_muted_eq hmuted, gate?_of_muted_eq hmuted', gate?_of_perm hnet hperm]
  have hsources : ∀ output, settled.sourceLevel? output = settled'.sourceLevel? output := by
    intro output
    rw [sourceLevel?_of_muted_eq hmuted, sourceLevel?_of_muted_eq hmuted',
      sourceLevel?_of_perm hnet hperm]
  -- an output of a source, or one of a gate, which is firm
  cases hgate : settled'.gate? id with
  | none =>
    have hnone : settled.gate? id = none := (hgates id).trans hgate
    rw [level?_of_gate?_eq_none hnone, level?_of_gate?_eq_none hgate, hsources]
  | some gate =>
    have hid : (other.gate? id).isSome := by
      rw [← gate?_of_muted_eq hmuted', hgate]
      rfl
    have hall : ∀ id, settled.BalancedAt id :=
      (hnet.of_muted_eq hmuted).balanced_iff.1 hbalanced
    exact ((hfirm id hid).level?_eq hgates hsources hall port).symm

end Network

/-! ## Acyclic simulators -/

namespace Simulator

/-- **Acyclic circuits settle**, in one sweep more than the longest chain has gates. The default limit
allows that many. The levels on the gates are the only solution, and neither the definition order nor
the levels before the cycle matter. -/
theorem settles_of_acyclic {sim : Simulator} (hsim : sim.Reachable)
    (hacyclic : sim.network.Acyclic) :
    ∃ count, sim.network.LongestChain count ∧
      (sim.fixedLimit = none → count + 1 ≤ sim.sweepLimit) ∧
      (count + 1 ≤ sim.sweepLimit → sim.step.2 = .ok ()) ∧
      ∀ net, net = sim.network ∨ net = sim.network.advanceSources →
        ∀ limit, count + 1 ≤ limit → ∃ settled passes,
          net.settle limit = (settled, some passes) ∧ passes ≤ count + 1 ∧
          (∀ level, net.Solves level ↔
            ∀ id, (net.gate? id).isSome → settled.level? ⟨id, .main⟩ = some (level id)) ∧
          ∀ other : Network, other.muted.devices.Perm net.muted.devices →
            ∃ settled' passes', other.settle limit = (settled', some passes') ∧
              ∀ output, settled'.level? output = settled.level? output := by
  obtain ⟨count, hlongest⟩ := hacyclic.exists_longestChain
  have hadvanced : sim.network.advanceSources.drawing = sim.network.drawing :=
    Network.drawing_advanceSources
  refine ⟨count, hlongest, ?_, ?_, ?_⟩
  · intro hlimit
    obtain ⟨chain, hchain, hlength⟩ := hlongest.1
    have hle := hchain.length_le_size hacyclic
    rw [sweepLimit, hlimit, Option.getD_none]
    omega
  · intro hlimit
    -- the chains of a network stay as long while its sources move
    have hlongest' := (Network.longestChain_congr (Network.gate?_of_drawing_eq hadvanced)).2 hlongest
    obtain ⟨settled, passes, hsettle, -⟩ := hlongest'.settle hlimit
    rcases step_cases sim with ⟨_, _, -, hok⟩ | ⟨unsettled, hfail, -⟩
    · rw [hok]
    · rw [hsettle] at hfail
      cases hfail
  · intro net hnet limit hlimit
    have hdrawing : net.drawing = sim.network.drawing := by
      rcases hnet with rfl | rfl
      · rfl
      · exact hadvanced
    have hdistinct : net.Distinct := hsim.distinct.of_drawing_eq hdrawing
    have hlongest' := (Network.longestChain_congr (Network.gate?_of_drawing_eq hdrawing)).2 hlongest
    obtain ⟨settled, passes, hsettle, hpasses, hfirm⟩ := hlongest'.settle hlimit
    obtain ⟨hsettled, hmuted, hbalanced⟩ := Network.settle_eq_some_balanced hdistinct hsettle
    refine ⟨settled, passes, hsettle, hpasses,
      Network.solves_iff_of_firm hsettled hmuted hfirm, ?_⟩
    intro other hperm
    have hlongest'' := (Network.longestChain_congr (Network.gate?_of_perm hdistinct hperm)).2 hlongest'
    have hother : other.Distinct := (Network.ids_of_perm hperm).nodup_iff.2 hdistinct
    obtain ⟨settled', passes', hsettle', -, hfirm'⟩ := hlongest''.settle hlimit
    obtain ⟨-, hmuted', -⟩ := Network.settle_eq_some_balanced hother hsettle'
    exact ⟨settled', passes', hsettle',
      Network.level?_eq_of_perm hdistinct hperm hmuted hbalanced hmuted' hfirm'⟩

/-! ### Two inverters

Defined against the direction of their wires, they need all three sweeps that the chain allows. -/

/-- A switch and two inverters in a row, the last one defined first. -/
def inverterRow : Simulator :=
  .new
    { devices :=
        [⟨⟨2⟩, "N2", [(.gate 1, some ⟨⟨1⟩, .main⟩)], .gate .nand 1 .low⟩,
          ⟨⟨1⟩, "N1", [(.gate 1, some ⟨⟨0⟩, .main⟩)], .gate .nand 1 .low⟩,
          .new ⟨0⟩ "SW" (.switch .low)] }
    none

theorem inverterRow_reachable : inverterRow.Reachable := by
  refine .new ?_ none
  have h := Network.Built.empty
  have h := h.addDevice (show Network.addDevice _ ⟨2⟩ "N2" (.gate .nand 1) = .ok _ from rfl)
  have h := h.addDevice (show Network.addDevice _ ⟨1⟩ "N1" (.gate .nand 1) = .ok _ from rfl)
  have h := h.addDevice (show Network.addDevice _ ⟨0⟩ "SW" (.switch .low) = .ok _ from rfl)
  have h := h.connect
    (show Network.connect _ .empty ⟨⟨1⟩, .main⟩ ⟨⟨2⟩, .gate 1⟩ = .ok _ from rfl)
  have h := h.connect
    (show Network.connect _ .empty ⟨⟨0⟩, .main⟩ ⟨⟨1⟩, .gate 1⟩ = .ok _ from rfl)
  exact h

theorem inverterRow_acyclic : inverterRow.network.Acyclic := by
  -- wires go from lower handles to higher ones
  have hlt : ∀ source target, inverterRow.network.Drives source target →
      source.index < target.index := by
    rintro source target ⟨-, op, drivers, hgate, hmem⟩
    obtain ⟨device, inputs, output, hdevice, -, rfl⟩ := Network.gate?_eq_some_iff.1 hgate
    obtain ⟨hdevices, rfl⟩ := Network.mem_of_device? hdevice
    simp only [inverterRow, new, List.mem_cons, List.not_mem_nil, or_false] at hdevices
    rcases hdevices with rfl | rfl | rfl <;> simp_all [Device.new, DeviceKind.inputPorts]
  intro id hpath
  have hindex : id.index < id.index := by
    refine Relation.TransGen.trans_induction_on
      (motive := fun {source target} _ => source.index < target.index) hpath ?_ ?_
    · intro source target h
      exact hlt source target h
    · intro _ _ _ _ _ hfirst hsecond
      exact hfirst.trans hsecond
  omega

theorem settles_of_acyclic_inverterRow :
    inverterRow.Reachable ∧ inverterRow.network.Acyclic ∧
      (inverterRow.network.advanceSources.settle 3).2 = some 3 ∧
      ∃ count, inverterRow.network.LongestChain count ∧ count + 1 ≤ 4 ∧
        inverterRow.step.2 = .ok () := by
  obtain ⟨count, hlongest, hlimit, hstep, -⟩ :=
    settles_of_acyclic inverterRow_reachable inverterRow_acyclic
  exact ⟨inverterRow_reachable, inverterRow_acyclic, rfl, count, hlongest, hlimit rfl,
    hstep (hlimit rfl)⟩

end Simulator

end LogicCircuit
