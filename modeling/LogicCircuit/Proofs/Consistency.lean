import LogicCircuit.Proofs.Cells

/-!
# Consistency — what a cell shows agrees with what it stores

A board that is built and run holds in every cell a state of the cell's own kind; a switch shows the level
it is set to, a flip-flop the bit it stores and its inverse, and the counters of clocks and signal
generators are below their bounds. So all counting on words goes well, in every state and up to the
largest half periods and waveforms.

The invariant is `Network.InBounds`, which every operation keeps (`InBounds.perform`); all else is in the
shape of the cell of a device (`Device.consistent_stored`). Boards follow networks operation by operation
(`perform?_stored`), so what holds of stored networks holds of boards
(`performAll?_consistent`).
-/

namespace LogicCircuit

/-! ## Counters -/

namespace Element

variable {e : Element}

/-- A new device starts with its counter at zero, which is in bounds if the qualifier is legal. -/
theorem inBounds_ofKind {kind : DeviceKind} (hlegal : kind.Legal)
    (hword : ∀ halfPeriod, kind = .clock halfPeriod → halfPeriod < UInt64.size) :
    (ofKind kind).InBounds := by
  cases kind with
  | clock halfPeriod => exact ⟨hlegal, hword halfPeriod rfl⟩
  | siggen waveform => exact waveform.length_pos
  | _ => trivial

/-- A cold start puts the counter back to zero. -/
theorem InBounds.reset (h : e.InBounds) : e.reset.InBounds := by
  cases e with
  | clock halfPeriod counter output =>
    obtain ⟨hcounter, hword⟩ : counter < halfPeriod ∧ halfPeriod < UInt64.size := h
    exact ⟨by omega, hword⟩
  | siggen waveform phase output => exact waveform.length_pos
  | _ => trivial

/-- The counter that reaches its bound starts again. -/
theorem InBounds.advance (h : e.InBounds) : e.advance.InBounds := by
  cases e with
  | clock halfPeriod counter output =>
    obtain ⟨hcounter, hword⟩ : counter < halfPeriod ∧ halfPeriod < UInt64.size := h
    rw [Element.advance]
    -- the counter starts again at zero, or it is still below the bound
    split
    · exact ⟨by omega, hword⟩
    · next hbelow => exact ⟨by omega, hword⟩
  | siggen waveform phase output => exact Nat.mod_lt _ waveform.length_pos
  | _ => trivial

theorem inBounds_drive_iff (level : Level) : (e.drive level).InBounds ↔ e.InBounds := by
  cases e <;> rfl

theorem InBounds.latch (h : e.InBounds) (data clk set clear : Level) :
    (e.latch data clk set clear).InBounds := by
  cases e with
  | dtype memory lastClk => trivial
  | _ => exact h

end Element

namespace Network

variable {net after : Network}

theorem InBounds.map {change : Element → Element} (h : net.InBounds)
    (hchange : ∀ e : Element, e.InBounds → (change e).InBounds) :
    ({ devices := net.devices.map fun device => device.withElement (change device.element) } :
      Network).InBounds := by
  intro device hmem
  obtain ⟨found, hfound, rfl⟩ := List.mem_map.1 hmem
  exact hchange found.element (h found hfound)

/-- A change of one device has to keep one counter in bounds. -/
theorem InBounds.update {id : NameId} {change : Device → Device} (h : net.InBounds)
    (hchange : ∀ device ∈ net.devices, (change device).element.InBounds) :
    (net.update id change).InBounds := by
  intro device hmem
  obtain ⟨found, hfound, rfl⟩ := List.mem_map.1 hmem
  show (if found.id = id then change found else found).element.InBounds
  split
  · exact hchange found hfound
  · exact h found hfound

/-- The levels of gates do not matter. -/
theorem inBounds_muted_iff : net.muted.InBounds ↔ net.InBounds := by
  simp only [InBounds, muted, List.forall_mem_map]
  apply forall₂_congr
  intro device _
  exact Element.inBounds_drive_iff .low

theorem InBounds.of_muted_eq (h : net.InBounds) (hmuted : after.muted = net.muted) :
    after.InBounds := by
  rw [← inBounds_muted_iff, hmuted, inBounds_muted_iff]
  exact h

/-- Latching moves flip-flops, which do not count. -/
theorem InBounds.latch (h : net.InBounds) (id : NameId) : (net.latch id).InBounds := by
  unfold Network.latch
  split
  · next device hdevice =>
    split
    · apply h.update
      intro _ _
      exact (h device (mem_of_device? hdevice).1).latch _ _ _ _
    · exact h
  · exact h

theorem InBounds.latchAll (h : net.InBounds) : net.latchAll.InBounds :=
  List.foldlRecOn net.ids Network.latch h fun _ hbounds id _ => hbounds.latch id

/-- **A cycle**, completed or not. -/
theorem InBounds.step (sim : Simulator) (h : sim.network.InBounds) : sim.step.1.network.InBounds := by
  have hadvanced : sim.network.advanceSources.InBounds := h.map fun _ => Element.InBounds.advance
  have hmuted := muted_settle sim.network.advanceSources sim.sweepLimit
  -- gates are all that settling changes, so the counters are those after the advance
  rcases Simulator.step_cases sim with ⟨settled, passes, hend, hstep⟩ | ⟨unsettled, hend, hstep⟩
  · rw [hend] at hmuted
    rw [hstep]
    exact (hadvanced.of_muted_eq hmuted).latchAll
  · rw [hend] at hmuted
    rw [hstep]
    exact hadvanced.of_muted_eq hmuted

/-- The half period that an operation gives to a clock is a word. -/
def Operation.FitsWord : Operation → Prop
  | .addDevice _ _ (.clock halfPeriod) => halfPeriod < UInt64.size
  | _ => True

/-- **One operation** keeps the counters in bounds. -/
theorem InBounds.perform (h : net.InBounds) {operation : Operation} (hfits : operation.FitsWord) :
    (net.perform operation).InBounds := by
  cases operation with
  | addDevice id name kind =>
    rw [Network.perform]
    cases hadd : net.addDevice id name kind with
    | error fault => exact h
    | ok after =>
      obtain ⟨-, hlegal, rfl⟩ := addDevice_eq_ok hadd
      intro device hmem
      rcases List.mem_append.1 hmem with hold | hnew
      · exact h device hold
      · -- the new device is the one that has to be looked at, and its qualifier has been checked
        rw [List.mem_singleton.1 hnew]
        apply Element.inBounds_ofKind (DeviceKind.legal_of_badQualifier? hlegal)
        rintro halfPeriod rfl
        exact hfits
  | connect names source target =>
    rw [Network.perform]
    cases hconnect : net.connect names source target with
    | error fault => exact h
    | ok after =>
      obtain ⟨-, -, -, -, -, -, -, rfl⟩ := connect_eq_ok hconnect
      exact h.update h
  | setSwitch id level =>
    rw [Network.perform]
    cases hset : net.setSwitch? id level with
    | none => exact h
    | some after =>
      obtain ⟨device, initial, old, -, -, rfl⟩ := setSwitch?_eq_some hset
      exact h.update fun _ _ => trivial
  | coldStart => exact h.map fun _ => Element.InBounds.reset
  | step fixedLimit cycle => exact InBounds.step ⟨net, fixedLimit, cycle⟩ h

/-! ## Boards follow networks -/

/-- **One operation.** On a board it has an answer, and it is the same as on the network. -/
theorem perform?_stored (hnet : net.Distinct) (h : net.InBounds) (operation : Operation) :
    net.stored.perform? operation = some (net.perform operation).stored := by
  cases operation with
  | addDevice id name kind => exact stored_addDevice net id name kind
  | connect names source target => exact congrArg some (stored_connect hnet names source target)
  | setSwitch id level => exact congrArg some (stored_setSwitch hnet id level)
  | coldStart => exact stored_coldStart net
  | step fixedLimit cycle => exact step?_stored ⟨net, fixedLimit, cycle⟩ hnet h

/-- **Several operations**, by induction: each one finds a network in order with its counters in
bounds. -/
theorem performAll?_stored (hnet : net.WellFormed) (h : net.InBounds) {operations : List Operation}
    (hfits : ∀ operation ∈ operations, operation.FitsWord) :
    net.stored.performAll? operations = some (net.performAll operations).stored ∧
      (net.performAll operations).InBounds := by
  induction operations generalizing net with
  | nil => exact ⟨rfl, h⟩
  | cons operation others ih =>
    have hone := perform?_stored hnet.distinct h operation
    have hbounds := h.perform (hfits operation List.mem_cons_self)
    have hothers := fun other hother => hfits other (List.mem_cons_of_mem operation hother)
    rw [Board.performAll?, List.foldlM_cons, hone]
    exact ih (hnet.perform operation).1 hbounds hothers

end Network

/-! ## Consistent cells -/

/-- What a cell holds is of its own kind and agrees with what it shows. -/
def Cell.Consistent (cell : Cell) : Prop :=
  match cell.kind, cell.hidden with
  | .switch _, .switch level => cell.outputs = [(.main, level)]
  | .gate _ _, .stateless => ∃ level, cell.outputs = [(.main, level)]
  | .dtype, .dtype memory _ => cell.outputs = [(.q, memory), (.qbar, memory.invert)]
  | .clock halfPeriod, .clock counter => counter < halfPeriod ∧ ∃ level, cell.outputs = [(.main, level)]
  | .siggen waveform, .siggen phase =>
    0 < waveform.length ∧ phase < waveform.length ∧ ∃ level, cell.outputs = [(.main, level)]
  | _, _ => False

theorem Device.consistent_stored {device : Device} (h : device.element.InBounds) :
    device.stored.Consistent := by
  obtain ⟨id, name, drivers, element⟩ := device
  cases element with
  | switch initial level => exact rfl
  | gate op inputs output => exact ⟨output, rfl⟩
  | dtype memory lastClk => exact rfl
  | clock halfPeriod counter output => exact ⟨h.1, output, rfl⟩
  | siggen waveform phase output => exact ⟨waveform.length_pos, h, output, rfl⟩

namespace Board

/-- **Cells stay consistent.** Take any operations on a board, refused or not, and cycles, completed or
not, where the half periods of clocks are words. All counting on the way stays within words and never
divides by zero, and so does the next count of each cell. The board is that of the network after the same
operations, and each of its cells is consistent. -/
theorem performAll?_consistent {operations : List Network.Operation}
    (hwords : ∀ id name halfPeriod, .addDevice id name (.clock halfPeriod) ∈ operations →
      halfPeriod < 2 ^ 64) :
    ∃ board, empty.performAll? operations = some board ∧
      board = (Network.empty.performAll operations).stored ∧
      ∀ cell ∈ board.cells, cell.Consistent ∧ cell.advance?.isSome := by
  have hfits : ∀ operation ∈ operations, operation.FitsWord := by
    intro operation hmem
    unfold Network.Operation.FitsWord
    split
    · next id name halfPeriod => exact hwords id name halfPeriod hmem
    · trivial
  have hempty : Network.empty.InBounds := by simp [Network.InBounds, Network.empty]
  obtain ⟨hstored, hbounds⟩ := Network.performAll?_stored Network.wellFormed_empty hempty hfits
  refine ⟨_, hstored, rfl, ?_⟩
  intro cell hcell
  obtain ⟨device, hmem, rfl⟩ := List.mem_map.1 hcell
  have hdevice := hbounds device hmem
  refine ⟨Device.consistent_stored hdevice, ?_⟩
  rw [Device.advance?_stored hdevice, Option.isSome_some]

/-- A clock and a signal generator with the largest bounds there are, and a flip-flop that the signal
generator sets, beside a gate that feeds itself: with its switch HIGH, the second cycle is not completed. -/
def extremes : List Network.Operation :=
  [.addDevice ⟨0⟩ "SW" (.switch .low), .addDevice ⟨1⟩ "C" (.clock (2 ^ 64 - 1)),
    .addDevice ⟨2⟩ "S" (.siggen Simulator.longWave), .addDevice ⟨3⟩ "D" .dtype,
    .addDevice ⟨4⟩ "G" (.gate .nand 2), .connect .empty ⟨⟨2⟩, .main⟩ ⟨⟨3⟩, .set⟩,
    .connect .empty ⟨⟨0⟩, .main⟩ ⟨⟨4⟩, .gate 1⟩, .connect .empty ⟨⟨4⟩, .main⟩ ⟨⟨4⟩, .gate 2⟩,
    .step none 0, .setSwitch ⟨0⟩ .high, .step none 1, .setSwitch ⟨0⟩ .low, .step none 1]

/-- Three advances have been counted, and the flip-flop has been set in the first cycle. -/
theorem performAll?_consistent_extremes :
    (∀ id name halfPeriod, .addDevice id name (.clock halfPeriod) ∈ extremes →
      halfPeriod < 2 ^ 64) ∧
    ∃ board, empty.performAll? extremes = some board ∧
      (∀ cell ∈ board.cells, cell.Consistent ∧ cell.advance?.isSome) ∧
      board.cells.map Cell.hidden
        = [.switch .low, .clock 3, .siggen 3, .dtype .high .low, .stateless] ∧
      board.cells.map Cell.outputs
        = [[(.main, .low)], [(.main, .low)], [(.main, .low)], [(.q, .high), (.qbar, .low)],
          [(.main, .high)]] := by
  have hwords : ∀ id name halfPeriod, .addDevice id name (.clock halfPeriod) ∈ extremes →
      halfPeriod < 2 ^ 64 := by
    intro id name halfPeriod hmem
    obtain ⟨-, -, rfl⟩ : id = ⟨1⟩ ∧ name = "C" ∧ halfPeriod = 2 ^ 64 - 1 := by
      simpa [extremes] using hmem
    decide
  have hstates : (Network.empty.performAll extremes).stored.cells.map Cell.hidden
        = [.switch .low, .clock 3, .siggen 3, .dtype .high .low, .stateless] ∧
      (Network.empty.performAll extremes).stored.cells.map Cell.outputs
        = [[(.main, .low)], [(.main, .low)], [(.main, .low)], [(.q, .high), (.qbar, .low)],
          [(.main, .high)]] := by
    decide +kernel
  obtain ⟨board, hboard, rfl, hcells⟩ := performAll?_consistent hwords
  exact ⟨hwords, _, hboard, hcells, hstates⟩

end Board

end LogicCircuit
