import LogicCircuit.Proofs.Locality
import LogicCircuit.Proofs.Solution
import Mathlib.Algebra.GroupWithZero.Nat

/-!
# Waveforms — a signal generator plays what its runs spell out

A waveform is kept as runs, and its length may be any number below `2 ^ 64`, so nothing is ever spelled
out: a level is found by walking along the runs, taking the cycles of each one off the phase. On words
this is only right if no addition overflows, no subtraction underflows and the walk ends before the runs
do. `Waveform.length?` and `Waveform.seek?` are the construction and the walk with all these checks made.

* **`Waveform.length?_eq`** — the checked construction accepts the same runs as `Waveform.ofRuns?`.
* **`Run.seek?_eq`** — the checked walk along runs is indexing of the levels they spell out.
* **`device?_step_of_source`** — a cycle, completed or not, does nothing to a source but advance it.
* **`siggen_plays_waveform`** — after a cold start, the attempts to run a cycle are what the phase counts.
-/

namespace LogicCircuit

/-! ## Words -/

namespace Word

/-- A sum, if it is a word. -/
def add? (a b : Nat) : Option Nat :=
  if a + b < UInt64.size then some (a + b) else none

/-- A difference, if it is not negative. -/
def sub? (a b : Nat) : Option Nat :=
  if b ≤ a then some (a - b) else none

/-- A remainder, unless the divisor is zero. -/
def rem? (a b : Nat) : Option Nat :=
  if b = 0 then none else some (a % b)

variable {a b : Nat}

theorem add?_eq_some (h : a + b < UInt64.size) : add? a b = some (a + b) :=
  if_pos h

theorem sub?_eq_some (h : b ≤ a) : sub? a b = some (a - b) :=
  if_pos h

theorem rem?_eq_some (h : 0 < b) : rem? a b = some (a % b) :=
  if_neg (Nat.pos_iff_ne_zero.1 h)

end Word

/-! ## Runs -/

namespace Run

variable {runs : List Run}

/-- The levels that runs stand for, one by one. -/
def spelledOut (runs : List Run) : List Level :=
  runs.flatMap fun run => List.replicate run.cycles run.level

/-- Total number of cycles, if all sums on the way to it are words. -/
def sum? (runs : List Run) : Option Nat :=
  runs.foldlM (fun sum run => Word.add? sum run.cycles) 0

/-- The level `left` cycles into the runs, if they do not end before. -/
def seek? : List Run → Nat → Option Level
  | [], _ => none
  | run :: rest, left =>
    if left < run.cycles then some run.level
    else (Word.sub? left run.cycles).bind (seek? rest)

theorem total_cons (run : Run) (rest : List Run) : total (run :: rest) = run.cycles + total rest :=
  rfl

/-- The total is that of the single runs. -/
theorem total_eq_sum (runs : List Run) : total runs = (runs.map Run.cycles).sum := by
  induction runs with
  | nil => rfl
  | cons run rest ih => rw [total_cons, ih, List.map_cons, List.sum_cons]

/-- As many levels are spelled out as the runs have cycles. -/
theorem length_spelledOut (runs : List Run) : (spelledOut runs).length = total runs := by
  induction runs with
  | nil => rfl
  | cons run rest ih =>
    rw [spelledOut, List.flatMap_cons, List.length_append, List.length_replicate, total_cons, ← ih]
    rfl

/-- A sum that is reached from a word is the whole one, or the whole one is too large. -/
theorem foldlM_add? (runs : List Run) (sum : Nat) (hsum : sum < UInt64.size) :
    runs.foldlM (fun sum run => Word.add? sum run.cycles) sum
      = if sum + total runs < UInt64.size then some (sum + total runs) else none := by
  induction runs generalizing sum with
  | nil => simp [total, hsum]
  | cons run rest ih =>
    rw [List.foldlM_cons, total_cons, ← Nat.add_assoc]
    -- once a sum is too large it stays so, whatever follows
    by_cases hnext : sum + run.cycles < UInt64.size
    · rw [Word.add?_eq_some hnext]
      apply ih
      exact hnext
    · have htotal : ¬ sum + run.cycles + total rest < UInt64.size := by omega
      simp [Word.add?, hnext, htotal]

/-- The checked sum fails exactly if the total is no word. -/
theorem sum?_eq (runs : List Run) :
    sum? runs = if total runs < UInt64.size then some (total runs) else none := by
  have h := foldlM_add? runs 0 (by decide)
  rw [Nat.zero_add] at h
  exact h

theorem any_cycles_eq_false_iff : runs.any (fun run => run.cycles == 0) = false ↔
    ∀ run ∈ runs, 0 < run.cycles := by
  simp [Nat.pos_iff_ne_zero]

/-- **The walk along runs is indexing.** No step of it underflows, and it ends without a level exactly
where the levels end. -/
theorem seek?_eq (runs : List Run) (left : Nat) : seek? runs left = (spelledOut runs)[left]? := by
  induction runs generalizing left with
  | nil => rfl
  | cons run rest ih =>
    show seek? (run :: rest) left = (List.replicate run.cycles run.level ++ spelledOut rest)[left]?
    -- the level is in the first run, or what is left of the way leads into the others
    by_cases hleft : left < run.cycles
    · simp [seek?, hleft, List.getElem?_append_left]
    · have hle : run.cycles ≤ left := by omega
      simp [seek?, hleft, Word.sub?_eq_some hle, List.getElem?_append_right, ih, hle]

/-- The unchecked walk gives LOW where the checked one gives nothing. -/
theorem levelAt_eq (runs : List Run) (left : Nat) :
    levelAt runs left = (seek? runs left).getD .low := by
  induction runs generalizing left with
  | nil => rfl
  | cons run rest ih =>
    by_cases hleft : left < run.cycles
    · simp [levelAt, seek?, hleft]
    · have hle : run.cycles ≤ left := by omega
      simp [levelAt, seek?, hleft, Word.sub?_eq_some hle, ih]

end Run

/-! ## Waveforms -/

namespace Waveform

variable {wave : Waveform}

/-- The length of the waveform made of the given runs, if they make one: there are runs, none is empty,
and the sum of their cycles does not overflow. -/
def length? (runs : List Run) : Option Nat :=
  if runs.isEmpty || runs.any (fun run => run.cycles == 0) then none else Run.sum? runs

/-- The level in cycle `phase`, with a check that the length is not zero, that nothing is taken off a
phase that is smaller, and that the runs do not end before the phase does. -/
def seek? (wave : Waveform) (phase : Nat) : Option Level :=
  (Word.rem? phase wave.length).bind (Run.seek? wave.runs)

/-- The three conditions are those of the type of waveforms. -/
theorem isSome_ofRuns?_iff {runs : List Run} : (ofRuns? runs).isSome ↔
    runs ≠ [] ∧ (∀ run ∈ runs, 0 < run.cycles) ∧ (runs.map Run.cycles).sum < 2 ^ 64 := by
  rw [ofRuns?, ← Run.total_eq_sum]
  show _ ↔ _ ∧ _ ∧ Run.total runs < UInt64.size
  split <;> simp_all

theorem runs_of_ofRuns? {runs : List Run} (h : ofRuns? runs = some wave) : wave.runs = runs := by
  unfold ofRuns? at h
  split at h
  · cases h
    rfl
  · cases h

/-- **The checked construction.** It accepts what makes a waveform, and finds the length. -/
theorem length?_eq (runs : List Run) : length? runs = (ofRuns? runs).map length := by
  -- no runs, an empty run and a total that is too large are refused one after the other, as the check does
  by_cases hne : runs = []
  · subst hne
    rfl
  by_cases hpos : ∀ run ∈ runs, 0 < run.cycles
  · have hany := Run.any_cycles_eq_false_iff.2 hpos
    by_cases htotal : Run.total runs < UInt64.size
    · rw [length?, ofRuns?, dif_pos ⟨hne, hpos, htotal⟩, Run.sum?_eq, if_pos htotal, hany]
      simp [hne, length]
    · simp [length?, ofRuns?, Run.sum?_eq, htotal]
  · have hany : runs.any (fun run => run.cycles == 0) = true := by
      apply Bool.eq_true_of_not_eq_false
      exact mt Run.any_cycles_eq_false_iff.1 hpos
    simp [length?, ofRuns?, hany, hpos]

theorem length_levels (wave : Waveform) : wave.levels.length = wave.length :=
  Run.length_spelledOut wave.runs

/-- **Each phase shows its level.** The checked walk finds it, and it is the one spelled out. -/
theorem seek?_eq_some (wave : Waveform) (phase : Nat) :
    wave.seek? phase = some (wave.levelAt phase) ∧
      wave.levels[phase % wave.length]? = some (wave.levelAt phase) := by
  have hlt : phase % wave.length < wave.levels.length := by
    rw [length_levels]
    -- a remainder is below the length, where the walk cannot fall off the end
    exact Nat.mod_lt phase wave.length_pos
  have hlevel : wave.levels[phase % wave.length]? = some (wave.levelAt phase) := by
    rw [levelAt, Run.levelAt_eq, Run.seek?_eq]
    show wave.levels[phase % wave.length]? = some (wave.levels[phase % wave.length]?.getD .low)
    rw [List.getElem?_eq_getElem hlt, Option.getD_some]
  refine ⟨?_, hlevel⟩
  rw [seek?, Word.rem?_eq_some wave.length_pos, Option.bind_some, Run.seek?_eq]
  exact hlevel

theorem levelAt_mod (wave : Waveform) (phase : Nat) :
    wave.levelAt (phase % wave.length) = wave.levelAt phase := by
  rw [levelAt, levelAt, Nat.mod_mod]

end Waveform

/-! ## Sources -/

namespace Element

variable {e : Element}

/-- An element that runs by itself: a clock or a signal generator. -/
def IsSource : Element → Prop
  | clock _ _ _ | siggen _ _ _ => True
  | switch _ _ | gate _ _ _ | dtype _ _ => False

theorem IsSource.advance (h : e.IsSource) : e.advance.IsSource := by
  cases e with
  | clock halfPeriod counter output =>
    rw [Element.advance]
    split <;> trivial
  | siggen wave phase output => trivial
  | _ => cases h

theorem IsSource.setSwitch? (h : e.IsSource) (level : Level) : e.setSwitch? level = none := by
  cases e with
  | switch initial old => cases h
  | _ => rfl

variable {device : Device}

/-- Sources run by themselves, so neither sweeps nor latching touch them. -/
theorem IsSource.not_isGate (h : device.element.IsSource) : ¬ device.IsGate := by
  rw [Device.isGate_iff, Device.kind]
  rintro ⟨op, inputs, hkind⟩
  cases helement : device.element with
  | gate op inputs output =>
    rw [helement] at h
    cases h
  | _ =>
    rw [helement] at hkind
    cases hkind

theorem IsSource.kind_ne_dtype (h : device.element.IsSource) : device.kind ≠ .dtype := by
  rw [Device.kind]
  intro hkind
  cases helement : device.element with
  | dtype memory lastClk =>
    rw [helement] at h
    cases h
  | _ =>
    rw [helement] at hkind
    cases hkind

end Element

/-! ## Playing -/

/-- A signal generator that has been advanced `count` times from a cold start. -/
def Element.playing (wave : Waveform) (count : Nat) : Element :=
  .siggen wave (count % wave.length) (wave.levelAt (count - 1))

namespace Element

variable {wave : Waveform}

theorem reset_siggen (phase : Nat) (output : Level) :
    (siggen wave phase output).reset = playing wave 0 := by
  rw [playing, Nat.zero_mod]
  rfl

theorem advance_playing (count : Nat) : (playing wave count).advance = playing wave (count + 1) := by
  show siggen wave ((count % wave.length + 1) % wave.length) (wave.levelAt (count % wave.length)) = _
  rw [playing, Waveform.levelAt_mod, Nat.mod_add_mod, Nat.add_sub_cancel]

/-- Advancing counts on from where it was. -/
theorem iterate_advance_playing (count cycles : Nat) :
    advance^[cycles] (playing wave count) = playing wave (count + cycles) := by
  induction cycles with
  | zero => rfl
  | succ cycles ih => rw [Function.iterate_succ_apply', ih, advance_playing, Nat.add_assoc]

end Element

namespace Simulator

variable {sim : Simulator} {id : NameId} {device : Device} {wave : Waveform} {count : Nat}

/-- **A cycle does nothing to a source but advance it**, whether it is completed or not. -/
theorem device?_step_of_source (hnet : sim.network.Distinct)
    (hdevice : sim.network.device? id = some device) (hgate : ¬ device.IsGate)
    (hkind : device.kind ≠ .dtype) :
    sim.step.1.network.device? id = some (device.withElement device.element.advance) := by
  have hadvanced : sim.network.advanceSources.device? id
      = some (device.withElement device.element.advance) := by
    rw [Network.device?_advanceSources, hdevice, Option.map_some]
  -- the kind stays, so sweeps pass the device over before and after
  have hkept : (device.withElement device.element.advance).kind = device.kind :=
    Element.kind_advance device.element
  have hgate' : ¬ (device.withElement device.element.advance).IsGate := by
    rw [Device.isGate_iff, hkept, ← Device.isGate_iff]
    exact hgate
  have hmuted := Network.muted_settle sim.network.advanceSources sim.sweepLimit
  have hsettled := Network.device?_of_muted_eq hmuted hadvanced hgate'
  rcases step_cases sim with ⟨settled, passes, hsettle, hstep⟩ | ⟨unsettled, hsettle, hstep⟩
  · rw [hsettle] at hsettled
    rw [hstep]
    apply Network.device?_latchAll_of_ne_dtype (hnet.of_drawing_eq (drawing_settled hsettle)) hsettled
    rw [hkept]
    exact hkind
  · rw [hsettle] at hsettled
    rw [hstep]
    exact hsettled

/-- The setting of a switch does nothing to other devices, nor to a device that is no switch. -/
theorem device?_setSwitch_of_none {level : Level} {switch : NameId}
    (hdevice : sim.network.device? id = some device) (hnone : device.element.setSwitch? level = none) :
    (sim.move (.setSwitch switch level)).network.device? id = some device := by
  rw [network_setSwitch]
  cases hset : sim.network.setSwitch? switch level with
  | none => exact hdevice
  | some network =>
    -- what is set is a switch, so it is another device
    obtain ⟨found, initial, old, hfound, hswitch, rfl⟩ := Network.setSwitch?_eq_some hset
    have hother : id ≠ switch := by
      rintro rfl
      rw [hdevice, Option.some.injEq] at hfound
      rw [hfound, hswitch] at hnone
      cases hnone
    rw [Option.getD_some, Network.device?_update_element, if_neg hother]
    exact hdevice

/-- **Only cycles move a source**, and each of them advances it. By induction on the moves, each of which
keeps the handles distinct. -/
theorem device?_foldl_move_of_isSource (hnet : sim.network.Distinct)
    (hdevice : sim.network.device? id = some device) (hsource : device.element.IsSource)
    {moves : List Move} (hmoves : .coldStart ∉ moves) :
    (moves.foldl move sim).network.device? id
      = some (device.withElement (Element.advance^[moves.count .step] device.element)) := by
  induction moves generalizing sim device with
  | nil => exact hdevice
  | cons action rest ih =>
    rw [List.mem_cons, not_or] at hmoves
    have hnext : (sim.move action).network.Distinct := hnet.of_drawing_eq (drawing_move hnet action)
    rw [List.foldl_cons]
    -- a cycle is counted and advances the source; a switch is set elsewhere; there is no cold start
    cases action with
    | step =>
      have hstep := device?_step_of_source hnet hdevice hsource.not_isGate hsource.kind_ne_dtype
      rw [List.count_cons_self, Function.iterate_succ_apply]
      exact ih hnext hstep hsource.advance hmoves.2
    | setSwitch switch level =>
      rw [List.count_cons_of_ne (by simp)]
      apply ih hnext _ hsource hmoves.2
      exact device?_setSwitch_of_none hdevice (hsource.setSwitch? level)
    | coldStart => exact absurd rfl hmoves.1

/-- A signal generator plays one more level for each cycle. -/
theorem device?_foldl_move (hnet : sim.network.Distinct)
    (hdevice : sim.network.device? id = some (device.withElement (.playing wave count)))
    {moves : List Move} (hmoves : .coldStart ∉ moves) :
    (moves.foldl move sim).network.device? id
      = some (device.withElement (.playing wave (count + moves.count .step))) := by
  have hmoved := device?_foldl_move_of_isSource hnet hdevice trivial hmoves
  rw [Device.element_withElement, Element.iterate_advance_playing] at hmoved
  exact hmoved

/-- **A signal generator plays its waveform.** Runs make a waveform when there are any, none is empty and
their total fits in 64 bits, which the checked construction finds out. The checked walk along the runs
finds a level at every phase, the one spelled out there. And after a cold start and any attempts to run
a cycle, completed or not, with switches set in between, the level shown is that of the last attempt and
the phase counts all of them, both around the length. -/
theorem siggen_plays_waveform (hsim : sim.Reachable) :
    (∀ runs : List Run,
      Waveform.length? runs = (Waveform.ofRuns? runs).map Waveform.length ∧
      ((Waveform.ofRuns? runs).isSome ↔
        runs ≠ [] ∧ (∀ run ∈ runs, 0 < run.cycles) ∧ (runs.map Run.cycles).sum < 2 ^ 64) ∧
      ∀ wave, Waveform.ofRuns? runs = some wave →
        wave.runs = runs ∧ wave.length = (runs.map Run.cycles).sum) ∧
    (∀ (wave : Waveform) (phase : Nat), wave.levels.length = wave.length ∧
      wave.levels[phase % wave.length]? = some (wave.levelAt phase) ∧
      wave.seek? phase = some (wave.levelAt phase)) ∧
    ∀ (device : Device) (wave : Waveform) (phase : Nat) (output : Level),
      sim.network.device? device.id = some device → device.element = .siggen wave phase output →
      ∀ moves : List Move, .coldStart ∉ moves →
        let count := moves.count .step
        let after := (moves.foldl move sim.coldStart).network
        1 ≤ count → ∃ level, wave.levels[(count - 1) % wave.length]? = some level ∧
          after.level? ⟨device.id, .main⟩ = some level ∧
          after.device? device.id
            = some (device.withElement (.siggen wave (count % wave.length) level)) := by
  refine ⟨fun runs => ⟨Waveform.length?_eq runs, Waveform.isSome_ofRuns?_iff, ?_⟩,
    fun wave phase => ?_, ?_⟩
  · intro wave hwave
    have hruns := Waveform.runs_of_ofRuns? hwave
    exact ⟨hruns, by rw [Waveform.length, hruns, Run.total_eq_sum]⟩
  · -- the walk that is checked, the one that is not, and indexing find one level
    obtain ⟨hseek, hlevel⟩ := wave.seek?_eq_some phase
    exact ⟨wave.length_levels, hlevel, hseek⟩
  · intro device wave phase output hdevice helement moves hmoves count after _
    have hcold : sim.coldStart.network.device? device.id
        = some (device.withElement (.playing wave 0)) := by
      have hreset : sim.network.coldStart.device? device.id
          = some (device.withElement device.element.reset) := by
        -- a cold start puts the phase at the first level, which the first cycle then shows
        rw [Network.device?_coldStart, hdevice, Option.map_some]
      rw [helement, Element.reset_siggen] at hreset
      exact hreset
    have hafter : after.device? device.id = some (device.withElement (.playing wave count)) := by
      have h := device?_foldl_move hsim.coldStart.distinct hcold hmoves
      rw [Nat.zero_add] at h
      exact h
    refine ⟨wave.levelAt (count - 1), (wave.seek?_eq_some (count - 1)).2, ?_, hafter⟩
    rw [Network.level?, hafter]
    rfl

/-! ### A long waveform

A signal generator beside a gate that feeds itself: with its switch HIGH the gate does not settle. -/

/-- HIGH in one cycle of `2 ^ 64 - 1`. -/
def longWave : Waveform where
  runs := [⟨.high, 1⟩, ⟨.low, 2 ^ 64 - 2⟩]
  runs_ne_nil := by decide
  cycles_pos := by decide
  total_lt := by decide

def generator : Simulator :=
  .new
    { devices :=
        [.new ⟨0⟩ "SW" (.switch .low), .new ⟨1⟩ "S" (.siggen longWave),
          ⟨⟨2⟩, "G", [(.gate 1, some ⟨⟨0⟩, .main⟩), (.gate 2, some ⟨⟨2⟩, .main⟩)],
            .gate .nand 2 .low⟩] }
    none

theorem generator_reachable : generator.Reachable := by
  refine .new ?_ none
  have h := Network.Built.empty
  have h := h.addDevice (show Network.addDevice _ ⟨0⟩ "SW" (.switch .low) = .ok _ from rfl)
  have h := h.addDevice (show Network.addDevice _ ⟨1⟩ "S" (.siggen longWave) = .ok _ from rfl)
  have h := h.addDevice (show Network.addDevice _ ⟨2⟩ "G" (.gate .nand 2) = .ok _ from rfl)
  have h := h.connect
    (show Network.connect _ .empty ⟨⟨0⟩, .main⟩ ⟨⟨2⟩, .gate 1⟩ = .ok _ from rfl)
  have h := h.connect
    (show Network.connect _ .empty ⟨⟨2⟩, .main⟩ ⟨⟨2⟩, .gate 2⟩ = .ok _ from rfl)
  exact h

/-- The second of three cycles is not completed. The phase counts it, and the level of the third one is
shown. -/
theorem siggen_plays_waveform_generator :
    let moves : List Move := [.step, .setSwitch ⟨0⟩ .high, .step, .setSwitch ⟨0⟩ .low, .step]
    let after := moves.foldl move generator.coldStart
    generator.Reachable ∧ Move.coldStart ∉ moves ∧ moves.count .step = 3 ∧ after.cycle = 2 ∧
      longWave.levels[(3 - 1) % longWave.length]? = some .low ∧
      after.network.level? ⟨⟨1⟩, .main⟩ = some .low ∧
      after.network.device? ⟨1⟩ = some ⟨⟨1⟩, "S", [], .siggen longWave 3 .low⟩ := by
  intro moves after
  have hcycle : after.cycle = 2 := by decide +kernel
  obtain ⟨-, hspelled, hplays⟩ := siggen_plays_waveform generator_reachable
  obtain ⟨level, hlevel, hshown, hdevice⟩ :=
    hplays (.new ⟨1⟩ "S" (.siggen longWave)) longWave 0 .high rfl rfl moves (by decide) (by decide)
  obtain rfl : level = .low := by
    have h := (hspelled longWave 2).2.1
    rw [show moves.count .step = 3 by decide] at hlevel
    exact Option.some.inj (hlevel.symm.trans h)
  exact ⟨generator_reachable, by decide, by decide, hcycle, hlevel, hshown, hdevice⟩

end Simulator

end LogicCircuit
