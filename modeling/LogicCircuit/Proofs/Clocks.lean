import LogicCircuit.Proofs.Definition.Origins
import LogicCircuit.Proofs.Operations
import LogicCircuit.Proofs.Rings
import LogicCircuit.Proofs.Waveforms
import Mathlib.Data.Nat.Count
import Mathlib.Tactic.NormNum

/-!
# Clocks — a counter and a level make a square wave

A clock has no notion of time but a counter of the cycles since it last toggled and the level it shows.
Both have a closed form in the number of cycles since a cold start: the counter is the remainder by the
half period, and the level tells whether the quotient is odd. All else follows from the closed form.

* **`Element.advance_ticking`** — one cycle: the counter that reaches the half period is the remainder that
  comes back to 0, and then the quotient changes its parity.
* **`countP_squareWave`** — of any two half periods in a row, one half period is HIGH.
* **`Simulator.ticks_of_clock`** — a clock shows a square wave, in completed cycles and in others, whatever
  switches are set in between.
* **`clock_shows_square_wave`** — from the text to the wave. The half period is half of the number behind
  `CLOCK period`, where a number that is too large to hold counts as the largest one that is not.
-/

namespace LogicCircuit

/-! ## Square waves -/

/-- The level of a square wave that starts LOW, after some cycles. -/
def squareWave (halfPeriod cycles : Nat) : Level :=
  .ofBool (cycles / halfPeriod % 2 = 1)

section SquareWave

variable {halfPeriod : Nat}

/-- It is HIGH in every other half period, from the second one on. -/
theorem squareWave_eq_high_iff (halfPeriod cycles : Nat) :
    squareWave halfPeriod cycles = .high ↔ cycles / halfPeriod % 2 = 1 := by
  by_cases h : cycles / halfPeriod % 2 = 1
  · simp [squareWave, Level.ofBool, h]
  · simp [squareWave, Level.ofBool, h]

/-- Two half periods on, the level is the same. -/
theorem squareWave_add (hpos : 0 < halfPeriod) (cycles : Nat) :
    squareWave halfPeriod (cycles + 2 * halfPeriod) = squareWave halfPeriod cycles := by
  rw [squareWave, squareWave, Nat.add_mul_div_right _ _ hpos, Nat.add_mod_right]

/-- The first half period is LOW and the second one HIGH. -/
theorem count_squareWave (hpos : 0 < halfPeriod) :
    (2 * halfPeriod).count (fun cycles => squareWave halfPeriod cycles = .high) = halfPeriod := by
  -- no attempt of the first half period is HIGH, and every one of the second
  have hlow : halfPeriod.count (fun cycles => squareWave halfPeriod cycles = .high) = 0 := by
    apply Nat.count_iff_forall_not.2
    intro cycles hlt
    rw [squareWave_eq_high_iff, Nat.div_eq_of_lt hlt]
    decide
  have hhigh : halfPeriod.count (fun cycles => squareWave halfPeriod (halfPeriod + cycles) = .high)
      = halfPeriod := by
    apply Nat.count_of_forall
    intro cycles hlt
    rw [squareWave_eq_high_iff, Nat.add_div_left _ hpos, Nat.div_eq_of_lt hlt]
  rw [Nat.two_mul, Nat.count_add, hlow, hhigh, Nat.zero_add]

/-- Of two half periods in a row, one half period is HIGH, wherever they start. -/
theorem countP_squareWave (hpos : 0 < halfPeriod) (start : Nat) :
    (List.range (2 * halfPeriod)).countP
      (fun cycles => squareWave halfPeriod (start + cycles) = .high) = halfPeriod := by
  show (2 * halfPeriod).count (fun cycles => squareWave halfPeriod (start + cycles) = .high) = halfPeriod
  -- what lies in front of the start lies again behind the end
  have hfront := Nat.count_add (fun cycles => squareWave halfPeriod cycles = .high) start (2 * halfPeriod)
  have hback := Nat.count_add' (fun cycles => squareWave halfPeriod cycles = .high) start (2 * halfPeriod)
  simp only [squareWave_add hpos, count_squareWave hpos] at hback
  omega

end SquareWave

/-! ## Ticking -/

/-- A clock that has been advanced some cycles from a cold start. -/
def Element.ticking (halfPeriod cycles : Nat) : Element :=
  .clock halfPeriod (cycles % halfPeriod) (squareWave halfPeriod cycles)

namespace Element

variable {halfPeriod : Nat}

/-- A cold start is the beginning of the wave. -/
theorem reset_clock (halfPeriod counter : Nat) (output : Level) :
    (clock halfPeriod counter output).reset = ticking halfPeriod 0 := by
  rw [ticking, squareWave, Nat.zero_div, Nat.zero_mod]
  rfl

/-- **One cycle.** -/
theorem advance_ticking (hpos : 0 < halfPeriod) (cycles : Nat) :
    (ticking halfPeriod cycles).advance = ticking halfPeriod (cycles + 1) := by
  have hsplit := Nat.div_add_mod cycles halfPeriod
  have hbelow := Nat.mod_lt cycles hpos
  rw [ticking, advance, ticking]
  by_cases htoggle : halfPeriod ≤ cycles % halfPeriod + 1
  · -- the remainder is as large as it can be
    have hnext : (cycles + 1) / halfPeriod = cycles / halfPeriod + 1 ∧ (cycles + 1) % halfPeriod = 0 := by
      rw [Nat.div_mod_unique hpos, Nat.mul_add]
      omega
    rw [if_pos htoggle, hnext.2, squareWave, squareWave, hnext.1]
    rcases Nat.mod_two_eq_zero_or_one (cycles / halfPeriod) with heven | hodd
    · simp [heven, Nat.add_mod, Level.ofBool, Level.invert]
    · simp [hodd, Nat.add_mod, Level.ofBool, Level.invert]
  · -- the count goes on within the half period
    have hnext : (cycles + 1) / halfPeriod = cycles / halfPeriod ∧
        (cycles + 1) % halfPeriod = cycles % halfPeriod + 1 := by
      rw [Nat.div_mod_unique hpos]
      omega
    rw [if_neg htoggle, hnext.2, squareWave, squareWave, hnext.1]

/-- Cycle by cycle along the wave. -/
theorem iterate_advance_ticking (hpos : 0 < halfPeriod) (cycles more : Nat) :
    advance^[more] (ticking halfPeriod cycles) = ticking halfPeriod (cycles + more) := by
  induction more with
  | zero => rfl
  | succ more ih => rw [Function.iterate_succ_apply', ih, advance_ticking hpos, Nat.add_assoc]

end Element

namespace Simulator

variable {sim : Simulator} {id : NameId} {device : Device} {halfPeriod cycles : Nat}

theorem distinct_foldl_move (hnet : sim.network.Distinct) (moves : List Move) :
    (moves.foldl move sim).network.Distinct := by
  induction moves generalizing sim with
  | nil => exact hnet
  | cons action rest ih => exact ih (hnet.of_drawing_eq (drawing_move hnet action))

/-- A clock goes on along its wave, whatever else is done. -/
theorem device?_foldl_move_ticking (hnet : sim.network.Distinct) (hpos : 0 < halfPeriod)
    (hdevice : sim.network.device? id = some (device.withElement (.ticking halfPeriod cycles)))
    {moves : List Move} (hmoves : .coldStart ∉ moves) :
    (moves.foldl move sim).network.device? id
      = some (device.withElement (.ticking halfPeriod (cycles + moves.count .step))) := by
  have hmoved := device?_foldl_move_of_isSource hnet hdevice trivial hmoves
  rw [Device.element_withElement, Element.iterate_advance_ticking hpos] at hmoved
  exact hmoved

/-- The levels that a clock shows right after the cycles among some moves, completed or not. -/
theorem level?_steps_ticking (hnet : sim.network.Distinct) (hpos : 0 < halfPeriod)
    (hdevice : sim.network.device? id = some (device.withElement (.ticking halfPeriod cycles)))
    {moves : List Move} (hmoves : .coldStart ∉ moves) :
    (sim.steps moves).map (fun attempt => attempt.1.network.level? ⟨id, .main⟩)
      = (List.range (moves.count .step)).map
        fun index => some (squareWave halfPeriod (cycles + 1 + index)) := by
  -- by induction on the moves; the wave is taken up where the last cycle left it
  induction moves generalizing sim cycles with
  | nil => rfl
  | cons action rest ih =>
    have hnext : (sim.move action).network.Distinct := hnet.of_drawing_eq (drawing_move hnet action)
    have hrest : .coldStart ∉ rest := fun hmem => hmoves (List.mem_cons_of_mem _ hmem)
    cases action with
    | step =>
      have hstep : sim.step.1.network.device? id
          = some (device.withElement (.ticking halfPeriod (cycles + 1))) :=
        @device?_foldl_move_ticking sim id device halfPeriod cycles hnet hpos hdevice [.step] (by simp)
      have hlevel : sim.step.1.network.level? ⟨id, .main⟩ = some (squareWave halfPeriod (cycles + 1)) := by
        rw [Network.level?, hstep]
        rfl
      have hothers := ih hnext hstep hrest
      rw [List.count_cons_self, List.range_succ_eq_map, List.map_cons, List.map_map, steps, List.map_cons,
        hlevel]
      -- the levels that follow are those one place further on
      refine congrArg _ (hothers.trans ?_)
      apply List.map_congr_left
      intro index _
      show _ = some (squareWave halfPeriod (cycles + 1 + (index + 1)))
      rw [Nat.add_assoc (cycles + 1) 1 index, Nat.add_comm 1 index]
    | setSwitch switch level =>
      rw [List.count_cons_of_ne (by simp), steps]
      exact ih hnext (device?_setSwitch_of_none hdevice rfl) hrest
    | coldStart => exact absurd List.mem_cons_self hmoves

/-- A device shows a square wave after every cold start. -/
structure Ticks (sim : Simulator) (device : Device) (halfPeriod : Nat) : Prop where
  /-- The level and the counter after any attempts to run a cycle, with switches set in between. The
  counter can be incremented. -/
  state : ∀ moves : List Move, .coldStart ∉ moves →
    let cycles := moves.count .step
    let after := (moves.foldl move sim.coldStart).network
    ∃ level, after.level? ⟨device.id, .main⟩ = some level ∧ (level = .high ↔ Odd (cycles / halfPeriod)) ∧
      after.device? device.id
        = some (device.withElement (.clock halfPeriod (cycles % halfPeriod) level)) ∧
      Word.add? (cycles % halfPeriod) 1 = some (cycles % halfPeriod + 1)
  /-- After two half periods more the level is the same again, and it has been HIGH in half of them. -/
  repeats : ∀ moves more : List Move, .coldStart ∉ moves → .coldStart ∉ more →
    more.count .step = 2 * halfPeriod →
      let after := moves.foldl move sim.coldStart
      (more.foldl move after).network.level? ⟨device.id, .main⟩ = after.network.level? ⟨device.id, .main⟩ ∧
      (after.steps more).countP
        (fun attempt => attempt.1.network.level? ⟨device.id, .main⟩ = some .high) = halfPeriod

/-- **A clock shows a square wave.** -/
theorem ticks_of_clock (hsim : sim.Reachable) {counter : Nat} {output : Level}
    (hmem : device ∈ sim.network.devices)
    (helement : device.element = .clock halfPeriod counter output) (hword : halfPeriod < 2 ^ 64) :
    1 ≤ halfPeriod ∧ sim.Ticks device halfPeriod := by
  have hdevice : sim.network.device? device.id = some device :=
    hsim.distinct.device?_eq_some_iff.2 ⟨hmem, rfl⟩
  -- a clock in a network in order has a half period
  have hpos : 0 < halfPeriod := by
    have hlegal := hsim.wellFormed.legal device hmem
    rw [Device.kind, helement] at hlegal
    exact hlegal
  have hcold : sim.coldStart.network.device? device.id
      = some (device.withElement (.ticking halfPeriod 0)) := by
    have hreset : sim.network.coldStart.device? device.id
        = some (device.withElement device.element.reset) := by
      rw [Network.device?_coldStart, hdevice, Option.map_some]
    rw [helement, Element.reset_clock] at hreset
    exact hreset
  -- after the cold start the clock is at the beginning of its wave, and each attempt moves it by one
  have hticking : ∀ moves : List Move, .coldStart ∉ moves →
      (moves.foldl move sim.coldStart).network.device? device.id
        = some (device.withElement (.ticking halfPeriod (moves.count .step))) := by
    intro moves hmoves
    have h := device?_foldl_move_ticking hsim.coldStart.distinct hpos hcold hmoves
    rw [Nat.zero_add] at h
    exact h
  have hlevel : ∀ moves : List Move, .coldStart ∉ moves →
      (moves.foldl move sim.coldStart).network.level? ⟨device.id, .main⟩
        = some (squareWave halfPeriod (moves.count .step)) := by
    intro moves hmoves
    rw [Network.level?, hticking moves hmoves]
    rfl
  refine ⟨hpos, fun moves hmoves => ?_, fun moves more hmoves hmore hcount => ?_⟩
  · refine ⟨_, hlevel moves hmoves, ?_, hticking moves hmoves, ?_⟩
    · rw [squareWave_eq_high_iff, Nat.odd_iff]
    · have hbelow := Nat.mod_lt (moves.count .step) hpos
      apply Word.add?_eq_some
      show _ < 2 ^ 64
      omega
  · -- two half periods later, and on the way there
    have hboth : .coldStart ∉ moves ++ more := by simp [hmoves, hmore]
    have hlater := hlevel (moves ++ more) hboth
    rw [List.foldl_append, List.count_append, hcount, squareWave_add hpos] at hlater
    refine ⟨hlater.trans (hlevel moves hmoves).symm, ?_⟩
    have hshown := level?_steps_ticking (distinct_foldl_move hsim.coldStart.distinct moves) hpos
      (hticking moves hmoves) hmore
    have hhigh := countP_squareWave hpos (moves.count .step + 1)
    rw [hcount] at hshown
    calc ((moves.foldl move sim.coldStart).steps more).countP
          (fun attempt => attempt.1.network.level? ⟨device.id, .main⟩ = some .high)
        = (((moves.foldl move sim.coldStart).steps more).map
            fun attempt => attempt.1.network.level? ⟨device.id, .main⟩).countP (· = some .high) := by
          rw [List.countP_map]
          rfl
      _ = halfPeriod := by
          rw [hshown, List.countP_map]
          exact (List.countP_congr fun index _ => by simp).trans hhigh

end Simulator

/-! ## From the text to the wave -/

open Definition in
/-- **A clock shows a square wave.** After a cold start and any attempts to run a cycle, completed or not,
with switches set in between, its level is HIGH when the half period fits into the attempts an odd number
of times, and its counter is what is left. Each clock of a text is defined in it, each name that a program
defines as a clock is one, and the half period is half of the number behind `CLOCK period`. -/
theorem clock_shows_square_wave :
    (∀ sim : Simulator, sim.Reachable →
      ∀ device ∈ sim.network.devices, ∀ (halfPeriod counter : Nat) (output : Level),
        device.element = .clock halfPeriod counter output → halfPeriod < 2 ^ 64 →
          1 ≤ halfPeriod ∧ sim.Ticks device halfPeriod) ∧
    ∀ (text : String) (fixedLimit : Option Nat),
      let sim := (Session.load text fixedLimit).1.simulator
      (∀ device ∈ sim.network.devices, ∀ (halfPeriod counter : Nat) (output : Level),
        device.element = .clock halfPeriod counter output →
          ∃ names digits, device.name ∈ names ∧
            spellDefinition names (.clock digits) <:+: throughEndWord (tokens text) ∧
            2 ≤ Decimal.value digits.toList ∧
            halfPeriod = min (Decimal.value digits.toList) (2 ^ 64 - 1) / 2 ∧
            sim.Ticks device halfPeriod) ∧
      ∀ (program : List Statement) (scope : Scope), .keyword .endWord ∈ tokens text →
        (tokens text).takeWhile (· ≠ .keyword .endWord) = program.flatMap Statement.spell →
        Scope.empty.AcceptsAll program scope →
        ∀ (first : String) (others : List String) (digits : String),
          .define first others (.clock digits) ∈ program →
            2 ≤ Decimal.value digits.toList ∧
            ∀ name ∈ first :: others, ∃ device ∈ sim.network.devices, device.name = name ∧
              sim.Ticks device (min (Decimal.value digits.toList) (2 ^ 64 - 1) / 2) := by
  refine ⟨fun sim hsim device hmem halfPeriod counter output => Simulator.ticks_of_clock hsim hmem,
    fun text fixedLimit => ?_⟩
  intro sim
  have hsim : sim.Reachable := .new (sound_read text).built fixedLimit
  -- the numbers that are read saturate at the largest word
  have hcount : ∀ digits : String,
      Decimal.count digits.toList = min (Decimal.value digits.toList) (2 ^ 64 - 1) := fun _ => rfl
  refine ⟨fun device hmem halfPeriod counter output helement => ?_,
    fun program scope hend hspell haccepts first others digits hdefine => ?_⟩
  · -- a clock of the network was defined by some statement of the text
    obtain ⟨names, body, hname, hmeans, hspelled⟩ := defines_of_mem_read text hmem
    rw [Device.kind, helement] at hmeans
    cases hmeans with
    | clock digits hmin =>
      rw [hcount] at hmin helement ⊢
      have hticks := (Simulator.ticks_of_clock hsim hmem helement (by omega)).2
      exact ⟨names, digits, hname, hspelled, by omega, rfl, hticks⟩
  · -- and each name that is defined as a clock is the name of a device
    obtain ⟨kind, hmeans, hdevices⟩ := exists_device_of_define hend hspell haccepts hdefine
    cases hmeans with
    | clock digits hmin =>
      rw [hcount] at hmin hdevices
      refine ⟨by omega, fun name hname => ?_⟩
      obtain ⟨device, hmem, hnamed, helement⟩ := hdevices name hname
      exact ⟨device, hmem, hnamed, (Simulator.ticks_of_clock hsim hmem helement (by omega)).2⟩

/-! ### A clock beside a loop

With its switch HIGH the gate that feeds itself does not settle. -/

section BesideLoop

open Definition

def clockText : String :=
  "define SW as SWITCH 0 state; define C as CLOCK period 5; define G as NAND 2 inputs;
  connect SW to G.I1; connect G to G.I2; END"

def clockProgram : List Statement :=
  [.define "SW" [] (.switch .low), .define "C" [] (.clock "5"),
    .define "G" [] (.gate .nand (by decide) "2"),
    .connect ⟨"SW", .main⟩ ⟨"G", .numbered ['1'] (by decide)⟩,
    .connect ⟨"G", .main⟩ ⟨"G", .numbered ['2'] (by decide)⟩]

def clockScope : Scope :=
  { devices := [("SW", .switch .low), ("C", .clock 2), ("G", .gate .nand 2)]
    wires := [(⟨"SW", .main⟩, ⟨"G", .gate 1⟩), (⟨"G", .main⟩, ⟨"G", .gate 2⟩)]
    watched := [] }

theorem clockText_accepted : Scope.empty.AcceptsAll clockProgram clockScope := by
  have hgate : Body.Means (.gate .nand (by decide) "2") (.gate .nand 2) :=
    .gate .nand (by decide) "2" (by decide) (by decide)
  have hfirst : PortName.Means (.numbered ['1'] (by decide)) (.gate .nand 2) (.gate 1) :=
    .numbered ['1'] (by decide) .nand 2 (by decide) (by decide)
  have hsecond : PortName.Means (.numbered ['2'] (by decide)) (.gate .nand 2) (.gate 2) :=
    .numbered ['2'] (by decide) .nand 2 (by decide) (by decide)
  refine .cons (.define (.switch .low) (by decide) (by decide)) ?_
  refine .cons (.define (.clock "5" (by decide)) (by decide) (by decide)) ?_
  refine .cons (.define hgate (by decide) (by decide)) ?_
  refine .cons (.connect ⟨.switch .low, by decide, by decide⟩ (by decide) hfirst (by decide)) ?_
  exact .cons (.connect ⟨.gate .nand 2, by decide, by decide⟩ (by decide) hsecond (by decide)) (.nil _)

/-- The second of three cycles is not completed, and it counts. -/
theorem clock_shows_square_wave_beside_loop :
    let sim := (Session.load clockText none).1.simulator
    let moves : List Simulator.Move := [.step, .setSwitch ⟨27⟩ .high, .step, .setSwitch ⟨27⟩ .low, .step]
    let after := moves.foldl Simulator.move sim.coldStart
    Simulator.Move.coldStart ∉ moves ∧ moves.count .step = 3 ∧ after.cycle = 2 ∧
      Scope.empty.AcceptsAll clockProgram clockScope ∧ 2 ≤ Decimal.value ['5'] ∧
      ∃ device ∈ sim.network.devices, device.name = "C" ∧ sim.Ticks device 2 ∧
        after.network.device? device.id = some (device.withElement (.clock 2 1 .high)) := by
  intro sim moves after
  have hcount : moves.count .step = 3 := by decide
  have hcycle : after.cycle = 2 := by decide +kernel
  have hhalf : min (Decimal.value "5".toList) (2 ^ 64 - 1) / 2 = 2 := by decide
  have htokens : tokens clockText = clockProgram.flatMap Statement.spell ++ [.keyword .endWord] := by
    decide +kernel
  have hend : .keyword .endWord ∈ tokens clockText := by
    rw [htokens]
    decide
  have hspell : (tokens clockText).takeWhile (· ≠ .keyword .endWord)
      = clockProgram.flatMap Statement.spell := by
    rw [htokens]
    decide
  obtain ⟨-, hprograms⟩ := clock_shows_square_wave.2 clockText none
  obtain ⟨hmin, hclocks⟩ := hprograms clockProgram clockScope hend hspell clockText_accepted "C" [] "5"
    (by simp [clockProgram])
  obtain ⟨device, hmem, hname, hticks⟩ := hclocks "C" List.mem_cons_self
  rw [hhalf] at hticks
  obtain ⟨level, -, hlevel, hdevice, -⟩ := hticks.state moves (by decide)
  rw [hcount] at hlevel hdevice
  obtain rfl : level = .high := hlevel.2 (by decide)
  exact ⟨by decide, hcount, hcycle, clockText_accepted, hmin, device, hmem, hname, hticks, hdevice⟩

end BesideLoop

/-! ### A period that is too large

A number above `2 ^ 64 - 1` counts as that, so a period of `2 ^ 64` repeats after `2 ^ 64 - 2` cycles. -/

section LongPeriod

open Definition

def longPeriodText : String :=
  "define C as CLOCK period 18446744073709551616; END"

theorem exists_moves (cycles : Nat) :
    ∃ moves : List Simulator.Move, .coldStart ∉ moves ∧ moves.count .step = cycles :=
  ⟨List.replicate cycles .step, by simp, List.count_replicate_self⟩

/-- `2 ^ 64` cycles on, the level of the clock is not always the same. -/
theorem longPeriod_not_repeating :
    let sim := (Session.load longPeriodText none).1.simulator
    throughEndWord (tokens longPeriodText)
        = spellDefinition ["C"] (.clock "18446744073709551616") ++ [.semicolon, .keyword .endWord] ∧
      Decimal.value "18446744073709551616".toList = 2 ^ 64 ∧
      ¬ ∀ device ∈ sim.network.devices, ∀ moves more : List Simulator.Move,
        .coldStart ∉ moves → .coldStart ∉ more → more.count .step = 2 * (2 ^ 64 / 2) →
          ((moves ++ more).foldl Simulator.move sim.coldStart).network.level? ⟨device.id, .main⟩
            = (moves.foldl Simulator.move sim.coldStart).network.level? ⟨device.id, .main⟩ := by
  intro sim
  refine ⟨by decide +kernel, by decide +kernel, fun hrepeats => ?_⟩
  have hsim : sim.Reachable := .new (sound_read longPeriodText).built none
  have hdevices : sim.network.devices = [.new ⟨27⟩ "C" (.clock (2 ^ 63 - 1))] := by decide +kernel
  have hmem : Device.new ⟨27⟩ "C" (.clock (2 ^ 63 - 1)) ∈ sim.network.devices := by
    rw [hdevices]
    exact List.mem_cons_self
  have hticks := (Simulator.ticks_of_clock hsim hmem rfl (by decide)).2
  obtain ⟨moves, hmoves, hcount⟩ := exists_moves (2 ^ 63 - 2)
  obtain ⟨more, hmore, hcount'⟩ := exists_moves (2 * (2 ^ 64 / 2))
  have hboth : .coldStart ∉ moves ++ more := by simp [hmoves, hmore]
  obtain ⟨early, hearly, hearly', -⟩ := hticks.state moves hmoves
  obtain ⟨late, hlate, hlate', -⟩ := hticks.state (moves ++ more) hboth
  rw [hrepeats _ hmem moves more hmoves hmore hcount', hearly, Option.some.injEq] at hlate
  rw [hcount, Nat.odd_iff] at hearly'
  rw [List.count_append, hcount, hcount', Nat.odd_iff] at hlate'
  -- the last cycle of the first half period, and the second cycle of the fourth one
  have hnot : ¬ early = .high := mt hearly'.1 (by norm_num)
  have hmust : late = .high := hlate'.2 (by norm_num)
  exact hnot (hlate.trans hmust)

end LongPeriod

end LogicCircuit
