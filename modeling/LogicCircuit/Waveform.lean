import LogicCircuit.Level

/-!
# Waveforms

A signal generator repeats a programmed sequence of levels. The sequence is kept as runs of equal
levels, so a waveform of many billion cycles stays small. `Waveform.levels` spells the sequence out;
`Waveform.levelAt` finds one level without doing so.
-/

namespace LogicCircuit

/-- One stretch of a waveform: a level and the number of cycles it is held for. -/
structure Run where
  level : Level
  cycles : Nat
  deriving DecidableEq, Repr

/-- Total number of cycles in a list of runs. -/
def Run.total (runs : List Run) : Nat :=
  runs.foldr (fun run total => run.cycles + total) 0

/-- The level `phase` cycles into a list of runs, LOW past its end. -/
def Run.levelAt : List Run → Nat → Level
  | [], _ => .low
  | run :: rest, phase =>
    if phase < run.cycles then run.level else levelAt rest (phase - run.cycles)

/-- A repeating sequence of levels: at least one run, no run empty, and a length that fits in
64 bits. -/
structure Waveform where
  runs : List Run
  runs_ne_nil : runs ≠ []
  cycles_pos : ∀ run ∈ runs, 0 < run.cycles
  total_lt : Run.total runs < UInt64.size
  deriving DecidableEq, Repr

namespace Waveform

/-- The waveform made of the given runs, if they make one. -/
def ofRuns? (runs : List Run) : Option Waveform :=
  if h : runs ≠ [] ∧ (∀ run ∈ runs, 0 < run.cycles) ∧ Run.total runs < UInt64.size then
    some ⟨runs, h.1, h.2.1, h.2.2⟩
  else
    none

/-- Number of cycles before the waveform repeats. -/
def length (wave : Waveform) : Nat :=
  Run.total wave.runs

/-- The level in cycle `phase`, counted around the waveform's length. -/
def levelAt (wave : Waveform) (phase : Nat) : Level :=
  Run.levelAt wave.runs (phase % wave.length)

/-- One period of the waveform, level by level. -/
def levels (wave : Waveform) : List Level :=
  wave.runs.flatMap fun run => List.replicate run.cycles run.level

/-- The first levels of the period, at most `count` of them. -/
def preview (wave : Waveform) (count : Nat) : List Level :=
  (List.range (min count wave.length)).map wave.levelAt

theorem length_pos (wave : Waveform) : 0 < wave.length := by
  obtain ⟨runs, hne, hpos, _⟩ := wave
  cases runs with
  | nil => exact absurd rfl hne
  | cons run rest =>
    have hrun := hpos run (List.mem_cons_self ..)
    simp only [length, Run.total, List.foldr_cons]
    omega

end Waveform

end LogicCircuit
