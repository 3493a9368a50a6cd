import LogicCircuit.Definition.Reader
import LogicCircuit.Network

/-!
# Bodies of definitions

What stands between `as` and the semicolon of a definition: the kind of the devices and its
qualifier.

* `SWITCH` level `state`
* `AND`, `OR`, `NAND` or `NOR`, count, `inputs`
* `XOR`
* `DTYPE`
* `CLOCK` `period` count
* `SIGGEN` and one or more runs (level `for` count `cycles`), then `waveform`
-/

namespace LogicCircuit.Definition

/-- The rest of a switch. -/
def readSwitch : Reader DeviceKind := do
  let initial ← readLevel .switchState
  readKeyword .state
  return .switch initial

/-- The rest of a gate other than XOR. -/
def readGate (op : GateOp) : Reader DeviceKind := do
  let inputs ← peekCount
  if inputs = 0 ∨ maxGateInputs < inputs then
    reject .inputCount
  else
    skip
    readKeyword .inputs
    return .gate op inputs

/-- The rest of a clock. Its half period is half the period, rounded down. -/
def readClock : Reader DeviceKind := do
  readKeyword .period
  let period ← peekCount
  if period / 2 = 0 then
    reject .shortPeriod
  else
    skip
    return .clock (period / 2)

/-! ## Waveforms -/

/-- The rest of a run of a waveform, after its level. -/
def readDuration (level : Level) : Reader Run := do
  readKeyword .forWord
  let cycles ← peekCount
  if cycles = 0 then
    reject .zeroCycles
  else
    skip
    readKeyword .cycles
    return ⟨level, cycles⟩

/-- One run of a waveform. -/
def readRun (what : Wanted) : Reader Run := do
  let level ← readLevel what
  readDuration level

variable {P : ∀ α : Type, Reader α → Prop}

theorem Hereditary.readSwitch (h : Hereditary P) : P DeviceKind readSwitch :=
  h.bind (h.readLevel _) fun _ => h.bind (h.readKeyword rfl) fun _ => h.pure _

theorem Hereditary.readGate (h : Hereditary P) (op : GateOp) : P DeviceKind (readGate op) :=
  h.count rfl fun _ => h.bind (h.readKeyword rfl) fun _ => h.pure _

theorem Hereditary.readClock (h : Hereditary P) : P DeviceKind readClock :=
  h.bind (h.readKeyword rfl) fun _ => h.count rfl fun _ => h.pure _

theorem Hereditary.readDuration (h : Hereditary P) (level : Level) : P Run (readDuration level) :=
  h.bind (h.readKeyword rfl) fun _ => h.count rfl fun _ => h.bind (h.readKeyword rfl) fun _ => h.pure _

theorem Hereditary.readRun (h : Hereditary P) (what : Wanted) : P Run (readRun what) :=
  h.bind (h.readLevel what) fun level => h.readDuration level

/-- A run takes at least one symbol. -/
theorem length_readRun_lt {what : Wanted} {input left : List Symbol} {found : Run}
    (h : readRun what input = .ok (found, left)) : left.length < input.length := by
  rw [readRun, bind_apply] at h
  split at h
  · next level rest hlevel =>
    have hwithin := StaysWithin.hereditary.readDuration level rest
    rw [h] at hwithin
    exact Nat.lt_of_le_of_lt (List.IsSuffix.length_le hwithin) (length_readLevel_lt hlevel)
  · cases h

theorem readRun_staysWithin (what : Wanted) (input : List Symbol) :
    StaysWithin input (readRun what input) :=
  StaysWithin.hereditary.readRun what input

/-- Reads runs up to the keyword `waveform`, after those already found. -/
def readRuns (found : List Run) (input : List Symbol) : Except Failure (List Run × List Symbol) :=
  match _h : readRun (if found.isEmpty then .waveformStart else .waveformRest) input with
  | .error failure => .error failure
  | .ok (next, rest) =>
    if atKeyword .waveform rest then .ok (found ++ [next], rest) else readRuns (found ++ [next]) rest
  termination_by input.length
  decreasing_by exact length_readRun_lt _h

/-- One turn of the loop over the runs of a waveform. -/
theorem readRuns_eq (found : List Run) (input : List Symbol) : readRuns found input =
    match readRun (if found.isEmpty then .waveformStart else .waveformRest) input with
    | .error failure => .error failure
    | .ok (next, rest) =>
      if atKeyword .waveform rest then .ok (found ++ [next], rest)
      else readRuns (found ++ [next]) rest := by
  rw [readRuns]
  split
  · next h => rw [h]
  · next h => rw [h]

/-- The rest of a signal generator. -/
def readSiggen : Reader DeviceKind := do
  let found ← readRuns []
  match Waveform.ofRuns? found with
  | some waveform =>
    skip
    return .siggen waveform
  | none => reject .longWaveform

/-- The waveform of the runs that have been read, which `waveform` stands behind. -/
def pickWaveform (found : List Run) : Pick (List Run ⊕ DeviceKind)
  | .keyword .waveform _ =>
    match Waveform.ofRuns? found with
    | some waveform => some (.ok (.inr (.siggen waveform)))
    | none => some (.error .longWaveform)
  | _ => none

theorem pickWaveform_sound (found : List Run) : (pickWaveform found).Sound := by
  constructor
  · rintro ⟨kind, offset⟩ h
    cases kind with
    | keyword word id => cases word <;> first | rfl | cases h
    | _ => cases h
  · intro kind mistake h
    cases kind with
    | keyword word id =>
      cases word with
      | waveform =>
        rw [pickWaveform] at h
        split at h
        · cases h
        · cases h
          rfl
      | _ => cases h
    | _ => cases h

theorem trySymbol_pickWaveform (found : List Run) (input : List Symbol) :
    trySymbol (.inl found) (pickWaveform found) input =
      if atKeyword .waveform input then
        match Waveform.ofRuns? found with
        | some waveform => .ok (.inr (.siggen waveform), input.tail)
        | none => .error (.mistake .longWaveform input)
      else .ok (.inl found, input) := by
  rcases input with _ | ⟨⟨kind, offset⟩, rest⟩
  · rfl
  · cases kind with
    | keyword word id =>
      cases word with
      | waveform =>
        have hword : atKeyword .waveform (⟨.keyword .waveform id, offset⟩ :: rest) = true := rfl
        rw [if_pos hword]
        dsimp only [trySymbol, pickWaveform]
        cases Waveform.ofRuns? found <;> rfl
      | _ => rfl
    | _ => rfl

/-- One run of a signal generator, and what ends it if this was the last one. -/
def siggenTurn (found : List Run) : Reader (List Run ⊕ DeviceKind) := do
  let next ← readRun (if found.isEmpty then .waveformStart else .waveformRest)
  trySymbol (.inl (found ++ [next])) (pickWaveform (found ++ [next]))

/-- The rest of a signal generator, after the runs already found. -/
def siggenAfter (found : List Run) : Reader DeviceKind := do
  let found ← readRuns found
  match Waveform.ofRuns? found with
  | some waveform =>
    skip
    return .siggen waveform
  | none => reject .longWaveform

theorem siggenAfter_eq (found : List Run) :
    siggenAfter found = siggenTurn found >>= Sum.elim siggenAfter pure := by
  funext input
  rw [siggenAfter, siggenTurn, bind_assoc, bind_apply, readRuns_eq, bind_apply]
  cases readRun (if found.isEmpty then .waveformStart else .waveformRest) input with
  | error failure => rfl
  | ok read =>
    obtain ⟨next, rest⟩ := read
    dsimp only
    rw [bind_apply, trySymbol_pickWaveform]
    -- the loop ends at the word `waveform`, and goes on whatever else is next
    by_cases hword : atKeyword .waveform rest
    · rw [if_pos hword, if_pos hword]
      dsimp only
      cases Waveform.ofRuns? (found ++ [next]) <;> rfl
    · rw [if_neg hword, if_neg hword]
      dsimp only [Sum.elim_inl]
      rw [siggenAfter, bind_apply]

theorem Hereditary.readSiggen (h : Hereditary P) : P DeviceKind readSiggen := by
  refine h.loop (fun found => ?_) (fun found input next left hturn => ?_) siggenAfter_eq []
  · exact h.bind (h.readRun _) fun next => h.trySymbol _ (pickWaveform_sound _)
  · rw [siggenTurn, bind_apply] at hturn
    split at hturn
    · next hrun => exact Nat.lt_of_le_of_lt (length_trySymbol_le hturn) (length_readRun_lt hrun)
    · cases hturn

/-! ## Bodies -/

/-- Reads the body of a definition. -/
def readBody : Reader DeviceKind := fun input =>
  match input with
  | ⟨.keyword word _, _⟩ :: rest =>
    match word with
    | .switch => readSwitch rest
    | .and => readGate .and rest
    | .or => readGate .or rest
    | .nand => readGate .nand rest
    | .nor => readGate .nor rest
    | .xor => .ok (.gate .xor 2, rest)
    | .dtype => .ok (.dtype, rest)
    | .clock => readClock rest
    | .siggen => readSiggen rest
    | _ => .error (.wanted .deviceType input)
  | _ => .error (.wanted .deviceType input)

/-- The words that a body starts with. -/
def Keyword.isType : Keyword → Bool
  | .switch | .and | .or | .nand | .nor | .xor | .dtype | .clock | .siggen => true
  | _ => false

def pickType : Pick Keyword
  | .keyword word _ => if word.isType then some (.ok word) else none
  | _ => none

theorem pickType_sound : pickType.Sound := by
  constructor
  · rintro ⟨kind, offset⟩ h
    cases kind with
    | keyword word id => cases word <;> first | rfl | cases h
    | _ => cases h
  · intro kind mistake h
    cases kind with
    | keyword word id => cases word <;> cases h
    | _ => cases h

/-- The rest of a body that starts with a given word. -/
def readRest : Keyword → Reader DeviceKind
  | .switch => readSwitch
  | .and => readGate .and
  | .or => readGate .or
  | .nand => readGate .nand
  | .nor => readGate .nor
  | .xor => pure (.gate .xor 2)
  | .clock => readClock
  | .siggen => readSiggen
  | _ => pure .dtype

theorem readBody_eq : readBody = readSymbol .deviceType pickType >>= readRest := by
  funext input
  rw [bind_apply]
  rcases input with _ | ⟨⟨kind, offset⟩, rest⟩
  · rfl
  · cases kind with
    | keyword word id => cases word <;> rfl
    | _ => rfl

theorem Hereditary.readBody (h : Hereditary P) : P DeviceKind readBody := by
  rw [readBody_eq]
  refine h.bind (h.readSymbol _ pickType_sound) fun word => ?_
  cases word with
  | switch => exact h.readSwitch
  | and => exact h.readGate .and
  | or => exact h.readGate .or
  | nand => exact h.readGate .nand
  | nor => exact h.readGate .nor
  | clock => exact h.readClock
  | siggen => exact h.readSiggen
  | _ => exact h.pure _

end LogicCircuit.Definition
