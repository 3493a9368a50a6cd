import LogicCircuit.Definition.Reader
import LogicCircuit.Network

/-!
# References

How statements refer to outputs and inputs of devices. An output is the name of its device, with
`.Q` or `.QBAR` after it exactly when the device is a flip-flop. An input is the name of its device,
a dot, and one of `DATA`, `CLK`, `SET`, `CLEAR` or `I` and a number. A reference is read only if the
network has what it refers to.
-/

namespace LogicCircuit.Definition

/-- The device that the name at the front of the input refers to, and how it is written there. -/
def deviceAt (net : Network) (input : List Symbol) : Except Failure (String × Device) :=
  match input with
  | ⟨.name text id, _⟩ :: _ =>
    match net.device? id with
    | some device => .ok (text, device)
    | none => .error (.mistake (.unknownDevice text) input)
  | _ => .error (.wanted .name input)

/-! ## Outputs -/

/-- The output of a flip-flop named after the dot. -/
def readFlipFlopPort (id : NameId) (input : List Symbol) :
    Except Failure (OutputRef × List Symbol) :=
  if atKeyword .q input then .ok (⟨id, .q⟩, input.tail)
  else if atKeyword .qbar input then .ok (⟨id, .qbar⟩, input.tail)
  else .error (.wanted .outputPort input)

/-- Reads a reference to an output. -/
def readOutput (net : Network) : Reader OutputRef := fun input =>
  match deviceAt net input with
  | .error failure => .error failure
  | .ok (text, device) =>
    let rest := input.tail
    match rest with
    | ⟨.fullStop, _⟩ :: port =>
      if device.kind = .dtype then readFlipFlopPort device.id port
      else .error (.mistake .unexpectedDot rest)
    | _ =>
      if device.kind = .dtype then .error (.mistake (.missingOutputPort text) rest)
      else .ok (⟨device.id, .main⟩, rest)

variable {P : ∀ α : Type, Reader α → Prop}

/-- The device that a name refers to. -/
def pickDevice (net : Network) : Pick (String × Device)
  | .name text id =>
    match net.device? id with
    | some device => some (.ok (text, device))
    | none => some (.error (.unknownDevice text))
  | _ => none

theorem pickDevice_sound (net : Network) : (pickDevice net).Sound := by
  constructor
  · rintro ⟨kind, offset⟩ h
    cases kind <;> first | rfl | cases h
  · intro kind mistake h
    cases kind with
    | name text id =>
      rw [pickDevice] at h
      split at h
      · cases h
      · cases h
        rfl
    | _ => cases h

/-- Reads the name of a device. -/
def readDevice (net : Network) : Reader (String × Device) :=
  readSymbol .name (pickDevice net)

theorem readDevice_eq (net : Network) (input : List Symbol) : readDevice net input =
    match deviceAt net input with
    | .ok found => .ok (found, input.tail)
    | .error failure => .error failure := by
  rcases input with _ | ⟨⟨kind, offset⟩, rest⟩
  · rfl
  · cases kind with
    | name text id =>
      simp only [readDevice, readSymbol, pickDevice, deviceAt]
      cases net.device? id <;> rfl
    | _ => rfl

theorem Hereditary.readDevice (h : Hereditary P) (net : Network) :
    P (String × Device) (readDevice net) :=
  h.readSymbol _ (pickDevice_sound net)

def pickFlipFlopPort (id : NameId) : Pick OutputRef
  | .keyword .q _ => some (.ok ⟨id, .q⟩)
  | .keyword .qbar _ => some (.ok ⟨id, .qbar⟩)
  | _ => none

theorem pickFlipFlopPort_sound (id : NameId) : (pickFlipFlopPort id).Sound := by
  constructor
  · rintro ⟨kind, offset⟩ h
    cases kind with
    | keyword word id => cases word <;> first | rfl | cases h
    | _ => cases h
  · intro kind mistake h
    cases kind with
    | keyword word id => cases word <;> cases h
    | _ => cases h

theorem readFlipFlopPort_eq (id : NameId) :
    readFlipFlopPort id = readSymbol .outputPort (pickFlipFlopPort id) := by
  funext input
  rcases input with _ | ⟨⟨kind, offset⟩, rest⟩
  · rfl
  · cases kind with
    | keyword word id => cases word <;> rfl
    | _ => rfl

/-- A dot that nothing belongs behind. -/
def pickDot : Pick OutputRef
  | .fullStop => some (.error .unexpectedDot)
  | _ => none

theorem pickDot_sound : pickDot.Sound := by
  constructor
  · rintro ⟨kind, offset⟩ h
    cases kind <;> first | rfl | cases h
  · intro kind mistake h
    cases kind <;> cases h
    rfl

/-- What follows the name of the device in a reference to an output. -/
def readOutputEnd (text : String) (device : Device) : Reader OutputRef :=
  if device.kind = .dtype then do
    readPortDot text
    readFlipFlopPort device.id
  else trySymbol ⟨device.id, .main⟩ pickDot

theorem readOutput_eq (net : Network) :
    readOutput net = readDevice net >>= fun found => readOutputEnd found.1 found.2 := by
  funext input
  rw [bind_apply, readDevice_eq, readOutput]
  cases deviceAt net input with
  | error failure => rfl
  | ok found =>
    obtain ⟨text, device⟩ := found
    dsimp only [readOutputEnd]
    by_cases hdtype : device.kind = .dtype
    · simp only [if_pos hdtype, bind_apply]
      rcases input.tail with _ | ⟨⟨kind, offset⟩, rest⟩
      · rfl
      · cases kind <;> rfl
    · simp only [if_neg hdtype]
      rcases input.tail with _ | ⟨⟨kind, offset⟩, rest⟩
      · rfl
      · cases kind <;> rfl

theorem Hereditary.readOutputEnd (h : Hereditary P) (text : String) (device : Device) :
    P OutputRef (readOutputEnd text device) := by
  unfold Definition.readOutputEnd
  split
  · refine h.bind (h.readPortDot text) fun _ => ?_
    rw [readFlipFlopPort_eq]
    exact h.readSymbol _ (pickFlipFlopPort_sound device.id)
  · exact h.trySymbol _ pickDot_sound

theorem Hereditary.readOutput (h : Hereditary P) (net : Network) : P OutputRef (readOutput net) := by
  rw [readOutput_eq]
  exact h.bind (h.readDevice net) fun found => h.readOutputEnd found.1 found.2

/-- Whatever follows the name of the device, a reference to an output stays within the symbols after
that name. -/
theorem readOutput_staysWithin_tail {net : Network} {input : List Symbol} {found : String × Device}
    (h : deviceAt net input = .ok found) : StaysWithin input.tail (readOutput net input) := by
  rw [readOutput_eq, bind_apply, readDevice_eq, h]
  exact StaysWithin.hereditary.readOutputEnd found.1 found.2 input.tail

theorem readOutput_staysWithin (net : Network) (input : List Symbol) :
    StaysWithin input (readOutput net input) :=
  StaysWithin.hereditary.readOutput net input

/-- A reference to an output takes at least one symbol. -/
theorem length_readOutput_lt {net : Network} {input left : List Symbol} {output : OutputRef}
    (h : readOutput net input = .ok (output, left)) : left.length < input.length := by
  rw [readOutput_eq, bind_apply] at h
  split at h
  · next found rest hdevice =>
    have hwithin := StaysWithin.hereditary.readOutputEnd found.1 found.2 rest
    rw [h] at hwithin
    exact Nat.lt_of_le_of_lt (List.IsSuffix.length_le hwithin) (length_readSymbol_lt hdevice)
  · cases h

/-! ## Inputs -/

/-- The input that a keyword names. -/
def portOfKeyword? : Keyword → Option InputPort
  | .data => some .data
  | .clk => some .clk
  | .set => some .set
  | .clear => some .clear
  | _ => none

/-- The input that the symbol after the dot names, and how it is written there. -/
def portAt (input : List Symbol) : Except Failure (String × InputPort) :=
  let named : Option (String × Option InputPort) :=
    match input with
    | ⟨.keyword word _, _⟩ :: _ => some (word.spelling, portOfKeyword? word)
    | ⟨.name text _, _⟩ :: _ => some (text, (InputPort.number? text).map .gate)
    | _ => none
  match named with
  | some (text, some port) => .ok (text, port)
  | _ => .error (.wanted .inputPort input)

/-- Reads the input of a device named after the dot. -/
def readPort (text : String) (device : Device) (input : List Symbol) :
    Except Failure (InputRef × List Symbol) :=
  match portAt input with
  | .error failure => .error failure
  | .ok (portText, port) =>
    if device.hasInput port then .ok (⟨device.id, port⟩, input.tail)
    else .error (.mistake (.portAbsent text portText) input)

/-- Reads a reference to an input. -/
def readInput (net : Network) : Reader InputRef := fun input =>
  match deviceAt net input with
  | .error failure => .error failure
  | .ok (text, device) =>
    match input.tail with
    | ⟨.fullStop, _⟩ :: port => readPort text device port
    | rest => .error (.wanted .inputDot rest)

/-- The port that a word names, if the device has it. -/
def pickPort (text : String) (device : Device) : Pick InputRef :=
  let check (portText : String) (port : InputPort) : Except Mistake InputRef :=
    if device.hasInput port then .ok ⟨device.id, port⟩ else .error (.portAbsent text portText)
  fun
  | .keyword word _ => (portOfKeyword? word).map (check word.spelling)
  | .name portText _ => (InputPort.number? portText).map fun number => check portText (.gate number)
  | _ => none

theorem pickPort_sound (text : String) (device : Device) : (pickPort text device).Sound := by
  constructor
  · rintro ⟨kind, offset⟩ h
    cases kind with
    | keyword word id => cases word <;> first | rfl | cases h
    | name portText id => rfl
    | _ => cases h
  · intro kind mistake h
    have hcheck : ∀ portText port, (if device.hasInput port then
        (.ok ⟨device.id, port⟩ : Except Mistake InputRef)
        else .error (.portAbsent text portText)) = .error mistake → mistake.isRead := by
      intro portText port heq
      split at heq
      · cases heq
      · cases heq
        rfl
    cases kind with
    | keyword word id =>
      obtain ⟨port, -, heq⟩ := Option.map_eq_some_iff.1 h
      exact hcheck _ _ heq
    | name portText id =>
      obtain ⟨number, -, heq⟩ := Option.map_eq_some_iff.1 h
      exact hcheck _ _ heq
    | _ => cases h

theorem readPort_eq (text : String) (device : Device) :
    readPort text device = readSymbol .inputPort (pickPort text device) := by
  funext input
  rcases input with _ | ⟨⟨kind, offset⟩, rest⟩
  · rfl
  · cases kind with
    | keyword word id =>
      simp only [readPort, portAt, readSymbol, pickPort]
      cases portOfKeyword? word with
      | none => rfl
      | some port =>
        dsimp only [Option.map_some]
        split <;> rfl
    | name portText id =>
      simp only [readPort, portAt, readSymbol, pickPort]
      cases InputPort.number? portText with
      | none => rfl
      | some number =>
        dsimp only [Option.map_some]
        split <;> rfl
    | _ => rfl

/-- The dot in front of the port of an input. -/
def pickInputDot : Pick Unit
  | .fullStop => some (.ok ())
  | _ => none

theorem pickInputDot_sound : pickInputDot.Sound := by
  constructor
  · rintro ⟨kind, offset⟩ h
    cases kind <;> first | rfl | cases h
  · intro kind mistake h
    cases kind <;> cases h

theorem readInput_eq (net : Network) : readInput net = (do
    let (text, device) ← readDevice net
    readSymbol .inputDot pickInputDot
    readPort text device) := by
  funext input
  rw [bind_apply, readDevice_eq, readInput]
  cases deviceAt net input with
  | error failure => rfl
  | ok found =>
    dsimp only
    rw [bind_apply]
    rcases input.tail with _ | ⟨⟨kind, offset⟩, rest⟩
    · rfl
    · cases kind <;> rfl

theorem Hereditary.readInput (h : Hereditary P) (net : Network) : P InputRef (readInput net) := by
  rw [readInput_eq]
  refine h.bind (h.readDevice net) fun found => h.bind (h.readSymbol _ pickInputDot_sound) fun _ => ?_
  rw [readPort_eq]
  exact h.readSymbol _ (pickPort_sound found.1 found.2)

theorem readPort_staysWithin (text : String) (device : Device) (input : List Symbol) :
    StaysWithin input (readPort text device input) := by
  rw [readPort_eq]
  exact StaysWithin.hereditary.readSymbol _ (pickPort_sound text device) input

end LogicCircuit.Definition
