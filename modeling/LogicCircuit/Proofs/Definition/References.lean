import LogicCircuit.Proofs.Definition.Readers
import LogicCircuit.Proofs.Definition.Scope

/-!
# References — outputs and inputs by name

A reference is read against a network, from symbols whose handles the table issued (`Known`). It is read
exactly if it is spelled and the network has what it refers to: `readOutput_eq_ok` and
`readInput_eq_ok`.

An output without a port is only taken if no dot follows (`Output.Leads`). The number of a gate input is
compared as written, however many digits it has: `PortName.means_iff`.
-/

namespace LogicCircuit.Definition

variable {scope : Scope} {net : Network} {table : NameTable} {input left : List Symbol} {text : String}
  {kind : DeviceKind} {front : List Token}

/-! ## Known symbols -/

/-- The names among the symbols carry their handles in the table. -/
def Known (table : NameTable) (input : List Symbol) : Prop :=
  ∀ symbol ∈ input, ∀ text id, symbol.kind = .name text id → table.id? text = some id

theorem Known.of_suffix (h : Known table input) (hsuffix : left <:+ input) : Known table left :=
  fun symbol hsymbol => h symbol (hsuffix.subset hsymbol)

theorem Known.of_reads (h : Known table input) (hreads : Reads input front left) :
    Known table left :=
  h.of_suffix hreads.suffix

/-- The table knows the names that have been read. -/
theorem Known.isSome_id? (h : Known table input) (hreads : Reads input front left)
    (hmem : Token.name text ∈ front) : (table.id? text).isSome := by
  obtain ⟨symbols, rfl, rfl⟩ := hreads
  obtain ⟨⟨symbolKind, offset⟩, hsymbol, htoken⟩ := List.mem_map.1 hmem
  cases symbolKind with
  | name found id =>
    cases htoken
    rw [h _ (List.mem_append_left _ hsymbol) text id rfl]
    rfl
  | _ => cases htoken

/-- The handle of a symbol is the one that its name has in the table. -/
theorem Known.handle {id : NameId} {offset : Nat} (h : Known table (⟨.name text id, offset⟩ :: left)) :
    table.handle text = id :=
  NameTable.handle_of_id? (h _ List.mem_cons_self text id rfl)

/-! ## Devices -/

/-- A device is found exactly if its name stands in front and it is in the network. -/
theorem deviceAt_eq_ok (hinput : Known table input) {device : Device} :
    deviceAt net input = .ok (text, device) ↔
      Reads input [.name text] input.tail ∧ net.device? (table.handle text) = some device := by
  unfold deviceAt
  constructor
  · intro h
    split at h
    · next found id offset rest =>
      rw [← hinput.handle] at h
      split at h
      · next hfound =>
        cases h
        exact ⟨reads_name.2 ⟨id, offset, rfl⟩, hfound⟩
      · cases h
    · cases h
  · rintro ⟨hname, hdevice⟩
    obtain ⟨id, offset, hcons⟩ := reads_name.1 hname
    rw [hcons] at hinput ⊢
    dsimp only
    rw [← hinput.handle, hdevice]

/-- A device whose name stands in front is found. -/
theorem deviceAt_of_reads (hinput : Known table input) {device : Device}
    (hdevice : net.device? (table.handle text) = some device) (hname : Reads input [.name text] left) :
    deviceAt net input = .ok (text, device) :=
  (deviceAt_eq_ok hinput).2 ⟨reads_tail hname ▸ hname, hdevice⟩

/-! ## Outputs -/

/-- The next symbol is a full stop. -/
def AtDot (input : List Symbol) : Prop :=
  Reads input [.fullStop] input.tail

/-- What begins with another token does not begin with a full stop. -/
theorem not_atDot {token : Token} {back : List Token} (h : Reads input (token :: back) left)
    (htoken : token ≠ .fullStop) : ¬ AtDot input := by
  intro hdot
  obtain ⟨middle, hfirst, -⟩ := reads_cons.1 h
  obtain ⟨symbol, rfl, rfl⟩ := reads_singleton.1 hfirst
  obtain ⟨offset, hcons⟩ := reads_fullStop.1 hdot
  cases hcons
  exact htoken rfl

/-- The port of a flip-flop is one of two words. -/
theorem readFlipFlopPort_eq_ok {id : NameId} {output : OutputRef} :
    readFlipFlopPort id input = .ok (output, left) ↔
      (Reads input [.keyword .q] left ∧ output = ⟨id, .q⟩) ∨
        (Reads input [.keyword .qbar] left ∧ output = ⟨id, .qbar⟩) := by
  unfold readFlipFlopPort
  constructor
  · intro h
    split at h
    · next hq =>
      cases h
      exact .inl ⟨atKeyword_iff.1 hq, rfl⟩
    · split at h
      · next hqbar =>
        cases h
        exact .inr ⟨atKeyword_iff.1 hqbar, rfl⟩
      · cases h
  · rintro (⟨hq, rfl⟩ | ⟨hqbar, rfl⟩)
    · obtain ⟨id, offset, rfl⟩ := reads_keyword.1 hq
      rfl
    · obtain ⟨id, offset, rfl⟩ := reads_keyword.1 hqbar
      rfl

/-- An output stands in front: it is spelled there, and no dot follows a name that stands alone. -/
def Output.Leads (output : Output) (input left : List Symbol) : Prop :=
  Reads input output.spell left ∧ (output.port = .main → ¬ AtDot left)

/-- An output exists if its device does, and it has a port exactly on a flip-flop. -/
theorem ref_mem_outputs_iff (hnet : net.Distinct) {output : Output} :
    output.ref table ∈ net.outputs ↔ ∃ device, net.device? (table.handle output.device) = some device ∧
      (output.port ≠ .main ↔ device.kind = .dtype) := by
  rw [Network.mem_outputs_iff]
  constructor
  · rintro ⟨device, hmem, hid, hport⟩
    exact ⟨device, hnet.device?_eq_some_iff.2 ⟨hmem, hid⟩, Scope.mem_outputPorts_iff.1 hport⟩
  · rintro ⟨device, hdevice, hport⟩
    obtain ⟨hmem, hid⟩ := Network.mem_of_device? hdevice
    exact ⟨device, hmem, hid, Scope.mem_outputPorts_iff.2 hport⟩

/-- What is read as an output stands in front and exists. -/
theorem exists_leads_of_readOutput (hnet : net.Distinct) (hinput : Known table input)
    {ref : OutputRef} (h : readOutput net input = .ok (ref, left)) :
    ∃ output : Output, output.Leads input left ∧ output.ref table ∈ net.outputs ∧
      ref = output.ref table := by
  unfold readOutput at h
  split at h
  · cases h
  · next text device hfound =>
    obtain ⟨hname, hdevice⟩ := (deviceAt_eq_ok hinput).1 hfound
    obtain ⟨-, hid⟩ := Network.mem_of_device? hdevice
    rw [hid] at h
    dsimp only at h
    split at h
    · next offset rest htail =>
      -- a dot follows, so it has to be a flip-flop
      split at h
      · next hkind =>
        rw [htail] at hname
        have hdot : Reads (⟨.fullStop, offset⟩ :: rest) [.fullStop] rest :=
          reads_fullStop.2 ⟨offset, rfl⟩
        have hport : ∀ port, port ≠ .main → (⟨text, port⟩ : Output).ref table ∈ net.outputs :=
          fun port hport => (ref_mem_outputs_iff hnet).2
            ⟨device, hdevice, ⟨fun _ => hkind, fun _ => hport⟩⟩
        rcases readFlipFlopPort_eq_ok.1 h with ⟨hq, rfl⟩ | ⟨hqbar, rfl⟩
        · exact ⟨⟨text, .q⟩, ⟨reads_cons.2 ⟨_, hname, reads_cons.2 ⟨rest, hdot, hq⟩⟩,
            fun h => by cases h⟩, hport .q (by decide), rfl⟩
        · exact ⟨⟨text, .qbar⟩, ⟨reads_cons.2 ⟨_, hname, reads_cons.2 ⟨rest, hdot, hqbar⟩⟩,
            fun h => by cases h⟩, hport .qbar (by decide), rfl⟩
      · cases h
    · next hdot =>
      split at h
      · cases h
      · next hkind =>
        cases h
        refine ⟨⟨text, .main⟩, ⟨hname, fun _ hat => ?_⟩, (ref_mem_outputs_iff hnet).2
          ⟨device, hdevice, ⟨fun h => absurd rfl h, fun h => absurd h hkind⟩⟩, rfl⟩
        obtain ⟨offset, hcons⟩ := reads_fullStop.1 hat
        exact hdot offset _ hcons

/-- The port of a flip-flop is read behind its name and the dot. -/
theorem readOutput_flipFlop (hinput : Known table input) {device : Device}
    (hdevice : net.device? (table.handle text) = some device) (hkind : device.kind = .dtype)
    {token : Token} {ref : OutputRef} (hspell : Reads input [.name text, .fullStop, token] left)
    (hread : ∀ rest, Reads rest [token] left →
      readFlipFlopPort (table.handle text) rest = .ok (ref, left)) :
    readOutput net input = .ok (ref, left) := by
  obtain ⟨rest, hname, hspell'⟩ := reads_cons.1 hspell
  obtain ⟨rest', hstop, hword⟩ := reads_cons.1 hspell'
  obtain ⟨offset, rfl⟩ := reads_fullStop.1 hstop
  obtain ⟨-, hid⟩ := Network.mem_of_device? hdevice
  rw [readOutput, deviceAt_of_reads hinput hdevice hname]
  simp only [← reads_tail hname, hkind, if_true, hid]
  exact hread rest' hword

/-- An output that stands in front and exists is read. -/
theorem readOutput_of_leads (hnet : net.Distinct) (hinput : Known table input) {output : Output}
    (hspell : output.Leads input left) (houtput : output.ref table ∈ net.outputs) :
    readOutput net input = .ok (output.ref table, left) := by
  obtain ⟨text, port⟩ := output
  obtain ⟨device, hdevice, hport⟩ := (ref_mem_outputs_iff hnet).1 houtput
  obtain ⟨hspell, hdot⟩ := hspell
  cases port with
  | main =>
    -- without a port only what is no flip-flop has an output
    have hkind : device.kind ≠ .dtype := fun h => hport.2 h rfl
    obtain ⟨-, hid⟩ := Network.mem_of_device? hdevice
    rw [readOutput, deviceAt_of_reads hinput hdevice hspell]
    simp only [← reads_tail hspell, hkind, if_false, hid]
    split
    · next offset rest => exact absurd (reads_fullStop.2 ⟨offset, rfl⟩) (hdot rfl)
    · rfl
  | q =>
    have hkind : device.kind = .dtype := hport.1 fun h => by cases h
    exact readOutput_flipFlop hinput hdevice hkind hspell fun rest hword =>
      readFlipFlopPort_eq_ok.2 (.inl ⟨hword, rfl⟩)
  | qbar =>
    have hkind : device.kind = .dtype := hport.1 fun h => by cases h
    exact readOutput_flipFlop hinput hdevice hkind hspell fun rest hword =>
      readFlipFlopPort_eq_ok.2 (.inr ⟨hword, rfl⟩)

/-- **Outputs.** An output is read exactly if it stands in front and exists. -/
theorem readOutput_eq_ok (hnet : net.Distinct) (hinput : Known table input) {ref : OutputRef} :
    readOutput net input = .ok (ref, left) ↔
      ∃ output : Output, output.Leads input left ∧ output.ref table ∈ net.outputs ∧
        ref = output.ref table := by
  refine ⟨exists_leads_of_readOutput hnet hinput, ?_⟩
  rintro ⟨output, hspell, houtput, rfl⟩
  exact readOutput_of_leads hnet hinput hspell houtput

/-- The outputs of the network of a scope are those that the scope has. -/
theorem Scope.ref_mem_outputs_network_iff (hlegal : scope.Legal) (hknown : scope.KnownTo table)
    {output : Output} : output.ref table ∈ (scope.network table).outputs ↔ scope.HasOutput output := by
  rw [ref_mem_outputs_iff (Scope.distinct_network hlegal hknown)]
  constructor
  · rintro ⟨device, hdevice, hport⟩
    obtain ⟨kind, hmem, rfl⟩ := (Scope.device?_network hlegal hknown).1 hdevice
    rw [Scope.kind_device] at hport
    exact ⟨kind, hmem, hport⟩
  · rintro ⟨kind, hmem, hport⟩
    refine ⟨_, (Scope.device?_network hlegal hknown).2 ⟨kind, hmem, rfl⟩, ?_⟩
    rw [Scope.kind_device]
    exact hport

/-! ## Inputs -/

/-- The input that a name stands for if the device has it. -/
def PortName.port : PortName → InputPort
  | data => .data
  | clk => .clk
  | set => .set
  | clear => .clear
  | numbered digits _ => .gate (min (Decimal.value digits) InputPort.maxNumber)

/-- A gate with a legal qualifier has no more inputs than are allowed. -/
theorem inputPorts_le_of_badQualifier? {op : GateOp} {inputs : Nat}
    (h : (DeviceKind.gate op inputs).badQualifier? = none) : inputs ≤ maxGateInputs := by
  by_contra hlarge
  have hrange : inputs = 0 ∨ maxGateInputs < inputs := .inr (by omega)
  rw [DeviceKind.badQualifier?, if_pos hrange] at h
  cases h

/-- The inputs of a gate are numbered from 1. -/
theorem mem_inputPorts_gate {op : GateOp} {inputs number : Nat} :
    InputPort.gate number ∈ (DeviceKind.gate op inputs).inputPorts ↔ 1 ≤ number ∧ number ≤ inputs := by
  rw [DeviceKind.inputPorts, List.mem_map]
  constructor
  · rintro ⟨index, hindex, heq⟩
    rw [List.mem_range] at hindex
    cases heq
    omega
  · rintro ⟨hpos, hmax⟩
    exact ⟨number - 1, List.mem_range.2 (by omega), by rw [Nat.sub_add_cancel hpos]⟩

/-- **Names of inputs.** A name has a meaning on a device exactly if it stands for one of its inputs.
A number too large to be held is larger than the number of inputs. -/
theorem PortName.means_iff {portName : PortName} {port : InputPort}
    (hkind : kind.badQualifier? = none) :
    portName.Means kind port ↔ portName.port = port ∧ port ∈ kind.inputPorts := by
  constructor
  · intro h
    refine ⟨?_, Scope.mem_inputPorts_of_means h⟩
    cases h with
    | numbered digits hdigits op inputs hpos hmax =>
      have hle := inputPorts_le_of_badQualifier? hkind
      rw [maxGateInputs] at hle
      -- a number that names an input is small, so the cap does not matter
      rw [PortName.port, InputPort.maxNumber, UInt32.size, Nat.min_eq_left (by omega)]
    | _ => rfl
  · rintro ⟨rfl, hmem⟩
    cases kind with
    | switch _ | clock _ | siggen _ => cases hmem
    | gate op inputs =>
      have hle := inputPorts_le_of_badQualifier? hkind
      rw [maxGateInputs] at hle
      cases portName with
      | numbered digits hdigits =>
        obtain ⟨hpos, hmax⟩ := mem_inputPorts_gate.1 hmem
        rw [InputPort.maxNumber, UInt32.size] at hpos hmax
        have hvalue : min (Decimal.value digits) InputPort.maxNumber = Decimal.value digits := by
          rw [InputPort.maxNumber, UInt32.size]
          omega
        rw [PortName.port, hvalue]
        exact .numbered digits hdigits op inputs (by omega) (by omega)
      | _ =>
        obtain ⟨_, -, heq⟩ := List.mem_map.1 hmem
        cases heq
    | dtype =>
      cases portName with
      | data => exact .data
      | clk => exact .clk
      | set => exact .set
      | clear => exact .clear
      | numbered digits hdigits =>
        revert hmem
        simp [PortName.port, DeviceKind.inputPorts, InputPort.flipFlop]

/-- The name of a gate input is the letter and a number, which is capped. -/
theorem number?_eq_some_iff {number : Nat} : InputPort.number? text = some number ↔
    ∃ digits, Decimal.isLiteral digits = true ∧ text = String.ofList ('I' :: digits) ∧
      number = min (Decimal.value digits) InputPort.maxNumber := by
  unfold InputPort.number?
  constructor
  · intro h
    split at h
    · next digits hchars =>
      split at h
      · next hdigits =>
        cases h
        exact ⟨digits, hdigits, by rw [← hchars, String.ofList_toList], rfl⟩
      · cases h
    · cases h
  · rintro ⟨digits, hdigits, rfl, rfl⟩
    rw [String.toList_ofList]
    exact if_pos hdigits

/-- A keyword that names a port is its token. -/
theorem portOfKeyword?_eq_some_iff {word : Keyword} {port : InputPort} :
    portOfKeyword? word = some port ↔
      ∃ portName : PortName, portName.token = .keyword word ∧ portName.port = port := by
  constructor
  · intro h
    cases word <;> cases h
    · -- the words that name no port are closed by now
      exact ⟨.data, rfl, rfl⟩
    · exact ⟨.clk, rfl, rfl⟩
    · exact ⟨.set, rfl, rfl⟩
    · exact ⟨.clear, rfl, rfl⟩
  · rintro ⟨portName, htoken, rfl⟩
    cases portName <;> cases htoken <;> rfl

/-- What is read as a port is the name of one. -/
theorem portAt_sound {written : String} {port : InputPort}
    (h : portAt input = .ok (written, port)) :
    ∃ portName : PortName, Reads input [portName.token] input.tail ∧ portName.port = port := by
  unfold portAt at h
  dsimp only at h
  split at h
  · next found foundPort hnamed =>
    cases h
    split at hnamed
    · next word id offset rest =>
      obtain ⟨-, hword⟩ := Prod.mk.inj (Option.some.inj hnamed)
      obtain ⟨portName, htoken, rfl⟩ := portOfKeyword?_eq_some_iff.1 hword
      exact ⟨portName, by rw [htoken]; exact reads_keyword.2 ⟨id, offset, rfl⟩, rfl⟩
    · next name id offset rest =>
      obtain ⟨-, hport⟩ := Prod.mk.inj (Option.some.inj hnamed)
      obtain ⟨number, hnumber, rfl⟩ := Option.map_eq_some_iff.1 hport
      obtain ⟨digits, hdigits, rfl, rfl⟩ := number?_eq_some_iff.1 hnumber
      exact ⟨.numbered digits hdigits, reads_name.2 ⟨id, offset, rfl⟩, rfl⟩
    · cases hnamed
  · cases h

/-- The name of a port is read as that port. -/
theorem portAt_complete {portName : PortName}
    (hreads : Reads input [portName.token] input.tail) :
    ∃ written, portAt input = .ok (written, portName.port) := by
  -- the four ports of a flip-flop are keywords, and the inputs of a gate are not
  have hkeyword : ∀ word, portName.token = .keyword word →
      ∃ written, portAt input = .ok (written, portName.port) := by
    intro word htoken
    rw [htoken] at hreads
    obtain ⟨id, offset, hcons⟩ := reads_keyword.1 hreads
    have hport := portOfKeyword?_eq_some_iff.2 ⟨portName, htoken, rfl⟩
    refine ⟨word.spelling, ?_⟩
    rw [hcons, portAt]
    simp only [hport]
  cases portName with
  | data => exact hkeyword .data rfl
  | clk => exact hkeyword .clk rfl
  | set => exact hkeyword .set rfl
  | clear => exact hkeyword .clear rfl
  | numbered digits hdigits =>
    obtain ⟨id, offset, hcons⟩ := reads_name.1 hreads
    have hnumber := number?_eq_some_iff.2 ⟨digits, hdigits, rfl, rfl⟩
    refine ⟨String.ofList ('I' :: digits), ?_⟩
    rw [hcons, portAt]
    simp only [hnumber, Option.map_some]
    rfl

/-- What a written input refers to: a device that has the input of that name. -/
def Input.Refers (table : NameTable) (net : Network) (target : Input) (ref : InputRef) : Prop :=
  ∃ device, net.device? (table.handle target.device) = some device ∧
    target.port.Means device.kind ref.port ∧ ref.device = table.handle target.device

/-- Devices of legal kinds that declare the inputs of their kinds. -/
def Regular (net : Network) : Prop :=
  ∀ device ∈ net.devices, device.kind.badQualifier? = none ∧ device.inputPorts = device.kind.inputPorts

/-- What is read as an input is spelled in front and refers to one that exists. -/
theorem exists_refers_of_readInput (hnet : Regular net) (hinput : Known table input) {ref : InputRef}
    (h : readInput net input = .ok (ref, left)) :
    ∃ target : Input, Reads input target.spell left ∧ target.Refers table net ref := by
  unfold readInput at h
  split at h
  · cases h
  · next text device hfound =>
    obtain ⟨hname, hdevice⟩ := (deviceAt_eq_ok hinput).1 hfound
    obtain ⟨hmem, hid⟩ := Network.mem_of_device? hdevice
    obtain ⟨hkind, hports⟩ := hnet device hmem
    split at h
    · next offset rest htail =>
      rw [htail] at hname
      have hdot : Reads (⟨.fullStop, offset⟩ :: rest) [.fullStop] rest :=
        reads_fullStop.2 ⟨offset, rfl⟩
      unfold readPort at h
      split at h
      · cases h
      · next written port hport =>
        split at h
        · next hhas =>
          cases h
          obtain ⟨portName, hword, hmeans⟩ := portAt_sound hport
          rw [Device.hasInput, hports, List.contains_iff_mem] at hhas
          exact ⟨⟨text, portName⟩, reads_cons.2 ⟨_, hname, reads_cons.2 ⟨rest, hdot, hword⟩⟩,
            device, hdevice, (PortName.means_iff hkind).2 ⟨hmeans, hhas⟩, hid⟩
        · cases h
    · cases h

/-- An input that is spelled in front and exists is read. -/
theorem readInput_of_refers (hnet : Regular net) (hinput : Known table input) {target : Input}
    {ref : InputRef} (hspell : Reads input target.spell left) (hrefers : target.Refers table net ref) :
    readInput net input = .ok (ref, left) := by
  obtain ⟨text, portName⟩ := target
  obtain ⟨device, hdevice, hmeans, href⟩ := hrefers
  obtain ⟨hmem, hid⟩ := Network.mem_of_device? hdevice
  obtain ⟨hkind, hports⟩ := hnet device hmem
  obtain ⟨rest, hname, hspell'⟩ := reads_cons.1 hspell
  obtain ⟨rest', hdot, hword⟩ := reads_cons.1 hspell'
  obtain ⟨offset, rfl⟩ := reads_fullStop.1 hdot
  obtain ⟨hport, hhas⟩ := (PortName.means_iff hkind).1 hmeans
  obtain rfl := reads_tail hword
  obtain ⟨written, hwritten⟩ := portAt_complete hword
  rw [hport] at hwritten
  have hhas' : device.hasInput ref.port := by
    rw [Device.hasInput, hports, List.contains_iff_mem]
    exact hhas
  have hdeviceRef : device.id = ref.device := hid.trans href.symm
  rw [readInput, deviceAt_of_reads hinput hdevice hname]
  simp only [← reads_tail hname, readPort, hwritten, hhas', if_true, hdeviceRef]

/-- **Inputs.** An input is read exactly if it is spelled and refers to one that exists. -/
theorem readInput_eq_ok (hnet : Regular net) (hinput : Known table input) {ref : InputRef} :
    readInput net input = .ok (ref, left) ↔
      ∃ target : Input, Reads input target.spell left ∧ target.Refers table net ref := by
  refine ⟨exists_refers_of_readInput hnet hinput, ?_⟩
  rintro ⟨target, hspell, hrefers⟩
  exact readInput_of_refers hnet hinput hspell hrefers

/-- The network of a legal scope has legal kinds with the inputs that they declare. -/
theorem Scope.regular_network (hlegal : scope.Legal) : Regular (scope.network table) := by
  intro device hdevice
  obtain ⟨⟨name, kind⟩, hmem, rfl⟩ := List.mem_map.1 hdevice
  rw [Scope.kind_device, Scope.inputPorts_device]
  exact ⟨hlegal.legal_kinds _ hmem, rfl⟩

end LogicCircuit.Definition
