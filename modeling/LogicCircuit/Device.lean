import LogicCircuit.Gate
import LogicCircuit.Waveform
import LogicCircuit.Wire

/-!
# Devices

A device has a name, a list of inputs with what drives them, and an `Element`: the working part,
which holds the qualifier it was defined with and the state it is in. Since state and qualifier
belong to one element, a clock never holds the state of a flip-flop, a switch always shows the level
it is set to, and QBAR is always the inverse of Q.

How elements move: `Element.advance` for the sources that run by themselves, `Element.drive` for
gates, `Element.latch` for flip-flops, `Element.setSwitch` for switches, `Element.reset` for all.
-/

namespace LogicCircuit

/-! ## Kinds -/

/-- What a definition says about a device: its kind and the qualifier of that kind. -/
inductive DeviceKind where
  /-- A source the user can flip. -/
  | switch (initial : Level)
  /-- A combinational gate. -/
  | gate (op : GateOp) (inputs : Nat)
  /-- A rising-edge D-type flip-flop with SET and CLEAR. -/
  | dtype
  /-- A square wave that toggles every `halfPeriod` cycles. -/
  | clock (halfPeriod : Nat)
  /-- A repeating programmed waveform. -/
  | siggen (waveform : Waveform)
  deriving DecidableEq, Repr

namespace DeviceKind

/-- The word that names the kind in definitions. -/
def keyword : DeviceKind → String
  | switch _ => "SWITCH"
  | gate op _ => op.label
  | dtype => "DTYPE"
  | clock _ => "CLOCK"
  | siggen _ => "SIGGEN"

/-- The inputs that devices of the kind declare, in order. -/
def inputPorts : DeviceKind → List InputPort
  | gate _ inputs => (List.range inputs).map fun i => .gate (i + 1)
  | dtype => InputPort.flipFlop
  | switch _ | clock _ | siggen _ => []

/-- The outputs that devices of the kind declare, in order. -/
def outputPorts : DeviceKind → List OutputPort
  | dtype => [.q, .qbar]
  | switch _ | gate _ _ | clock _ | siggen _ => [.main]

end DeviceKind

/-! ## Elements -/

/-- The working part of a device: the qualifier of its kind and its present state. -/
inductive Element where
  /-- The level a switch was defined with and the level it is set to. -/
  | switch (initial level : Level)
  /-- The level a gate drives at present. -/
  | gate (op : GateOp) (inputs : Nat) (output : Level)
  /-- The stored bit and the CLK level of the last latched cycle. -/
  | dtype (memory lastClk : Level)
  /-- The cycles since the last toggle and the present level. -/
  | clock (halfPeriod counter : Nat) (output : Level)
  /-- The phase to be shown next and the present level. -/
  | siggen (waveform : Waveform) (phase : Nat) (output : Level)
  deriving DecidableEq, Repr

namespace Element

/-- A new element of the given kind, in the state of a cold start. -/
def ofKind : DeviceKind → Element
  | .switch initial => switch initial initial
  | .gate op inputs => gate op inputs .low
  | .dtype => dtype .low .low
  | .clock halfPeriod => clock halfPeriod 0 .low
  | .siggen waveform => siggen waveform 0 (waveform.levelAt 0)

/-- The kind the element was made for. -/
def kind : Element → DeviceKind
  | switch initial _ => .switch initial
  | gate op inputs _ => .gate op inputs
  | dtype _ _ => .dtype
  | clock halfPeriod _ _ => .clock halfPeriod
  | siggen waveform _ _ => .siggen waveform

/-- The level on an output, if the element has that output. -/
def output? : Element → OutputPort → Option Level
  | switch _ level, .main => some level
  | gate _ _ output, .main => some output
  | dtype memory _, .q => some memory
  | dtype memory _, .qbar => some memory.invert
  | clock _ _ output, .main => some output
  | siggen _ _ output, .main => some output
  | _, _ => none

/-- The state of a cold start. A switch keeps the level it is set to. -/
def reset : Element → Element
  | switch initial level => switch initial level
  | gate op inputs _ => gate op inputs .low
  | dtype _ _ => dtype .low .low
  | clock halfPeriod _ _ => clock halfPeriod 0 .low
  | siggen waveform _ _ => siggen waveform 0 (waveform.levelAt 0)

/-- One cycle of a clock or a signal generator; nothing for other elements. -/
def advance : Element → Element
  | clock halfPeriod counter output =>
    if halfPeriod ≤ counter + 1 then clock halfPeriod 0 output.invert
    else clock halfPeriod (counter + 1) output
  | siggen waveform phase _ =>
    siggen waveform ((phase + 1) % waveform.length) (waveform.levelAt phase)
  | element => element

/-- Puts a level on the output of a gate. -/
def drive (level : Level) : Element → Element
  | gate op inputs _ => gate op inputs level
  | element => element

/-- Latches a flip-flop from the levels of its inputs: SET wins over CLEAR, CLEAR over a rising edge
of CLK, and only a rising edge takes DATA. -/
def latch (data clk set clear : Level) : Element → Element
  | dtype memory lastClk =>
    let stored :=
      if set = .high then .high
      else if clear = .high then .low
      else if lastClk = .low ∧ clk = .high then data
      else memory
    dtype stored clk
  | element => element

/-- Sets a switch; `none` for any other element. -/
def setSwitch? (level : Level) : Element → Option Element
  | switch initial _ => some (switch initial level)
  | _ => none

@[simp] theorem kind_ofKind (kind : DeviceKind) : (ofKind kind).kind = kind := by
  cases kind <;> rfl

@[simp] theorem kind_reset (e : Element) : e.reset.kind = e.kind := by
  cases e <;> rfl

@[simp] theorem kind_advance (e : Element) : e.advance.kind = e.kind := by
  cases e with
  | clock halfPeriod counter output =>
    simp only [advance]
    split <;> rfl
  | _ => rfl

@[simp] theorem kind_drive (level : Level) (e : Element) : (e.drive level).kind = e.kind := by
  cases e <;> rfl

@[simp] theorem kind_latch (data clk set clear : Level) (e : Element) :
    (e.latch data clk set clear).kind = e.kind := by
  cases e <;> rfl

/-- An element shows a level on exactly the outputs its kind declares. -/
theorem output?_isSome_iff (e : Element) (port : OutputPort) :
    (e.output? port).isSome ↔ port ∈ e.kind.outputPorts := by
  cases e <;> cases port <;> simp [output?, kind, DeviceKind.outputPorts]

end Element

/-! ## Devices -/

/-- A device of a network. -/
structure Device where
  id : NameId
  /-- The name as reports show it. -/
  name : String
  /-- The declared inputs in order, each with the output that drives it. -/
  drivers : List (InputPort × Option OutputRef)
  element : Element
  deriving DecidableEq, Repr

namespace Device

/-- A new device with all its inputs unconnected. -/
def new (id : NameId) (name : String) (kind : DeviceKind) : Device :=
  { id := id
    name := name
    drivers := kind.inputPorts.map fun port => (port, none)
    element := .ofKind kind }

def kind (device : Device) : DeviceKind :=
  device.element.kind

def inputPorts (device : Device) : List InputPort :=
  device.drivers.map Prod.fst

def outputPorts (device : Device) : List OutputPort :=
  device.kind.outputPorts

def hasInput (device : Device) (port : InputPort) : Bool :=
  device.inputPorts.contains port

def hasOutput (device : Device) (port : OutputPort) : Bool :=
  device.outputPorts.contains port

/-- The output that drives an input, if the device has that input and it is connected. -/
def driver? (device : Device) (port : InputPort) : Option OutputRef :=
  (device.drivers.lookup port).join

/-- The level on an output, if the device has that output. -/
def output? (device : Device) (port : OutputPort) : Option Level :=
  device.element.output? port

/-- Makes `source` the driver of an input. -/
def wire (device : Device) (port : InputPort) (source : OutputRef) : Device :=
  { device with
    drivers := device.drivers.map fun (declared, driver) =>
      (declared, if declared = port then some source else driver) }

/-- The same device with another element. -/
def withElement (device : Device) (element : Element) : Device :=
  { device with element := element }

/-- The display name of an output. -/
def outputName (device : Device) (port : OutputPort) : String :=
  device.name ++ port.suffix

/-- The display name of an input. -/
def inputName (device : Device) (port : InputPort) : String :=
  device.name ++ "." ++ port.label

end Device

end LogicCircuit
