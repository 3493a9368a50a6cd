import LogicCircuit.Device
import LogicCircuit.NameTable

/-!
# Networks

The devices of a circuit in the order of their definition, each with the wires that end at it. A
device is added only under a free handle and with a legal qualifier; a wire is added only between
ports that exist, to an input that has no driver yet.

`Network.device?` is the view that the rest of the library reasons with: `device?_update` says what
an update of one device does to it.
-/

namespace LogicCircuit

/-- The largest number of inputs on a gate. -/
def maxGateInputs : Nat :=
  16

/-- What is wrong with the qualifier of a kind, if anything. -/
def DeviceKind.badQualifier? : DeviceKind → Option BadQualifier
  | .gate op inputs =>
    if inputs = 0 ∨ maxGateInputs < inputs then some .gateInputs
    else if op = .xor ∧ inputs ≠ 2 then some .xorInputs
    else none
  | .clock halfPeriod => if halfPeriod = 0 then some .halfPeriod else none
  | .switch _ | .dtype | .siggen _ => none

/-- The devices of a circuit, in definition order. -/
structure Network where
  devices : List Device
  deriving DecidableEq, Repr

namespace Network

def empty : Network :=
  { devices := [] }

def size (net : Network) : Nat :=
  net.devices.length

def isEmpty (net : Network) : Bool :=
  net.devices.isEmpty

/-- The handles of the devices, in definition order. -/
def ids (net : Network) : List NameId :=
  net.devices.map Device.id

/-- The device with a given handle. -/
def device? (net : Network) (id : NameId) : Option Device :=
  net.devices.find? fun device => device.id = id

/-- Changes the device with a given handle. -/
def update (net : Network) (id : NameId) (change : Device → Device) : Network :=
  { devices := net.devices.map fun device => if device.id = id then change device else device }

/-- An update of `id` is seen at `id` and nowhere else. -/
theorem device?_update {net : Network} {id : NameId} {change : Device → Device}
    (hid : ∀ device, (change device).id = device.id) (other : NameId) :
    (net.update id change).device? other =
      if other = id then (net.device? other).map change else net.device? other := by
  obtain ⟨devices⟩ := net
  simp only [device?, update]
  induction devices with
  | nil => simp
  | cons device rest ih =>
    simp only [List.map_cons, List.find?_cons]
    by_cases hdev : device.id = id
    · by_cases hother : other = id
      · simp [hdev, hother, hid]
      · have hne : id ≠ other := fun h => hother h.symm
        simp [hdev, hother, hid, hne, ih]
    · by_cases hother : device.id = other
      · have hne : other ≠ id := fun h => hdev (hother.trans h)
        simp [hother, hne]
      · simp [hdev, hother, ih]

/-! ## Building -/

/-- Adds a device at the end of the definition order. -/
def addDevice (net : Network) (id : NameId) (name : String) (kind : DeviceKind) :
    Except Fault Network :=
  if (net.device? id).isSome then .error (.devicePresent name)
  else match kind.badQualifier? with
    | some reason => .error (.invalidQualifier name reason)
    | none => .ok { devices := net.devices ++ [Device.new id name kind] }

/-- The fault of referring to a device that the network does not have. The table words it. -/
def absentDevice (names : NameTable) (id : NameId) : Fault :=
  match names.textOf id with
  | .ok name => .deviceAbsent name
  | .error misuse => misuse

/-- Adds a wire. The table is only asked for the names of devices that do not exist. -/
def connect (net : Network) (names : NameTable) (source : OutputRef) (target : InputRef) :
    Except Fault Network :=
  match net.device? source.device with
  | none => .error (absentDevice names source.device)
  | some driver =>
    if !driver.hasOutput source.port then .error (.portAbsent driver.name source.port.name)
    else match net.device? target.device with
      | none => .error (absentDevice names target.device)
      | some device =>
        if !device.hasInput target.port then
          .error (.portAbsent device.name target.port.label)
        else if (device.driver? target.port).isSome then
          .error (.inputConnected (device.inputName target.port))
        else
          .ok (net.update target.device fun device => device.wire target.port source)

/-! ## Reading -/

/-- The handles of the devices whose kind passes a test, in definition order. -/
def find (net : Network) (test : DeviceKind → Bool) : List NameId :=
  (net.devices.filter fun device => test device.kind).map Device.id

/-- The inputs that nothing drives, in definition order. -/
def floating (net : Network) : List InputRef :=
  net.devices.flatMap fun device =>
    device.drivers.filterMap fun (port, driver) =>
      if driver.isNone then some ⟨device.id, port⟩ else none

/-- Whether every input has a driver. -/
def fullyWired (net : Network) : Bool :=
  net.floating.isEmpty

/-- The wires, grouped by the device they end at, in definition order. -/
def connections (net : Network) : List Connection :=
  net.devices.flatMap fun device =>
    device.drivers.filterMap fun (port, driver) =>
      driver.map fun source => ⟨source, ⟨device.id, port⟩⟩

/-- The output that drives an input, if any. -/
def driver? (net : Network) (input : InputRef) : Option OutputRef :=
  (net.device? input.device).bind fun device => device.driver? input.port

/-- The present level of an output. -/
def level? (net : Network) (output : OutputRef) : Option Level :=
  (net.device? output.device).bind fun device => device.output? output.port

/-- Every output, in definition order. -/
def outputs (net : Network) : List OutputRef :=
  net.devices.flatMap fun device => device.outputPorts.map fun port => ⟨device.id, port⟩

/-- The display name of an output, such as `G1` or `D1.QBAR`. -/
def signalName? (net : Network) (output : OutputRef) : Option String :=
  (net.device? output.device).bind fun device =>
    if device.hasOutput output.port then some (device.outputName output.port) else none

/-- The display name of an input, such as `G1.I2`. -/
def inputName? (net : Network) (input : InputRef) : Option String :=
  (net.device? input.device).bind fun device =>
    if device.hasInput input.port then some (device.inputName input.port) else none

/-- The display names of the inputs that nothing drives. -/
def floatingNames (net : Network) : List String :=
  net.floating.filterMap net.inputName?

/-! ## Switches and cold starts -/

/-- Sets a switch; `none` if the handle is not that of a switch. -/
def setSwitch? (net : Network) (id : NameId) (level : Level) : Option Network := do
  let device ← net.device? id
  let element ← device.element.setSwitch? level
  return net.update id fun device => device.withElement element

/-- Puts every device into the state of a cold start. -/
def coldStart (net : Network) : Network :=
  { devices := net.devices.map fun device => device.withElement device.element.reset }

end Network

end LogicCircuit
