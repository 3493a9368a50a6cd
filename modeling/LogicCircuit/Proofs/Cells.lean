import LogicCircuit.Proofs.Waveforms
import LogicCircuit.Proofs.Integrity

/-!
# Cells — devices that keep what they show apart from what they store

An `Element` has one copy of everything: QBAR is computed from the stored bit, and a switch shows the
level it is set to because there is no other. A cell has two. The levels on its outputs and its hidden
state are separate fields next to its kind, every change has to be made in both, and nothing in the types
keeps a clock from holding the state of a flip-flop. Counting is done on words, so it may fail.

The operations on cells and on boards of cells are written here with what they do when the fields do not
match, which is mostly nothing, and with all checks on words. `Device.stored` is the cell of a device:

* **`stored_update`** — a change of one device is a change of one cell.
* **`foldl_visit_stored`** — one pass over a board is one sweep, and its flag tells whether the sweep
  changed anything.
* **`step?_stored`** — a cycle of a board is a cycle of the network.
-/

namespace LogicCircuit

/-! ## Cells -/

/-- What a device keeps besides the levels on its outputs. -/
inductive Hidden where
  | stateless
  | switch (level : Level)
  | dtype (memory lastClk : Level)
  | clock (counter : Nat)
  | siggen (phase : Nat)
  deriving DecidableEq, Repr

/-- A device whose kind, outputs and hidden state are fields of their own. -/
structure Cell where
  id : NameId
  name : String
  kind : DeviceKind
  drivers : List (InputPort × Option OutputRef)
  outputs : List (OutputPort × Level)
  hidden : Hidden
  deriving DecidableEq, Repr

namespace Cell

def hasInput (cell : Cell) (port : InputPort) : Bool :=
  (cell.drivers.map Prod.fst).contains port

def hasOutput (cell : Cell) (port : OutputPort) : Bool :=
  (cell.outputs.map Prod.fst).contains port

def driver? (cell : Cell) (port : InputPort) : Option OutputRef :=
  (cell.drivers.lookup port).join

def level? (cell : Cell) (port : OutputPort) : Option Level :=
  cell.outputs.lookup port

def wire (cell : Cell) (port : InputPort) (source : OutputRef) : Cell :=
  { cell with
    drivers := cell.drivers.map fun (declared, driver) =>
      (declared, if declared = port then some source else driver) }

/-- Puts a level on an output, and tells whether that changed it. -/
def setOutput (cell : Cell) (port : OutputPort) (level : Level) : Cell × Bool :=
  match cell.level? port with
  | some current =>
    if current = level then (cell, false)
    else
      ({ cell with
          outputs := cell.outputs.map fun (declared, old) =>
            (declared, if declared = port then level else old) },
        true)
  | none => (cell, false)

/-- The state and the levels of a cold start. A switch that holds a level keeps it. -/
def initial? (cell : Cell) : Option (Hidden × List (OutputPort × Level)) :=
  match cell.kind with
  | .switch initial =>
    let level := match cell.hidden with
      | .switch level => level
      | _ => initial
    some (.switch level, [(.main, level)])
  | .gate _ _ => some (.stateless, [(.main, .low)])
  | .dtype => some (.dtype .low .low, [(.q, .low), (.qbar, .high)])
  | .clock _ => some (.clock 0, [(.main, .low)])
  | .siggen waveform => (waveform.seek? 0).map fun level => (.siggen 0, [(.main, level)])

/-- Goes back to the state of a cold start, and to its levels on the outputs that are declared. -/
def reset? (cell : Cell) : Option Cell :=
  cell.initial?.map fun (hidden, levels) =>
    levels.foldl (fun cell (port, level) => (cell.setOutput port level).1) { cell with hidden := hidden }

/-- A new cell: outputs LOW, the state of the kind, and a reset. -/
def new? (id : NameId) (name : String) (kind : DeviceKind) : Option Cell :=
  let hidden := match kind with
    | .switch initial => .switch initial
    | .gate _ _ => .stateless
    | .dtype => .dtype .low .low
    | .clock _ => .clock 0
    | .siggen _ => .siggen 0
  reset?
    { id, name, kind, hidden
      drivers := kind.inputPorts.map fun port => (port, none)
      outputs := kind.outputPorts.map fun port => (port, .low) }

/-- One cycle of a clock or a signal generator that holds the state of one. There is no answer when a sum
is no word, a divisor is zero, or the runs of a waveform end too early. -/
def advance? (cell : Cell) : Option Cell :=
  match cell.kind, cell.hidden with
  | .clock halfPeriod, .clock counter =>
    let current := (cell.level? .main).getD .low
    (Word.add? counter 1).map fun counter =>
      if halfPeriod ≤ counter then ({ cell with hidden := .clock 0 }.setOutput .main current.invert).1
      else { cell with hidden := .clock counter }
  | .siggen waveform, .siggen phase =>
    (waveform.seek? phase).bind fun level =>
      ((Word.add? phase 1).bind fun next => Word.rem? next waveform.length).map fun next =>
        ({ cell with hidden := .siggen next }.setOutput .main level).1
  | _, _ => some cell

/-- Latches a cell that holds the state of a flip-flop. -/
def latch (cell : Cell) (data clk set clear : Level) : Cell :=
  match cell.hidden with
  | .dtype memory lastClk =>
    let stored := nextMemory memory lastClk data clk set clear
    let shown := ({ cell with hidden := .dtype stored clk }.setOutput .q stored).1
    (shown.setOutput .qbar stored.invert).1
  | _ => cell

/-- Sets a cell that holds the state of a switch. -/
def setSwitch? (cell : Cell) (level : Level) : Option Cell :=
  match cell.hidden with
  | .switch _ => some ({ cell with hidden := .switch level }.setOutput .main level).1
  | _ => none

end Cell

/-! ## Boards -/

/-- Cells in the order of their definition. -/
structure Board where
  cells : List Cell
  deriving DecidableEq, Repr

namespace Board

def empty : Board :=
  { cells := [] }

def ids (board : Board) : List NameId :=
  board.cells.map Cell.id

def cell? (board : Board) (id : NameId) : Option Cell :=
  board.cells.find? fun cell => cell.id = id

/-- Puts a cell in the place of the one with its handle. -/
def put (board : Board) (cell : Cell) : Board :=
  { cells := board.cells.map fun old => if old.id = cell.id then cell else old }

def drivenLevel (board : Board) (driver : Option OutputRef) : Level :=
  (driver.bind fun source => (board.cell? source.device).bind fun cell => cell.level? source.port).getD
    .low

/-- Adds a cell, unless the handle is taken or the qualifier is not legal; no answer when the cell cannot be
reset. -/
def addCell? (board : Board) (id : NameId) (name : String) (kind : DeviceKind) : Option Board :=
  if (board.cell? id).isSome ∨ kind.badQualifier?.isSome then some board
  else (Cell.new? id name kind).map fun cell => { cells := board.cells ++ [cell] }

/-- Adds a wire between ports that exist, if the input has no driver yet. -/
def connect (board : Board) (source : OutputRef) (target : InputRef) : Board :=
  match board.cell? source.device, board.cell? target.device with
  | some driver, some cell =>
    if driver.hasOutput source.port ∧ cell.hasInput target.port ∧ cell.driver? target.port = none then
      board.put (cell.wire target.port source)
    else board
  | _, _ => board

def setSwitch (board : Board) (id : NameId) (level : Level) : Board :=
  match (board.cell? id).bind fun cell => cell.setSwitch? level with
  | some cell => board.put cell
  | none => board

def coldStart? (board : Board) : Option Board :=
  (board.cells.mapM Cell.reset?).map Board.mk

def advanceSources? (board : Board) : Option Board :=
  (board.cells.mapM Cell.advance?).map Board.mk

/-- The level that a cell without delay would show now: a gate that of its inputs, a switch the one it
holds. -/
def combinational? (board : Board) (cell : Cell) : Option Level :=
  match cell.kind, cell.hidden with
  | .gate op _, _ => some (op.evaluate (cell.drivers.map fun (_, driver) => board.drivenLevel driver))
  | .switch _, .switch level => some level
  | _, _ => none

/-- One turn of a pass, with whether anything has changed in the pass so far. -/
def visit : Board × Bool → NameId → Board × Bool
  | (board, changed), id =>
    match board.cell? id with
    | some cell =>
      match board.combinational? cell with
      | some level =>
        let (shown, changes) := cell.setOutput .main level
        (board.put shown, changed || changes)
      | none => (board, changed)
    | none => (board, changed)

/-- Passes until one of them changes nothing, at most `limit` of them: the board that is left, and whether
it settled. -/
def settle (board : Board) : Nat → Board × Bool
  | 0 => (board, false)
  | limit + 1 =>
    match board.ids.foldl visit (board, false) with
    | (next, true) => next.settle limit
    | (next, false) => (next, true)

/-- The turn of a cell when the flip-flops latch. -/
def latch (board : Board) (id : NameId) : Board :=
  match board.cell? id with
  | some cell =>
    let level port := board.drivenLevel (cell.driver? port)
    if cell.kind = .dtype then
      board.put (cell.latch (level .data) (level .clk) (level .set) (level .clear))
    else board
  | none => board

/-- One cycle. The flip-flops latch if the board settles. -/
def step? (board : Board) (fixedLimit : Option Nat) : Option Board :=
  board.advanceSources?.map fun advanced =>
    match advanced.settle (fixedLimit.getD (board.cells.length + 1)) with
    | (settled, true) => settled.ids.foldl latch settled
    | (unsettled, false) => unsettled

/-- The board after an operation, which leaves it as it is when it is refused. -/
def perform? (board : Board) : Network.Operation → Option Board
  | .addDevice id name kind => board.addCell? id name kind
  | .connect _ source target => some (board.connect source target)
  | .setSwitch id level => some (board.setSwitch id level)
  | .coldStart => board.coldStart?
  | .step fixedLimit _ => board.step? fixedLimit

/-- The board after several operations, if all counting stays within words. -/
def performAll? (board : Board) (operations : List Network.Operation) : Option Board :=
  operations.foldlM perform? board

end Board

/-! ## Storing -/

namespace Element

/-- The levels on the outputs. -/
def shown : Element → List (OutputPort × Level)
  | switch _ level => [(.main, level)]
  | gate _ _ output => [(.main, output)]
  | dtype memory _ => [(.q, memory), (.qbar, memory.invert)]
  | clock _ _ output => [(.main, output)]
  | siggen _ _ output => [(.main, output)]

/-- The state that is not on an output. -/
def hidden : Element → Hidden
  | switch _ level => .switch level
  | gate _ _ _ => .stateless
  | dtype memory lastClk => .dtype memory lastClk
  | clock _ counter _ => .clock counter
  | siggen _ phase _ => .siggen phase

/-- Counters are where counting keeps them: a clock below its half period, which is a word, and a signal
generator below the length of its waveform. -/
def InBounds : Element → Prop
  | clock halfPeriod counter _ => counter < halfPeriod ∧ halfPeriod < UInt64.size
  | siggen waveform phase _ => phase < waveform.length
  | _ => True

/-- A kind fixes which outputs there are, and their order. -/
theorem map_fst_shown (e : Element) : e.shown.map Prod.fst = e.kind.outputPorts := by
  cases e <;> rfl

theorem lookup_shown (e : Element) (port : OutputPort) : e.shown.lookup port = e.output? port := by
  cases e <;> cases port <;> rfl

end Element

namespace Device

variable {device : Device}

/-- The cell of a device. -/
def stored (device : Device) : Cell where
  id := device.id
  name := device.name
  kind := device.kind
  drivers := device.drivers
  outputs := device.element.shown
  hidden := device.element.hidden

/-- What a cell shows is what the device would compute for the port. -/
theorem level?_stored (device : Device) (port : OutputPort) :
    device.stored.level? port = device.output? port :=
  device.element.lookup_shown port

theorem hasOutput_stored (device : Device) (port : OutputPort) :
    device.stored.hasOutput port = device.hasOutput port := by
  rw [Cell.hasOutput, hasOutput, outputPorts, kind, ← Element.map_fst_shown]
  rfl

end Device

/-! ### One output, or two -/

namespace Cell

variable {id : NameId} {name : String} {kind : DeviceKind}
  {drivers : List (InputPort × Option OutputRef)} {hidden : Hidden} {old new : Level}

@[simp] theorem setOutput_main :
    setOutput ⟨id, name, kind, drivers, [(.main, old)], hidden⟩ .main new
      = (⟨id, name, kind, drivers, [(.main, new)], hidden⟩, decide (old ≠ new)) := by
  cases old <;> cases new <;> rfl

@[simp] theorem setOutput_q {other : Level} :
    (setOutput ⟨id, name, kind, drivers, [(.q, old), (.qbar, other)], hidden⟩ .q new).1
      = ⟨id, name, kind, drivers, [(.q, new), (.qbar, other)], hidden⟩ := by
  cases old <;> cases new <;> rfl

@[simp] theorem setOutput_qbar {other : Level} :
    (setOutput ⟨id, name, kind, drivers, [(.q, other), (.qbar, old)], hidden⟩ .qbar new).1
      = ⟨id, name, kind, drivers, [(.q, other), (.qbar, new)], hidden⟩ := by
  cases old <;> cases new <;> rfl

end Cell

/-! ### Operations on one cell -/

namespace Device

variable {device : Device}

/-- A cold start finds its levels at phase 0, where the walk cannot fail. -/
theorem reset?_stored (device : Device) :
    device.stored.reset? = some (device.withElement device.element.reset).stored := by
  obtain ⟨id, name, drivers, element⟩ := device
  -- only a generator has a walk to make; for the other kinds the levels of a cold start are constants
  cases element with
  | siggen waveform phase output =>
    have hseek := (waveform.seek?_eq_some 0).1
    simp [stored, Cell.reset?, Cell.initial?, kind, Element.kind, Element.shown, Element.hidden,
      Element.reset, withElement, hseek]
  | _ =>
    simp [stored, Cell.reset?, Cell.initial?, kind, Element.kind, Element.shown, Element.hidden,
      Element.reset, withElement, Level.invert]

/-- A cell can always be made. It comes out as that of a new device, whose reset is the same one. -/
theorem new?_eq (id : NameId) (name : String) (kind : DeviceKind) :
    Cell.new? id name kind = some (Device.new id name kind).stored := by
  cases kind with
  | siggen waveform =>
    have hseek := (waveform.seek?_eq_some 0).1
    simp [Cell.new?, Cell.reset?, Cell.initial?, Device.new, stored, Device.kind, Element.kind,
      Element.ofKind, Element.shown, Element.hidden, DeviceKind.outputPorts, hseek]
  | _ =>
    simp [Cell.new?, Cell.reset?, Cell.initial?, Device.new, stored, Device.kind, Element.kind,
      Element.ofKind, Element.shown, Element.hidden, DeviceKind.outputPorts, Level.invert]

/-- **Counting stays within words** where the counters are in bounds: the count after the next one is at
most the bound, and the bound is a word. -/
theorem advance?_stored (h : device.element.InBounds) :
    device.stored.advance? = some (device.withElement device.element.advance).stored := by
  obtain ⟨id, name, drivers, element⟩ := device
  cases element with
  | clock halfPeriod counter output =>
    -- the sum is at most the half period, which is a word
    obtain ⟨hcounter, hhalf⟩ : counter < halfPeriod ∧ halfPeriod < UInt64.size := h
    have hadd : Word.add? counter 1 = some (counter + 1) := by
      apply Word.add?_eq_some
      omega
    -- both sides turn the output over at the same count
    by_cases htoggle : halfPeriod ≤ counter + 1
    · simp [stored, Cell.advance?, Cell.level?, kind, Element.kind, Element.shown, Element.hidden,
        Element.advance, withElement, hadd, htoggle]
    · simp [stored, Cell.advance?, kind, Element.kind, Element.shown, Element.hidden,
        Element.advance, withElement, hadd, htoggle]
  | siggen waveform phase output =>
    have hphase : phase < waveform.length := h
    have hadd : Word.add? phase 1 = some (phase + 1) := by
      apply Word.add?_eq_some
      -- the phase after the last one is the length, and that is a word
      have hlength : waveform.length < UInt64.size := waveform.total_lt
      omega
    have hrem := Word.rem?_eq_some (a := phase + 1) waveform.length_pos
    have hseek := (waveform.seek?_eq_some phase).1
    simp [stored, Cell.advance?, kind, Element.kind, Element.shown, Element.hidden,
      Element.advance, withElement, hadd, hrem, hseek]
  | _ => rfl

/-- Only a flip-flop has something to latch, and its two outputs are written from one bit. -/
theorem latch_stored (device : Device) (data clk set clear : Level) :
    device.stored.latch data clk set clear
      = (device.withElement (device.element.latch data clk set clear)).stored := by
  obtain ⟨id, name, drivers, element⟩ := device
  cases element with
  | dtype memory lastClk =>
    simp [stored, Cell.latch, kind, Element.kind, Element.shown, Element.hidden, Element.latch,
      withElement, nextMemory]
  | _ => rfl

/-- Only a cell that holds a level can be set. It shows the level at once. -/
theorem setSwitch?_stored (device : Device) (level : Level) :
    device.stored.setSwitch? level
      = (device.element.setSwitch? level).map fun element => (device.withElement element).stored := by
  obtain ⟨id, name, drivers, element⟩ := device
  cases element with
  | switch initial old =>
    simp [stored, Cell.setSwitch?, kind, Element.kind, Element.shown, Element.hidden,
      Element.setSwitch?, withElement]
  | _ => rfl

/-- A level put on a gate is a change exactly when it is another one. -/
theorem setOutput_stored_gate {op : GateOp} {inputs : Nat} {output : Level}
    (h : device.element = .gate op inputs output) (level : Level) :
    device.stored.setOutput .main level
      = ((device.withElement (.gate op inputs level)).stored, decide (output ≠ level)) := by
  simp [stored, h, kind, Element.kind, Element.shown, Element.hidden, withElement]

/-- A switch shows the level it holds. -/
theorem setOutput_stored_switch {initial level : Level} (h : device.element = .switch initial level) :
    device.stored.setOutput .main level = (device.stored, false) := by
  simp [stored, h, Element.shown]

end Device

/-! ### Operations on a board -/

namespace Network

variable {net : Network} {id : NameId} {device : Device}

/-- The board of a network. -/
def stored (net : Network) : Board :=
  { cells := net.devices.map Device.stored }

theorem ids_stored (net : Network) : net.stored.ids = net.ids := by
  rw [Board.ids, stored, List.map_map]
  rfl

theorem cell?_stored (net : Network) (id : NameId) :
    net.stored.cell? id = (net.device? id).map Device.stored := by
  rw [Board.cell?, stored, List.find?_map]
  rfl

/-- A wire carries to a board what it carries to the network. -/
theorem drivenLevel_stored (net : Network) (driver : Option OutputRef) :
    net.stored.drivenLevel driver = net.drivenLevel driver := by
  cases driver with
  | none => rfl
  | some source =>
    simp only [Board.drivenLevel, drivenLevel, Option.bind_some, level?, cell?_stored]
    cases net.device? source.device with
    | none => rfl
    | some device => simp [Device.level?_stored]

/-- **A change of one device is a change of one cell.** -/
theorem stored_update (hnet : net.Distinct) (hdevice : net.device? id = some device)
    -- in a list without repetitions of handles the change finds one device only, the one that is put
    (change : Device → Device) (hid : (change device).id = id) :
    (net.update id change).stored = net.stored.put (change device).stored := by
  rw [stored, stored, Board.put, update, List.map_map, List.map_map]
  congr 1
  apply List.map_congr_left
  intro found hmem
  show (if found.id = id then change found else found).stored
    = if found.id = (change device).id then (change device).stored else found.stored
  rw [hid]
  by_cases hfound : found.id = id
  · rw [if_pos hfound, if_pos hfound, hnet.eq_of_device? hdevice hmem hfound]
  · rw [if_neg hfound, if_neg hfound]

/-- To put a cell where it is already changes nothing. -/
theorem put_stored (hnet : net.Distinct) (hdevice : net.device? id = some device) :
    net.stored.put device.stored = net.stored := by
  obtain ⟨-, hid⟩ := mem_of_device? hdevice
  have hsame : net.update id (fun found => found) = net := by
    rw [update]
    simp
  have h := stored_update hnet hdevice (fun found => found) hid
  rw [hsame] at h
  exact h.symm

/-- A device is refused on both sides or added on both sides; only the reason for a refusal is lost. -/
theorem stored_addDevice (net : Network) (id : NameId) (name : String) (kind : DeviceKind) :
    net.stored.addCell? id name kind
      = some ((net.addDevice id name kind).toOption.getD net).stored := by
  rw [Board.addCell?, addDevice, cell?_stored, Option.isSome_map]
  by_cases hpresent : (net.device? id).isSome
  · simp [hpresent, Except.toOption]
  · cases hbad : kind.badQualifier? with
    | some reason => simp [hpresent, Except.toOption]
    | none => simp [hpresent, Except.toOption, Device.new?_eq, stored]

/-- A wire is refused on both sides or added on both sides. Ports and drivers are the same ones in a cell. -/
theorem stored_connect (hnet : net.Distinct) (names : NameTable) (source : OutputRef)
    (target : InputRef) : net.stored.connect source target
      = ((net.connect names source target).toOption.getD net).stored := by
  rw [Board.connect, connect, cell?_stored, cell?_stored]
  cases hdriver : net.device? source.device with
  | none => rfl
  | some driver =>
    cases hdevice : net.device? target.device with
    | none =>
      simp only [Option.map_some, Option.map_none]
      split <;> rfl
    | some device =>
      have hinput : device.stored.hasInput target.port = device.hasInput target.port := rfl
      have hdriven : device.stored.driver? target.port = device.driver? target.port := rfl
      simp only [Option.map_some, Device.hasOutput_stored, hinput, hdriven]
      by_cases houtput : driver.hasOutput source.port
      · by_cases hport : device.hasInput target.port
        · cases hfree : device.driver? target.port with
          | some other => simp [houtput, hport, Except.toOption]
          | none =>
            obtain ⟨-, hid⟩ := mem_of_device? hdevice
            have hwire : (device.wire target.port source).id = target.device := hid
            simp [houtput, hport, Except.toOption,
              stored_update hnet hdevice (fun found => found.wire target.port source) hwire]
            rfl
        · simp [houtput, hport, Except.toOption]
      · simp [houtput, Except.toOption]

theorem stored_setSwitch (hnet : net.Distinct) (id : NameId) (level : Level) :
    net.stored.setSwitch id level = ((net.setSwitch? id level).getD net).stored := by
  rw [Board.setSwitch, setSwitch?, cell?_stored]
  cases hdevice : net.device? id with
  | none => rfl
  | some device =>
    have hid : device.id = id := (mem_of_device? hdevice).2
    simp only [Option.map_some, Option.bind_some, Device.setSwitch?_stored]
    cases helement : device.element.setSwitch? level with
    | none => simp [helement]
    | some element =>
      simp [helement, stored_update hnet hdevice (fun found => found.withElement element) hid]

/-- What is done to every cell, when it is always what is done to the device. -/
theorem mapM_stored {step? : Cell → Option Cell} {step : Device → Device} (devices : List Device)
    (h : ∀ device ∈ devices, step? device.stored = some (step device).stored) :
    (devices.map Device.stored).mapM step? = some ((devices.map step).map Device.stored) := by
  induction devices with
  | nil => rfl
  | cons device rest ih =>
    have hfirst := h device List.mem_cons_self
    have hrest := ih fun other hother => h other (List.mem_cons_of_mem device hother)
    -- each device is taken through by itself, and no cell stops the walk
    simp [List.mapM_cons, hfirst, hrest]

theorem stored_coldStart (net : Network) : net.stored.coldStart? = some net.coldStart.stored := by
  rw [Board.coldStart?, stored, mapM_stored net.devices fun device _ => device.reset?_stored]
  rfl

/-- All counters are where counting keeps them. -/
def InBounds (net : Network) : Prop :=
  ∀ device ∈ net.devices, device.element.InBounds

/-- A cycle of the sources finds every counter in bounds, so every cell has an answer. -/
theorem stored_advanceSources (h : net.InBounds) :
    net.stored.advanceSources? = some net.advanceSources.stored := by
  rw [Board.advanceSources?, stored,
    mapM_stored net.devices fun device hmem => Device.advance?_stored (h device hmem)]
  rfl

/-! ### Passes -/

/-- What the parts without delay would show: the function of a gate, the level of a switch. -/
theorem combinational?_stored (net : Network) (device : Device) :
    net.stored.combinational? device.stored =
      match device.element with
      | .gate op _ _ => some (op.evaluate (net.inputLevels device))
      | .switch _ level => some level
      | _ => none := by
  obtain ⟨id, name, drivers, element⟩ := device
  cases element with
  | gate op inputs output =>
    simp [Board.combinational?, Device.stored, Device.kind, Element.kind, inputLevels,
      drivenLevel_stored]
  | _ => rfl

section Gate

variable {op : GateOp} {inputs : Nat} {output : Level}

/-- Driving a gate changes the network exactly when it changes the level. -/
theorem relax_gate_ne_iff (hdevice : net.device? id = some device)
    (helement : device.element = .gate op inputs output) :
    net.relax id ≠ net ↔ output ≠ op.evaluate (net.inputLevels device) := by
  apply not_congr
  constructor
  · -- what is left as it was had shown the level already
    intro hsame
    have hdriven := device?_relax_gate hdevice helement
    rw [hsame, hdevice, Option.some.injEq] at hdriven
    have hgate := congrArg Device.element hdriven
    rw [helement, Device.element_withElement, Element.gate.injEq] at hgate
    exact hgate.2.2
  · intro hlevel
    simp [relax, hdevice, helement, ← hlevel]

/-- To drive a gate is to put its cell with another level, if there is another one to put. -/
theorem stored_relax_gate (hnet : net.Distinct) (hdevice : net.device? id = some device)
    (helement : device.element = .gate op inputs output) :
    (net.relax id).stored = net.stored.put
      (device.withElement (.gate op inputs (op.evaluate (net.inputLevels device)))).stored := by
  -- a gate that is at its level already is not touched, and its cell is put where it is
  by_cases hlevel : op.evaluate (net.inputLevels device) = output
  · have hrelax : net.relax id = net := by simp [relax, hdevice, helement, hlevel]
    have hsame : device.withElement device.element = device := rfl
    rw [hrelax, hlevel, ← helement, hsame, put_stored hnet hdevice]
  · have hid : device.id = id := (mem_of_device? hdevice).2
    simp only [relax, hdevice, helement, if_neg hlevel]
    rw [stored_update hnet hdevice _ hid, helement]
    rfl

end Gate

/-- **One turn.** Only gates can change: a switch without delay would show what it shows already. -/
theorem visit_stored (hnet : net.Distinct) (changed : Bool) (id : NameId) :
    Board.visit (net.stored, changed) id
      = ((net.relax id).stored, changed || decide (net.relax id ≠ net)) := by
  cases hdevice : net.device? id with
  | none => simp [Board.visit, relax, cell?_stored, hdevice]
  | some device =>
    have hshown := combinational?_stored net device
    cases helement : device.element with
    | gate op inputs output =>
      rw [helement] at hshown
      simp [Board.visit, cell?_stored, hdevice, hshown, Device.setOutput_stored_gate helement,
        stored_relax_gate hnet hdevice helement, relax_gate_ne_iff hdevice helement]
    | switch initial level =>
      rw [helement] at hshown
      simp [Board.visit, cell?_stored, hdevice, hshown, Device.setOutput_stored_switch helement,
        put_stored hnet hdevice, relax, helement]
    | _ =>
      rw [helement] at hshown
      simp [Board.visit, cell?_stored, hdevice, hshown, relax, helement]

/-- **One pass.** Its flag is set exactly when the network comes out changed: no gate is visited twice, so
what one turn changes no later turn takes back. -/
theorem foldl_visit_stored (visited : List NameId) (hnet : net.Distinct) (hnodup : visited.Nodup)
    (changed : Bool) :
    visited.foldl Board.visit (net.stored, changed)
      = ((visited.foldl relax net).stored, changed || decide (visited.foldl relax net ≠ net)) := by
  induction visited generalizing net changed with
  | nil => simp
  | cons first rest ih =>
    -- handles stay, so the induction can go on from the network after the first turn
    have hnext : (net.relax first).Distinct := hnet.of_drawing_eq (drawing_relax net first)
    -- a pass that changes nothing has not changed anything on the way
    have hback : (first :: rest).foldl relax net = net → net.relax first = net := by
      intro hsame
      apply relax_eq_self
      apply balancedAt_of_foldl_relax _ net hnodup _ first List.mem_cons_self
      intro output
      rw [hsame]
    rw [List.foldl_cons, visit_stored hnet, ih hnext (List.nodup_cons.1 hnodup).2, List.foldl_cons]
    rw [List.foldl_cons] at hback
    by_cases hfirst : net.relax first = net
    · -- the flag is set by the first turn that changes something, and never cleared
      simp [hfirst]
    · have hend : rest.foldl relax (net.relax first) ≠ net := fun h => hfirst (hback h)
      simp [hfirst, hend]

/-- **Settling.** The flag stops a board where the network stops. -/
theorem settle_stored (hnet : net.Distinct) (made limit : Nat) :
    net.stored.settle limit
      = ((net.settleFrom made limit).1.stored, (net.settleFrom made limit).2.isSome) := by
  induction limit generalizing net made with
  | zero => rfl
  | succ limit ih =>
    -- the flag of a pass is the question the network asks, whether the sweep has changed it
    have hpass : net.stored.ids.foldl Board.visit (net.stored, false)
        = (net.sweep.stored, decide (net.sweep ≠ net)) := by
      rw [ids_stored, foldl_visit_stored net.ids hnet hnet, Bool.false_or]
      rfl
    have hnext : net.sweep.Distinct := hnet.of_drawing_eq (drawing_sweep net)
    by_cases hsweep : net.sweep = net
    · simp [Board.settle, settleFrom, hpass, hsweep]
    · simp [Board.settle, settleFrom, hpass, hsweep, ih hnext (made + 1)]

/-! ### Cycles -/

/-- A turn of latching changes flip-flops only, and reads the four inputs through the drivers. -/
theorem latch_stored (hnet : net.Distinct) (id : NameId) :
    net.stored.latch id = (net.latch id).stored := by
  cases hdevice : net.device? id with
  | none => simp [Board.latch, latch, cell?_stored, hdevice]
  | some device =>
    have hid : device.id = id := (mem_of_device? hdevice).2
    have hkind : device.stored.kind = device.element.kind := rfl
    have hdriver : ∀ port, device.stored.driver? port = device.driver? port := fun _ => rfl
    cases helement : device.element with
    | dtype memory lastClk =>
      simp [Board.latch, latch, cell?_stored, hdevice, hkind, hdriver, helement, Element.kind,
        drivenLevel_stored, Device.latch_stored, inputLevel]
      rw [stored_update hnet hdevice _ hid]
    | _ => simp [Board.latch, latch, cell?_stored, hdevice, hkind, helement, Element.kind]

/-- Turns are taken in order, and each sees what those before it have latched. -/
theorem foldl_latch_stored (visited : List NameId) (hnet : net.Distinct) :
    visited.foldl Board.latch net.stored = (visited.foldl latch net).stored := by
  induction visited generalizing net with
  | nil => rfl
  | cons id rest ih =>
    have hnext : (net.latch id).Distinct := hnet.of_drawing_eq (drawing_latch hnet id)
    rw [List.foldl_cons, latch_stored hnet, ih hnext, List.foldl_cons]

/-- **A cycle of a board is a cycle of the network**, if the counters are in bounds when it begins. -/
theorem step?_stored (sim : Simulator) (hnet : sim.network.Distinct) (h : sim.network.InBounds) :
    sim.network.stored.step? sim.fixedLimit = some sim.step.1.network.stored := by
  have hadvanced : sim.network.advanceSources.Distinct := hnet.of_drawing_eq drawing_advanceSources
  have hlimit : sim.fixedLimit.getD (sim.network.stored.cells.length + 1) = sim.sweepLimit := by
    rw [stored, List.length_map]
    rfl
  -- the board is given as many passes as the network, so both stop at the same one
  have hsettle := settle_stored hadvanced 0 sim.sweepLimit
  rw [Board.step?, stored_advanceSources h, Option.map_some, hlimit, hsettle]
  -- latching follows on both sides or on neither
  rcases Simulator.step_cases sim with ⟨settled, passes, hend, hstep⟩ | ⟨unsettled, hend, hstep⟩
  · have hdistinct : settled.Distinct := hnet.of_drawing_eq (Simulator.drawing_settled hend)
    rw [settle] at hend
    simp only [hend, hstep, Option.isSome_some, ids_stored]
    rw [foldl_latch_stored settled.ids hdistinct]
    rfl
  · rw [settle] at hend
    simp [hend, hstep]

end Network

end LogicCircuit
