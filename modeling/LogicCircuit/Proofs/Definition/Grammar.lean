import LogicCircuit.Definition.Statement
import LogicCircuit.Proofs.NameTable
import Mathlib.Algebra.GroupWithZero.Nat

/-!
# The language of definitions — grammar and static rules

What a definition may look like and what it declares, without saying how it is read.

## The architecture

* **`Token`** — a symbol without its handle and its place; `tokens` are those of a text.
* **`Statement`** — the statements of the grammar. `Statement.spell` is how a statement is written:
  the grammar is what can be spelled.
* **`Scope`** — what the statements so far have declared, by name.
* **`Scope.Accepts`** — the static rules, one for each statement, and what the statement declares.
* **`Scope.circuit`** — the circuit of what has been declared.
-/

namespace LogicCircuit.Definition

/-! ## Tokens -/

inductive Token where
  | fullStop
  | semicolon
  | keyword (word : Keyword)
  | number (digits : String)
  | name (text : String)
  | invalid (c : Char)
  deriving DecidableEq, Repr

namespace Token

def ofLexeme : Lexeme → Token
  | .fullStop => fullStop
  | .semicolon => semicolon
  | .word text =>
    match Keyword.ofSpelling? text with
    | some word => keyword word
    | none => name text
  | .number digits => number digits
  | .stray c => invalid c

end Token

-- `h` is used by `decreasing_by`, which the unused-variable linter does not see.
set_option linter.unusedVariables false in
/-- The tokens of what is left of a text. -/
def Cursor.tokens (cursor : Cursor) : List Token :=
  match h : cursor.skipGap.after.lexeme? with
  | none => []
  | some (lexeme, next) => Token.ofLexeme lexeme :: next.tokens
  termination_by cursor.rest.length
  decreasing_by exact Nat.lt_of_lt_of_le (Cursor.length_lexeme?_lt h) cursor.length_skipGap_le

def tokens (text : String) : List Token :=
  Cursor.tokens ⟨text.toList, 0⟩

/-! ## Grammar -/

/-- The word for a kind of gate. -/
def gateWord : GateOp → Keyword
  | .and => .and
  | .or => .or
  | .nand => .nand
  | .nor => .nor
  | .xor => .xor

/-- The literal for a level. -/
def levelLiteral : Level → String
  | .low => "0"
  | .high => "1"

/-- One stretch of a waveform: a level `for` a number of `cycles`. -/
structure Stretch where
  level : Level
  digits : String
  deriving DecidableEq, Repr

def Stretch.spell (stretch : Stretch) : List Token :=
  [.number (levelLiteral stretch.level), .keyword .forWord, .number stretch.digits,
    .keyword .cycles]

/-- What stands between `as` and the semicolon. XOR gates are written without a count. -/
inductive Body where
  | switch (level : Level)
  | gate (op : GateOp) (hop : op ≠ .xor) (digits : String)
  | xor
  | dtype
  | clock (digits : String)
  | siggen (first : Stretch) (others : List Stretch)
  deriving DecidableEq, Repr

def Body.spell : Body → List Token
  | switch level => [.keyword .switch, .number (levelLiteral level), .keyword .state]
  | gate op _ digits => [.keyword (gateWord op), .number digits, .keyword .inputs]
  | xor => [.keyword .xor]
  | dtype => [.keyword .dtype]
  | clock digits => [.keyword .clock, .keyword .period, .number digits]
  | siggen first others =>
    .keyword .siggen :: (first :: others).flatMap Stretch.spell ++ [.keyword .waveform]

/-- An output: the name of a device, alone or with `.Q` or `.QBAR`. -/
structure Output where
  device : String
  port : OutputPort
  deriving DecidableEq, Repr

def Output.spell (output : Output) : List Token :=
  match output.port with
  | .main => [.name output.device]
  | .q => [.name output.device, .fullStop, .keyword .q]
  | .qbar => [.name output.device, .fullStop, .keyword .qbar]

/-- How an input is named after the dot. -/
inductive PortName where
  | data
  | clk
  | set
  | clear
  /-- `I` and one or more digits. -/
  | numbered (digits : List Char) (hdigits : Decimal.isLiteral digits = true)
  deriving DecidableEq, Repr

def PortName.token : PortName → Token
  | data => .keyword .data
  | clk => .keyword .clk
  | set => .keyword .set
  | clear => .keyword .clear
  | numbered digits _ => .name (String.ofList ('I' :: digits))

/-- An input as it is written. -/
structure Input where
  device : String
  port : PortName
  deriving DecidableEq, Repr

def Input.spell (input : Input) : List Token :=
  [.name input.device, .fullStop, input.port.token]

inductive Statement where
  | define (first : String) (others : List String) (body : Body)
  | connect (source : Output) (target : Input)
  | monitor (first : Output) (others : List Output)
  deriving DecidableEq, Repr

def Statement.spell : Statement → List Token
  | define first others body =>
    .keyword .define :: (first :: others).map Token.name ++ .keyword .as :: body.spell
      ++ [.semicolon]
  | connect source target =>
    .keyword .connect :: source.spell ++ .keyword .toWord :: target.spell ++ [.semicolon]
  | monitor first others =>
    .keyword .monitor :: (first :: others).flatMap Output.spell ++ [.semicolon]

/-! ## Static rules -/

/-- An input of a device, by the name of the device. -/
structure Pin where
  device : String
  port : InputPort
  deriving DecidableEq, Repr

/-- What has been declared, in order. -/
structure Scope where
  devices : List (String × DeviceKind)
  wires : List (Output × Pin)
  watched : List Output

namespace Scope

def empty : Scope :=
  { devices := [], wires := [], watched := [] }

def names (scope : Scope) : List String :=
  scope.devices.map Prod.fst

def declare (scope : Scope) (names : List String) (kind : DeviceKind) : Scope :=
  { scope with devices := scope.devices ++ names.map fun name => (name, kind) }

def wire (scope : Scope) (source : Output) (target : Pin) : Scope :=
  { scope with wires := scope.wires ++ [(source, target)] }

def watch (scope : Scope) (outputs : List Output) : Scope :=
  { scope with watched := scope.watched ++ outputs }

end Scope

/-- The number of cycles of a stretch. -/
def Stretch.cycles (stretch : Stretch) : Nat :=
  Decimal.count stretch.digits.toList

def Stretch.run (stretch : Stretch) : Run :=
  ⟨stretch.level, stretch.cycles⟩

theorem total_map_run (stretches : List Stretch) :
    Run.total (stretches.map Stretch.run) = (stretches.map Stretch.cycles).sum := by
  rw [Run.total, List.foldr_map, List.sum, List.foldr_map]
  rfl

/-- The waveform that stretches make. -/
def waveformOf (first : Stretch) (others : List Stretch)
    (hpos : ∀ stretch ∈ first :: others, 0 < stretch.cycles)
    (htotal : ((first :: others).map Stretch.cycles).sum < 2 ^ 64) : Waveform where
  runs := (first :: others).map Stretch.run
  runs_ne_nil := List.cons_ne_nil _ _
  cycles_pos := by
    intro run hrun
    obtain ⟨stretch, hstretch, rfl⟩ := List.mem_map.1 hrun
    exact hpos stretch hstretch
  total_lt := by
    rw [total_map_run]
    exact htotal

/-- The kind of device that a body declares. -/
inductive Body.Means : Body → DeviceKind → Prop where
  | switch (level : Level) : Means (.switch level) (.switch level)
  | gate (op : GateOp) (hop : op ≠ .xor) (digits : String)
      (hpos : 1 ≤ Decimal.count digits.toList) (hmax : Decimal.count digits.toList ≤ 16) :
      Means (.gate op hop digits) (.gate op (Decimal.count digits.toList))
  | xor : Means .xor (.gate .xor 2)
  | dtype : Means .dtype .dtype
  | clock (digits : String) (hmin : 2 ≤ Decimal.count digits.toList) :
      Means (.clock digits) (.clock (Decimal.count digits.toList / 2))
  | siggen (first : Stretch) (others : List Stretch)
      (hpos : ∀ stretch ∈ first :: others, 0 < stretch.cycles)
      (htotal : ((first :: others).map Stretch.cycles).sum < 2 ^ 64) :
      Means (.siggen first others) (.siggen (waveformOf first others hpos htotal))

/-- The input that a name stands for on a device of some kind. -/
inductive PortName.Means : PortName → DeviceKind → InputPort → Prop where
  | data : Means .data .dtype .data
  | clk : Means .clk .dtype .clk
  | set : Means .set .dtype .set
  | clear : Means .clear .dtype .clear
  | numbered (digits : List Char) (hdigits : Decimal.isLiteral digits = true) (op : GateOp)
      (inputs : Nat) (hpos : 1 ≤ Decimal.value digits) (hmax : Decimal.value digits ≤ inputs) :
      Means (.numbered digits hdigits) (.gate op inputs) (.gate (Decimal.value digits))

/-- The device has been declared, and it is a flip-flop exactly if the output has a port. -/
def Scope.HasOutput (scope : Scope) (output : Output) : Prop :=
  ∃ kind, (output.device, kind) ∈ scope.devices ∧ (output.port ≠ .main ↔ kind = .dtype)

/-- A statement is accepted in a scope and leads to another one. -/
inductive Scope.Accepts : Scope → Statement → Scope → Prop where
  | define {scope : Scope} {first : String} {others : List String} {body : Body}
      {kind : DeviceKind} (hbody : body.Means kind) (hnodup : (first :: others).Nodup)
      (hnew : ∀ name ∈ first :: others, name ∉ scope.names) :
      Accepts scope (.define first others body) (scope.declare (first :: others) kind)
  | connect {scope : Scope} {source : Output} {target : Input} {kind : DeviceKind}
      {port : InputPort} (hsource : scope.HasOutput source)
      (htarget : (target.device, kind) ∈ scope.devices) (hport : target.port.Means kind port)
      (hfree : ∀ wire ∈ scope.wires, wire.2 ≠ ⟨target.device, port⟩) :
      Accepts scope (.connect source target) (scope.wire source ⟨target.device, port⟩)
  | monitor {scope : Scope} {first : Output} {others : List Output}
      (houtputs : ∀ output ∈ first :: others, scope.HasOutput output)
      (hnodup : (first :: others).Nodup)
      (hnew : ∀ output ∈ first :: others, output ∉ scope.watched) :
      Accepts scope (.monitor first others) (scope.watch (first :: others))

/-- Statements are accepted one after the other. -/
inductive Scope.AcceptsAll : Scope → List Statement → Scope → Prop where
  | nil (scope : Scope) : AcceptsAll scope [] scope
  | cons {scope middle after : Scope} {statement : Statement} {program : List Statement}
      (hfirst : scope.Accepts statement middle) (hothers : AcceptsAll middle program after) :
      AcceptsAll scope (statement :: program) after

/-! ## Circuits of scopes -/

def Output.ref (table : NameTable) (output : Output) : OutputRef :=
  ⟨table.handle output.device, output.port⟩

namespace Scope

/-- The output that is wired to an input. -/
def driver? (scope : Scope) (pin : Pin) : Option Output :=
  (scope.wires.find? fun wire => wire.2 = pin).map Prod.fst

/-- A declared device with its wires, in the state of a cold start. -/
def device (scope : Scope) (table : NameTable) (name : String) (kind : DeviceKind) : Device :=
  { id := table.handle name
    name := name
    drivers := kind.inputPorts.map fun port =>
      (port, (scope.driver? ⟨name, port⟩).map (Output.ref table))
    element := .ofKind kind }

def network (scope : Scope) (table : NameTable) : Network :=
  { devices := scope.devices.map fun (name, kind) => scope.device table name kind }

def monitors (scope : Scope) (table : NameTable) : Monitors :=
  { entries := scope.watched.map fun output => ⟨output.ref table, #[]⟩ }

def circuit (scope : Scope) (table : NameTable) : Circuit :=
  { network := scope.network table, monitors := scope.monitors table }

end Scope

end LogicCircuit.Definition
