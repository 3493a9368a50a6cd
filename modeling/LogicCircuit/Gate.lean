import LogicCircuit.Level

/-!
# Gates

The Boolean functions that gates compute.
-/

namespace LogicCircuit

/-- The function of a gate. -/
inductive GateOp where
  | and
  | or
  | nand
  | nor
  | xor
  deriving DecidableEq, Repr

namespace GateOp

/-- The output of a gate over the levels of its inputs. XOR is high when an odd number of them
is. -/
def evaluate (op : GateOp) (inputs : List Level) : Level :=
  Level.ofBool <|
    match op with
    | and => inputs.all Level.isHigh
    | nand => !inputs.all Level.isHigh
    | or => inputs.any Level.isHigh
    | nor => !inputs.any Level.isHigh
    | xor => inputs.countP Level.isHigh % 2 = 1

/-- The word that names the gate in definitions and reports. -/
def label : GateOp → String
  | and => "AND"
  | or => "OR"
  | nand => "NAND"
  | nor => "NOR"
  | xor => "XOR"

end GateOp

end LogicCircuit
