import LogicCircuit.Name
import LogicCircuit.Port

/-!
# Wires

References to the outputs and inputs of devices, and the wires between them.
-/

namespace LogicCircuit

/-- An output of a device: the source of wires, and what a monitor watches. -/
structure OutputRef where
  device : NameId
  port : OutputPort
  deriving DecidableEq, Repr

/-- An input of a device: the target of at most one wire. -/
structure InputRef where
  device : NameId
  port : InputPort
  deriving DecidableEq, Repr

/-- A wire from an output to the input it drives. -/
structure Connection where
  source : OutputRef
  target : InputRef
  deriving DecidableEq, Repr

end LogicCircuit
