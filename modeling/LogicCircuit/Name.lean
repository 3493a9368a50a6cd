/-!
# Name handles

A device is known by the handle of its name. Handles are issued by the name table, which turns each
distinct text into a small number.
-/

namespace LogicCircuit

/-- The handle of a name. -/
structure NameId where
  index : Nat
  deriving DecidableEq, Repr

/-- The handle as a report shows it. -/
def NameId.label (id : NameId) : String :=
  "#" ++ toString id.index

end LogicCircuit
