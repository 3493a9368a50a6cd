/-!
# Logic levels

The two levels a wire carries, and how a level is read from a definition and shown in a report.
-/

namespace LogicCircuit

/-- A logic level. -/
inductive Level where
  | low
  | high
  deriving DecidableEq, Repr, Inhabited

namespace Level

/-- The level that stands for a truth value. -/
def ofBool : Bool → Level
  | false => low
  | true => high

def isHigh : Level → Bool
  | low => false
  | high => true

/-- The opposite level. -/
def invert : Level → Level
  | low => high
  | high => low

/-- Reads a level from its one-digit literal. No other spelling of 0 or 1 is a level. -/
def ofLiteral? (text : String) : Option Level :=
  if text = "0" then some low
  else if text = "1" then some high
  else none

/-- The name a report gives to the level. -/
def label : Level → String
  | low => "LOW"
  | high => "HIGH"

@[simp] theorem isHigh_ofBool (b : Bool) : (ofBool b).isHigh = b := by
  cases b <;> rfl

@[simp] theorem invert_invert (l : Level) : l.invert.invert = l := by
  cases l <;> rfl

end Level

end LogicCircuit
