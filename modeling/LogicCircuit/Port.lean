import LogicCircuit.Text.Decimal

/-!
# Ports

The inputs and outputs a device can have, and their names in definitions and reports.
-/

namespace LogicCircuit

/-- An input of a device. Gate inputs are numbered from 1. -/
inductive InputPort where
  | gate (number : Nat)
  | data
  | clk
  | set
  | clear
  deriving DecidableEq, Repr

namespace InputPort

/-- The inputs of a D-type flip-flop, in declaration order. -/
def flipFlop : List InputPort :=
  [data, clk, set, clear]

/-- The largest number that a gate input can be written with; a larger literal means this one. -/
def maxNumber : Nat :=
  UInt32.size - 1

/-- Reads the number of a gate input from a name of the form `I<digits>`. Whether a device has an
input of that number is a separate question. -/
def number? (name : String) : Option Nat :=
  match name.toList with
  | 'I' :: digits =>
    if Decimal.isLiteral digits then some (min (Decimal.value digits) maxNumber) else none
  | _ => none

/-- The name of the port as written after the dot. -/
def label : InputPort → String
  | gate number => "I" ++ toString number
  | data => "DATA"
  | clk => "CLK"
  | set => "SET"
  | clear => "CLEAR"

end InputPort

/-- An output of a device: the single unnamed one, or one of the two of a flip-flop. -/
inductive OutputPort where
  | main
  | q
  | qbar
  deriving DecidableEq, Repr

namespace OutputPort

/-- The port's name without the dot, empty for the unnamed output. -/
def name : OutputPort → String
  | main => ""
  | q => "Q"
  | qbar => "QBAR"

/-- What the display name of an output has after the name of its device. -/
def suffix : OutputPort → String
  | main => ""
  | q => ".Q"
  | qbar => ".QBAR"

/-- Reads a port from its name without the dot. -/
def ofName? (name : String) : Option OutputPort :=
  if name = "" then some main
  else if name = "Q" then some q
  else if name = "QBAR" then some qbar
  else none

@[simp] theorem ofName?_name (port : OutputPort) : ofName? port.name = some port := by
  cases port <;> decide

end OutputPort

end LogicCircuit
