import LogicCircuit.Text.Decimal

/-!
# Counts as arguments

Reads a 64-bit count from a text that is a number and nothing else: decimal digits, perhaps after a
plus sign. The text is read from left to right and the first thing wrong with it is the answer.
-/

namespace LogicCircuit.Text

/-- Why a text is not a count. -/
inductive CountError where
  | empty
  | invalidDigit
  | tooLarge
  deriving DecidableEq, Repr

namespace CountError

def message : CountError → String
  | empty => "cannot parse integer from empty string"
  | invalidDigit => "invalid digit found in string"
  | tooLarge => "number too large to fit in target type"

end CountError

/-- Reads digits after a number already read. -/
def readDigits (value : Nat) : List Char → Except CountError Nat
  | [] => .ok value
  | c :: rest =>
    if c.isDigit then
      let value := 10 * value + Decimal.digitValue c
      if Decimal.maxCount < value then .error .tooLarge else readDigits value rest
    else .error .invalidDigit

/-- Reads a count. -/
def readCount (text : String) : Except CountError Nat :=
  match text.toList with
  | [] => .error .empty
  | ['+'] => .error .invalidDigit
  | '+' :: digits => readDigits 0 digits
  | digits => readDigits 0 digits

end LogicCircuit.Text
