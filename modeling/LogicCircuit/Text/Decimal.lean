/-!
# Decimal literals

The value of a run of decimal digits, and the largest value that a count in a definition can have.
-/

namespace LogicCircuit.Decimal

/-- The value of one decimal digit. -/
def digitValue (c : Char) : Nat :=
  c.toNat - '0'.toNat

/-- The number that a digit string writes. Leading zeros count for nothing. -/
def value (digits : List Char) : Nat :=
  digits.foldl (fun acc c => 10 * acc + digitValue c) 0

theorem value_eq_ofDigitChars (digits : List Char) : value digits = Nat.ofDigitChars 10 digits 0 := rfl

/-- The number that its decimal spelling writes. -/
@[simp] theorem value_toDigits (n : Nat) : value (Nat.toDigits 10 n) = n :=
  Nat.ofDigitChars_ten_toDigits

/-- Whether the characters are one or more decimal digits and nothing else. -/
def isLiteral (chars : List Char) : Bool :=
  !chars.isEmpty && chars.all Char.isDigit

/-- The largest 64-bit count. -/
def maxCount : Nat :=
  UInt64.size - 1

/-- The count that a number literal stands for: its value, or the largest count when that is too
large to hold. -/
def count (digits : List Char) : Nat :=
  min (value digits) maxCount

end LogicCircuit.Decimal
