/-!
# Blank characters

The characters with the Unicode property White_Space. They separate symbols in a definition and are
trimmed from the lines that a diagnostic shows.
-/

namespace LogicCircuit.Text

/-- The code points with the property White_Space, as first and last of each stretch. -/
def blankRanges : List (Nat × Nat) :=
  [(0x09, 0x0D), (0x20, 0x20), (0x85, 0x85), (0xA0, 0xA0), (0x1680, 0x1680), (0x2000, 0x200A),
    (0x2028, 0x2029), (0x202F, 0x202F), (0x205F, 0x205F), (0x3000, 0x3000)]

/-- Whether a character has the property White_Space. -/
def isBlank (c : Char) : Bool :=
  blankRanges.any fun (first, last) => first ≤ c.toNat && c.toNat ≤ last

/-- Drops the blanks at the end. -/
def trimEnd (chars : List Char) : List Char :=
  (chars.reverse.dropWhile isBlank).reverse

/-- Drops the blanks at the start. -/
def trimStart (chars : List Char) : List Char :=
  chars.dropWhile isBlank

end LogicCircuit.Text
