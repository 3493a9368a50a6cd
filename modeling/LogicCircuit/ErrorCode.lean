/-!
# Error codes

Reports are numbered. Whoever has a catalogue of reports draws a block of consecutive codes from a
64-bit counter, so that the numbers of two catalogues do not meet.
-/

namespace LogicCircuit

/-- The number of a kind of report. -/
structure ErrorCode where
  number : UInt64
  deriving DecidableEq, Repr

/-- The code as a report shows it: `E` and at least three digits. -/
def ErrorCode.label (code : ErrorCode) : String :=
  let digits := toString code.number.toNat
  "E" ++ String.ofList (List.replicate (3 - digits.length) '0') ++ digits

/-- A block of consecutive codes, from `start` up to but not including `stop`. -/
structure ErrorCodes where
  start : UInt64
  stop : UInt64
  deriving DecidableEq, Repr

namespace ErrorCodes

/-- Number of codes in the block, 0 when its end does not lie after its start. -/
def size (codes : ErrorCodes) : Nat :=
  codes.stop.toNat - codes.start.toNat

def isEmpty (codes : ErrorCodes) : Bool :=
  codes.size = 0

/-- The code at an offset within the block. -/
def get? (codes : ErrorCodes) (offset : Nat) : Option ErrorCode :=
  if offset < codes.size then some ⟨codes.start + UInt64.ofNat offset⟩ else none

/-- Whether a code belongs to the block. -/
def contains (codes : ErrorCodes) (code : ErrorCode) : Bool :=
  codes.start ≤ code.number && code.number < codes.stop

/-- The first codes of the block in order, at most `count` of them. -/
def first (codes : ErrorCodes) (count : Nat) : List ErrorCode :=
  (List.range (min count codes.size)).map fun offset =>
    ⟨codes.start + UInt64.ofNat offset⟩

end ErrorCodes

end LogicCircuit
