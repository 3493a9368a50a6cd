/-!
# Offsets

A place in a text is the number of bytes before it in UTF-8. These functions measure and cut a list
of characters in bytes.
-/

namespace LogicCircuit.Text

/-- The number of bytes that the characters take in UTF-8. -/
def byteLength (chars : List Char) : Nat :=
  chars.foldr (fun c bytes => c.utf8Size + bytes) 0

/-- The characters that lie wholly within the first `bytes` bytes. -/
def takeBytes : Nat → List Char → List Char
  | _, [] => []
  | bytes, c :: rest =>
    if c.utf8Size ≤ bytes then c :: takeBytes (bytes - c.utf8Size) rest else []

/-- The characters after those that lie wholly within the first `bytes` bytes. -/
def dropBytes : Nat → List Char → List Char
  | _, [] => []
  | bytes, c :: rest =>
    if c.utf8Size ≤ bytes then dropBytes (bytes - c.utf8Size) rest else c :: rest

theorem takeBytes_append_dropBytes (bytes : Nat) (chars : List Char) :
    takeBytes bytes chars ++ dropBytes bytes chars = chars := by
  induction chars generalizing bytes with
  | nil => rfl
  | cons c rest ih =>
    simp only [takeBytes, dropBytes]
    split
    · rw [List.cons_append, ih]
    · rfl

end LogicCircuit.Text
