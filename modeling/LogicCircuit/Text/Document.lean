import LogicCircuit.Text.Blank
import LogicCircuit.Text.Offset

/-!
# Documents and excerpts

A document is a text that is being read, with the statement boundaries met so far. A diagnostic
about a place of a document shows an `Excerpt`: a piece of one line, with a caret under the place.
The piece starts at the first non-blank character after the last boundary before the place, or at
the first one of the line if that boundary lies on an earlier line, and it ends with the line.
-/

namespace LogicCircuit.Text

/-- The piece of text that a diagnostic points into. -/
structure Excerpt where
  /-- The number of the line, counted from 1. -/
  line : Nat
  /-- The position in the line, in characters counted from 1. -/
  column : Nat
  text : String
  /-- The number of characters of `text` before the place. -/
  caret : Nat
  deriving DecidableEq, Repr

/-- A text with the offsets of the statement boundaries met in it, the last one first. -/
structure Document where
  chars : List Char
  boundaries : List Nat
  deriving DecidableEq, Repr

namespace Document

/-- A document of which nothing has been read. -/
def ofText (text : String) : Document :=
  { chars := text.toList, boundaries := [] }

/-- The number of bytes in the text. -/
def size (doc : Document) : Nat :=
  byteLength doc.chars

/-! ## Boundaries -/

/-- Notes the boundary character at an offset. An offset not beyond the last one is ignored. -/
def addBoundary (doc : Document) (offset : Nat) : Document :=
  match doc.boundaries with
  | last :: _ =>
    if last < offset then { doc with boundaries := offset :: doc.boundaries } else doc
  | [] => { doc with boundaries := [offset] }

/-- Notes boundary characters, given the last one first. -/
def addBoundaries (doc : Document) (offsets : List Nat) : Document :=
  offsets.foldr (fun offset doc => doc.addBoundary offset) doc

/-- The offset just after the last boundary before a given one, 0 if there is none. -/
def boundaryBefore (doc : Document) (offset : Nat) : Nat :=
  match doc.boundaries.find? (· < offset) with
  | some boundary => boundary + 1
  | none => 0

/-! ## Lines and columns -/

/-- The number of line ends before an offset, which is the index of its line counted from 0. -/
def lineOf (doc : Document) (offset : Nat) : Nat :=
  (takeBytes offset doc.chars).count '\n'

/-- The characters between the start of the line and an offset. -/
def lineHead (doc : Document) (offset : Nat) : List Char :=
  ((takeBytes offset doc.chars).reverse.takeWhile (· ≠ '\n')).reverse

/-- The characters between an offset and the end of the line. -/
def lineTail (doc : Document) (offset : Nat) : List Char :=
  (dropBytes offset doc.chars).takeWhile (· ≠ '\n')

/-- Line and column of an offset, both counted from 1. An offset past the end is at the end. -/
def position (doc : Document) (offset : Nat) : Nat × Nat :=
  (doc.lineOf offset + 1, (doc.lineHead offset).length + 1)

/-! ## Excerpts -/

/-- The part of the line of an offset that its excerpt shows before the offset. -/
def lead (doc : Document) (offset : Nat) : List Char :=
  let head := doc.lineHead offset
  let lineStart := offset - byteLength head
  trimStart (dropBytes (doc.boundaryBefore offset - lineStart) head)

/-- The excerpt for a place within the text. -/
def excerptWithin (doc : Document) (offset : Nat) : Excerpt :=
  let (line, column) := doc.position offset
  { line
    column
    text := String.ofList (trimEnd (doc.lead offset ++ doc.lineTail offset))
    caret := (doc.lead offset).length }

/-- The offset just after the last character that is not blank. -/
def contentEnd (doc : Document) : Nat :=
  byteLength (trimEnd doc.chars)

/-- The excerpt for the end of the text: the place is just after its last non-blank character. -/
def excerptAtEnd (doc : Document) : Excerpt :=
  doc.excerptWithin doc.contentEnd

/-- The excerpt for an offset. -/
def excerpt (doc : Document) (offset : Nat) : Excerpt :=
  if offset < doc.size then doc.excerptWithin offset else doc.excerptAtEnd

end Document

end LogicCircuit.Text
