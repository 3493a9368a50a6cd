import LogicCircuit.Definition.Symbol
import LogicCircuit.Diagnostic

/-!
# Scanners

A scanner reads the symbols of one text in order, interning their texts, and keeps the log of what
has been reported about the text. It notes the statement boundaries that it passes, so that a report
can show the statement it is about.

`Scanner.throughEnd` reads all symbols of a definition. Nothing after the first `END` is read.
-/

namespace LogicCircuit.Definition

/-- A scanner over one text. -/
structure Scanner where
  cursor : Cursor
  document : Text.Document
  /-- The offset of the symbol read last, 0 before the first. -/
  lastOffset : Nat
  diagnostics : Array Diagnostic
  deriving DecidableEq, Repr

namespace Scanner

/-- A scanner at the start of a text, with all keywords interned. -/
def new (text : String) (names : NameTable) : Scanner × NameTable :=
  let (_, names) := names.internAll (Keyword.all.map Keyword.spelling)
  ({ cursor := ⟨text.toList, 0⟩
     document := .ofText text
     lastOffset := 0
     diagnostics := #[] },
   names)

/-! ## Reading -/

/-- Reads the next symbol; `none` at the end of the text, however often it is asked. -/
def next (scanner : Scanner) (names : NameTable) : Option Symbol × Scanner × NameTable :=
  let gap := scanner.cursor.skipGap
  let offset := gap.after.offset
  let document := scanner.document.addBoundaries gap.boundaries
  match gap.after.lexeme? with
  | none => (none, { scanner with cursor := gap.after, document, lastOffset := offset }, names)
  | some (lexeme, cursor) =>
    let document := if lexeme = .semicolon then document.addBoundary offset else document
    let (kind, names) := SymbolKind.ofLexeme names lexeme
    (some ⟨kind, offset⟩, { scanner with cursor, document, lastOffset := offset }, names)

/-- Reading a symbol uses up at least one character. -/
theorem length_next_lt {scanner after : Scanner} {names names' : NameTable} {symbol : Symbol}
    (h : scanner.next names = (some symbol, after, names')) :
    after.cursor.rest.length < scanner.cursor.rest.length := by
  unfold next at h
  simp only at h
  split at h
  · exact absurd (congrArg Prod.fst h) (by simp)
  · next lexeme cursor hlex =>
    have hlt := Cursor.length_lexeme?_lt hlex
    have hle := scanner.cursor.length_skipGap_le
    cases h
    exact Nat.lt_of_lt_of_le hlt hle

-- `h` is used by `decreasing_by`, which the unused-variable linter does not see.
set_option linter.unusedVariables false in
/-- Reads all symbols through the first `END`, or to the end of the text if there is none. -/
def throughEnd (scanner : Scanner) (names : NameTable) : List Symbol × Scanner × NameTable :=
  match h : scanner.next names with
  | (none, scanner, names) => ([], scanner, names)
  | (some symbol, after, names) =>
    if symbol.isKeyword .endWord then ([symbol], after, names)
    else
      let (symbols, scanner, names) := after.throughEnd names
      (symbol :: symbols, scanner, names)
  termination_by scanner.cursor.rest.length
  decreasing_by exact length_next_lt h

/-! ## Reporting -/

/-- Adds a diagnostic to the log. -/
def log (scanner : Scanner) (diagnostic : Diagnostic) : Scanner :=
  { scanner with diagnostics := scanner.diagnostics.push diagnostic }

/-- Adds a diagnostic to the log, with an excerpt if it is about a place. -/
def report (scanner : Scanner) (diagnostic : Diagnostic) (place : Option Nat) : Scanner :=
  match place with
  | some offset =>
    scanner.log { diagnostic with excerpt := some (scanner.document.excerpt offset) }
  | none => scanner.log diagnostic

/-- Reports an error about the symbol read last, with or without showing the place. -/
def reportLast (scanner : Scanner) (message : String) (caret : Bool) : Scanner :=
  scanner.report (.error message) (if caret then some scanner.lastOffset else none)

/-- The number of errors reported so far. -/
def errorCount (scanner : Scanner) : Nat :=
  Diagnostic.errorCount scanner.diagnostics.toList

end Scanner

end LogicCircuit.Definition
