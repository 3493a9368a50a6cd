import LogicCircuit.Definition.Keyword
import LogicCircuit.NameTable
import LogicCircuit.Text.Blank
import LogicCircuit.Text.Offset

/-!
# Symbols

A definition is a sequence of lexemes with gaps between them. Gaps are blanks, comments that run
from `%` to the end of the line, and comments between two `#`. A lexeme is a full stop, a semicolon,
a maximal word of ASCII letters and digits that starts with a letter, a maximal run of ASCII digits,
or any other single character.

A symbol is a lexeme with the handle of its text, and with the keywords told apart from the names.
-/

namespace LogicCircuit.Definition

/-- A place in a text: what is left to read and the offset of its first character. -/
structure Cursor where
  rest : List Char
  offset : Nat
  deriving DecidableEq, Repr

/-! ## Gaps -/

/-- What a gap is made of at a place. -/
inductive GapMode where
  | blanks
  | lineComment
  | blockComment
  deriving DecidableEq, Repr

/-- A gap that has been skipped: the place of the first character after it, and the offsets of the
`#` that closed a comment in it, the last one first. -/
structure Gap where
  boundaries : List Nat
  after : Cursor
  deriving DecidableEq, Repr

/-- Skips a gap, given the boundaries met in it so far. -/
def skipGapFrom (mode : GapMode) (boundaries : List Nat) (offset : Nat) : List Char → Gap
  | [] => ⟨boundaries, ⟨[], offset⟩⟩
  | c :: rest =>
    let next := offset + c.utf8Size
    match mode with
    | .blanks =>
      if Text.isBlank c then skipGapFrom .blanks boundaries next rest
      else if c = '%' then skipGapFrom .lineComment boundaries next rest
      else if c = '#' then skipGapFrom .blockComment boundaries next rest
      else ⟨boundaries, ⟨c :: rest, offset⟩⟩
    | .lineComment =>
      if c = '\n' then skipGapFrom .blanks boundaries next rest
      else skipGapFrom .lineComment boundaries next rest
    | .blockComment =>
      if c = '#' then skipGapFrom .blanks (offset :: boundaries) next rest
      else skipGapFrom .blockComment boundaries next rest

/-- Skips the gap at a place. -/
def Cursor.skipGap (cursor : Cursor) : Gap :=
  skipGapFrom .blanks [] cursor.offset cursor.rest

theorem length_skipGapFrom_le (mode : GapMode) (boundaries : List Nat) (offset : Nat)
    (chars : List Char) :
    (skipGapFrom mode boundaries offset chars).after.rest.length ≤ chars.length := by
  induction chars generalizing mode boundaries offset with
  | nil => simp [skipGapFrom]
  | cons c rest ih =>
    have step : ∀ mode boundaries,
        (skipGapFrom mode boundaries (offset + c.utf8Size) rest).after.rest.length
          ≤ rest.length + 1 :=
      fun mode boundaries => Nat.le_succ_of_le (ih mode boundaries _)
    cases mode with
    | blanks =>
      simp only [skipGapFrom, List.length_cons]
      split
      · exact step ..
      · split
        · exact step ..
        · split
          · exact step ..
          · simp
    | lineComment =>
      simp only [skipGapFrom, List.length_cons]
      split <;> exact step ..
    | blockComment =>
      simp only [skipGapFrom, List.length_cons]
      split <;> exact step ..

theorem Cursor.length_skipGap_le (cursor : Cursor) :
    cursor.skipGap.after.rest.length ≤ cursor.rest.length :=
  length_skipGapFrom_le ..

/-! ## Lexemes -/

/-- What the text spells at a place. -/
inductive Lexeme where
  | fullStop
  | semicolon
  | word (text : String)
  | number (digits : String)
  /-- A character that belongs to no other lexeme. -/
  | stray (c : Char)
  deriving DecidableEq, Repr

/-- Splits off the longest run of characters that pass a test. -/
def Cursor.takeRun (cursor : Cursor) (test : Char → Bool) : String × Cursor :=
  let run := cursor.rest.takeWhile test
  (String.ofList run, ⟨cursor.rest.dropWhile test, cursor.offset + Text.byteLength run⟩)

/-- Reads the lexeme at a place that is not in a gap; `none` at the end of the text. -/
def Cursor.lexeme? (cursor : Cursor) : Option (Lexeme × Cursor) :=
  match cursor.rest with
  | [] => none
  | c :: rest =>
    let next : Cursor := ⟨rest, cursor.offset + c.utf8Size⟩
    if c = '.' then some (.fullStop, next)
    else if c = ';' then some (.semicolon, next)
    else if c.isAlpha then
      let (text, next) := cursor.takeRun Char.isAlphanum
      some (.word text, next)
    else if c.isDigit then
      let (digits, next) := cursor.takeRun Char.isDigit
      some (.number digits, next)
    else some (.stray c, next)

/-- A run that takes its first character leaves fewer characters. -/
theorem Cursor.length_takeRun_lt {cursor : Cursor} {c : Char} {rest : List Char}
    {test : Char → Bool} (h : cursor.rest = c :: rest) (hc : test c = true) :
    (cursor.takeRun test).2.rest.length < cursor.rest.length := by
  have := (List.dropWhile_suffix (p := test) (l := rest)).length_le
  simp only [takeRun, h, List.dropWhile_cons, hc, if_true, List.length_cons]
  omega

/-- Reading a lexeme uses up at least one character. -/
theorem Cursor.length_lexeme?_lt {cursor next : Cursor} {lexeme : Lexeme}
    (h : cursor.lexeme? = some (lexeme, next)) : next.rest.length < cursor.rest.length := by
  unfold lexeme? at h
  split at h
  · exact absurd h (by simp)
  · next c rest hrest =>
    have hstep : rest.length < cursor.rest.length := by simp [hrest]
    split at h
    · cases h; exact hstep
    · split at h
      · cases h; exact hstep
      · split at h
        · next halpha =>
          cases h
          exact length_takeRun_lt hrest (by simp [Char.isAlphanum, halpha])
        · split at h
          · next hdigit =>
            cases h
            exact length_takeRun_lt hrest hdigit
          · cases h; exact hstep

/-! ## Symbols -/

/-- What a symbol is. Keywords, names and numbers carry the handle of their text. -/
inductive SymbolKind where
  | fullStop
  | semicolon
  | keyword (word : Keyword) (id : NameId)
  | number (digits : String) (id : NameId)
  | name (text : String) (id : NameId)
  | invalid (c : Char)
  deriving DecidableEq, Repr

namespace SymbolKind

/-- The handle of the symbol's text. -/
def id? : SymbolKind → Option NameId
  | keyword _ id | number _ id | name _ id => some id
  | fullStop | semicolon | invalid _ => none

def isKeyword (kind : SymbolKind) (word : Keyword) : Bool :=
  match kind with
  | keyword found _ => found = word
  | _ => false

/-- The symbol that a lexeme stands for, with its text interned. -/
def ofLexeme (names : NameTable) : Lexeme → SymbolKind × NameTable
  | .fullStop => (fullStop, names)
  | .semicolon => (semicolon, names)
  | .word text =>
    let (id, names) := names.intern text
    match Keyword.ofSpelling? text with
    | some word => (keyword word id, names)
    | none => (name text id, names)
  | .number digits =>
    let (id, names) := names.intern digits
    (number digits id, names)
  | .stray c => (invalid c, names)

end SymbolKind

/-- A symbol of a definition. -/
structure Symbol where
  kind : SymbolKind
  /-- The offset of its first character. -/
  offset : Nat
  deriving DecidableEq, Repr

namespace Symbol

def isKeyword (symbol : Symbol) (word : Keyword) : Bool :=
  symbol.kind.isKeyword word

end Symbol

end LogicCircuit.Definition
