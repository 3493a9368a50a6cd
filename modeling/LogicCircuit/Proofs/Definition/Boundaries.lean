import LogicCircuit.Proofs.Definition.Coverage

/-!
# Boundaries — every report about a symbol shows the same excerpt

An excerpt is found among the boundaries that a scanner has noted: the semicolons it has read as symbols
and the `#` it has closed comments with. It notes them while it passes over them, and a `;` or a `#` that
is part of a comment it does not note at all. That is enough where a symbol begins: a mark inside a comment
has the end of the comment behind it, which is a boundary or the end of a line.

* **`Noted`**, **`Current`** — what the boundaries say about the characters that have been read. The
  second does not hold inside a comment, and the character that closes it makes it hold again.
* **`skipGapFrom_notes`** — one gap: by induction on its characters, with the mode they have led to.
* **`Scanned.finds`** — one symbol: where it begins the boundaries are current, and if it is a boundary
  itself, it is noted behind them.
* **`Scanned.call`**, **`Scanned.callAll`** — one call and all calls: boundaries are added to those that
  are there, and none of them lies in front of a symbol that has been read.
* **`excerpt_of_read_symbol`** — so the excerpt for a symbol is the one around its first character, at any
  time after it has been read, and all slices for it are there.
-/

namespace LogicCircuit.Text

variable {front : List Char} {boundaries : List Nat}

/-! ## What has been noted -/

/-- Boundaries, the last one first, lie in what has been read. -/
structure Noted (front : List Char) (boundaries : List Nat) : Prop where
  descending : boundaries.Pairwise (· > ·)
  passed : ∀ boundary ∈ boundaries, boundary < byteLength front

/-- The offset just after the last boundary, 0 if there is none. -/
def boundaryEnd : List Nat → Nat
  | [] => 0
  | last :: _ => last + 1

/-- The last boundary, or the start of the line if that comes later, is as far as the last mark. -/
def Current (front : List Char) (boundaries : List Nat) : Prop :=
  max (boundaryEnd boundaries) (byteLength (throughLast isNewline front))
    = byteLength (throughLast isMark front)

namespace Noted

theorem append (h : Noted front boundaries) (more : List Char) : Noted (front ++ more) boundaries := by
  refine ⟨h.descending, fun boundary hboundary => ?_⟩
  have hlt := h.passed boundary hboundary
  rw [byteLength_append]
  omega

/-- The next character is noted. -/
theorem note (h : Noted front boundaries) (c : Char) :
    Noted (front ++ [c]) (byteLength front :: boundaries) := by
  have hbeyond : byteLength front < byteLength (front ++ [c]) := by
    have hpos := byteLength_pos (List.cons_ne_nil c [])
    rw [byteLength_append]
    omega
  refine ⟨List.pairwise_cons.2 ⟨h.passed, h.descending⟩, ?_⟩
  exact List.forall_mem_cons.2 ⟨hbeyond, (h.append [c]).passed⟩

/-- The last boundary is not behind what has been read. -/
theorem boundaryEnd_le (h : Noted front boundaries) : boundaryEnd boundaries ≤ byteLength front := by
  cases boundaries with
  | nil => exact Nat.zero_le _
  | cons last others => exact h.passed last List.mem_cons_self

end Noted

namespace Current

/-- Characters that are no marks change nothing. -/
theorem append (h : Current front boundaries) {more : List Char} (hmore : ∀ c ∈ more, ¬ isMark c) :
    Current (front ++ more) boundaries := by
  have hline : ∀ c ∈ more, ¬ isNewline c := by
    intro c hc hnewline
    apply hmore c hc
    rw [isMark, of_decide_eq_true hnewline]
    rfl
  rw [Current, throughLast_append isMark front hmore, throughLast_append isNewline front hline]
  exact h

/-- The end of a line is behind all boundaries. -/
theorem newline (h : Noted front boundaries) : Current (front ++ ['\n']) boundaries := by
  have hle := (h.append ['\n']).boundaryEnd_le
  -- a line end is a mark, so what has been read ends with both
  have hline : isNewline '\n' := by decide
  have hmark : isMark '\n' := by decide
  rw [Current, throughLast_concat, throughLast_concat, if_pos hline, if_pos hmark]
  omega

/-- A mark of one byte that is noted is the last boundary. -/
theorem note {c : Char} (hmark : isMark c) (hnewline : c ≠ '\n') (hsize : c.utf8Size = 1) :
    Current (front ++ [c]) (byteLength front :: boundaries) := by
  have hend : byteLength (front ++ [c]) = byteLength front + 1 := by
    rw [byteLength_append]
    show byteLength front + (c.utf8Size + 0) = _
    omega
  have hline : byteLength (throughLast isNewline front) ≤ byteLength front := by
    have hwhole := congrArg byteLength (throughLast_append_sinceLast isNewline front)
    rw [byteLength_append] at hwhole
    omega
  have hstop : ¬ isNewline c := by simpa [isNewline] using hnewline
  rw [Current, throughLast_concat, throughLast_concat, if_neg hstop, if_pos hmark, hend, boundaryEnd]
  omega

end Current

namespace Document

variable {doc doc' : Document}

/-- Boundaries in order, behind those that are there, are added as they are. -/
theorem addBoundaries_eq {more : List Nat} (h : (more ++ doc.boundaries).Pairwise (· > ·)) :
    doc.addBoundaries more = { doc with boundaries := more ++ doc.boundaries } := by
  induction more with
  | nil => rfl
  | cons boundary more ih =>
    obtain ⟨hfirst, hmore⟩ := List.pairwise_cons.1 h
    rw [addBoundaries, List.foldr_cons, ← addBoundaries, ih hmore, addBoundary]
    simp only
    -- the boundary is added behind the others, of which the next one is the last
    split
    · next last others hlast =>
      have hlt : last < boundary := hfirst last (by simp [hlast])
      rw [if_pos hlt, List.cons_append]
    · next hnone => rw [List.cons_append, hnone]

/-- Behind what has been read, all boundaries count. -/
theorem boundaryBefore_eq (h : Noted front doc.boundaries) :
    doc.boundaryBefore (byteLength front) = boundaryEnd doc.boundaries := by
  rw [boundaryBefore]
  cases hboundaries : doc.boundaries with
  | nil => rfl
  | cons last others =>
    have hlt : last < byteLength front := h.passed last (by simp [hboundaries])
    have hfind : (last :: others).find? (· < byteLength front) = some last :=
      List.find?_cons_of_pos (decide_eq_true hlt)
    rw [hfind]
    rfl

/-- Where the boundaries are current, they say where the statement of the next character begins. -/
theorem shows_of_current {back : List Char} {c : Char} (hchars : doc.chars = front ++ c :: back)
    (hsolid : ¬ isBlank c) (hnoted : Noted front doc.boundaries) (hcurrent : Current front doc.boundaries) :
    doc.Shows front c back where
  chars := hchars
  solid := hsolid
  descending := hnoted.descending
  start := by rw [boundaryBefore_eq hnoted, hcurrent]

/-- Boundaries from a place on do not count for it. -/
theorem boundaryBefore_congr {offset : Nat} {more : List Nat}
    (hboundaries : doc'.boundaries = more ++ doc.boundaries)
    (hmore : ∀ boundary ∈ more, offset ≤ boundary) :
    doc'.boundaryBefore offset = doc.boundaryBefore offset := by
  have hnone : more.find? (· < offset) = none := by
    rw [List.find?_eq_none]
    intro boundary hboundary
    simpa using hmore boundary hboundary
  rw [boundaryBefore, boundaryBefore, hboundaries, List.find?_append, hnone, Option.none_or]

/-- What is shown of a place does not change when boundaries from there on are noted. -/
theorem Shows.later {front back : List Char} {c : Char} {more : List Nat} (h : doc.Shows front c back)
    (hchars : doc'.chars = doc.chars) (hboundaries : doc'.boundaries = more ++ doc.boundaries)
    (hdescending : doc'.boundaries.Pairwise (· > ·))
    (hmore : ∀ boundary ∈ more, byteLength front ≤ boundary) :
    doc'.Shows front c back where
  chars := hchars.trans h.chars
  solid := h.solid
  descending := hdescending
  start := by rw [boundaryBefore_congr hboundaries hmore, h.start]

end Document

end LogicCircuit.Text

namespace LogicCircuit.Definition

open Text (byteLength byteLength_append Noted Current isMark)

/-! ## One gap -/

/-- The only mark that is blank is the end of a line. -/
theorem not_isMark_of_isBlank {c : Char} (hblank : Text.isBlank c) (hnewline : c ≠ '\n') : ¬ isMark c := by
  have hsemicolon : c ≠ ';' := by
    rintro rfl
    exact absurd hblank (by decide)
  have hhash : c ≠ '#' := by
    rintro rfl
    exact absurd hblank (by decide)
  simp [isMark, hnewline, hsemicolon, hhash]

/-- The only mark that is solid is the semicolon. -/
theorem not_isMark_of_solid {c : Char} (hsolid : Solid c) (hsemicolon : c ≠ ';') : ¬ isMark c := by
  obtain ⟨hblank, -, hhash⟩ := hsolid
  have hnewline : c ≠ '\n' := by
    rintro rfl
    exact hblank (by decide)
  simp [isMark, hnewline, hsemicolon, hhash]

/-- A gap behind `front`: the characters it passes over, and the boundaries that are noted in it in front
of those noted before. If there is anything behind it, the boundaries are current there. -/
structure Gap.Notes (gap : Gap) (front chars : List Char) (older : List Nat) (passed : List Char)
    (more : List Nat) : Prop where
  split : chars = passed ++ gap.after.rest
  offset : gap.after.offset = byteLength (front ++ passed)
  beyond : ∀ boundary ∈ more, byteLength front ≤ boundary
  noted : Noted (front ++ passed) (more ++ older)
  current : gap.after.rest ≠ [] → Current (front ++ passed) (more ++ older)

/-- One character is passed over first, and may be noted. -/
theorem Gap.Notes.cons {gap : Gap} {front chars passed : List Char} {older more extra : List Nat} {c : Char}
    (h : gap.Notes (front ++ [c]) chars (extra ++ older) passed more)
    (hextra : ∀ boundary ∈ extra, byteLength front ≤ boundary) :
    gap.Notes front (c :: chars) older (c :: passed) (more ++ extra) := by
  obtain ⟨hsplit, hoffset, hbeyond, hnoted, hcurrent⟩ := h
  rw [List.append_assoc, List.singleton_append] at hoffset hnoted hcurrent
  rw [← List.append_assoc] at hnoted hcurrent
  refine ⟨?_, hoffset, ?_, hnoted, hcurrent⟩
  · rw [List.cons_append, ← hsplit]
  · intro boundary hboundary
    rcases List.mem_append.1 hboundary with hlater | hnow
    · have hle := hbeyond boundary hlater
      rw [byteLength_append] at hle
      omega
    · exact hextra boundary hnow

/-- **The boundaries of a gap.** By induction on the characters: outside comments, those that have been
noted are current. -/
theorem skipGapFrom_notes (mode : GapMode) (met older : List Nat) (front chars : List Char)
    (hnoted : Noted front older) (hcurrent : chars ≠ [] → mode = .blanks → Current front older) :
    let gap := skipGapFrom mode met (byteLength front) chars
    ∃ passed more, gap.boundaries = more ++ met ∧ gap.Notes front chars older passed more := by
  induction chars generalizing mode met older front with
  | nil =>
    refine ⟨[], [], rfl, rfl, ?_, by simp, hnoted.append [], fun hrest => absurd rfl hrest⟩
    rw [List.append_nil]
    rfl
  | cons c rest ih =>
    -- a character that is passed over leads to a mode
    have hpass : ∀ (mode' : GapMode) (extra : List Nat),
        (∀ boundary ∈ extra, byteLength front ≤ boundary) → Noted (front ++ [c]) (extra ++ older) →
        (mode' = .blanks → Current (front ++ [c]) (extra ++ older)) →
          let gap := skipGapFrom mode' (extra ++ met) (byteLength front + c.utf8Size) rest
          ∃ passed more, gap.boundaries = more ++ met ∧ gap.Notes front (c :: rest) older passed more := by
      intro mode' extra hextra hnoted' hcurrent'
      have hrest := ih mode' (extra ++ met) (extra ++ older) (front ++ [c]) hnoted' (fun _ => hcurrent')
      have hoffset : byteLength (front ++ [c]) = byteLength front + c.utf8Size := byteLength_append front [c]
      rw [hoffset] at hrest
      obtain ⟨passed, more, hmet, hnotes⟩ := hrest
      rw [← List.append_assoc] at hmet
      exact ⟨c :: passed, more ++ extra, hmet, hnotes.cons hextra⟩
    have hkept := hnoted.append [c]
    have hnothing : ∀ boundary ∈ ([] : List Nat), byteLength front ≤ boundary := by simp
    cases mode with
    | blanks =>
      -- outside comments each character is a blank, opens a comment or ends the gap
      have hnow := hcurrent (List.cons_ne_nil c rest) rfl
      simp only [skipGapFrom]
      split
      · next hblank =>
        refine hpass .blanks [] hnothing hkept fun _ => ?_
        by_cases hnewline : c = '\n'
        · subst hnewline
          exact .newline hnoted
        · exact hnow.append (List.forall_mem_singleton.2 (not_isMark_of_isBlank hblank hnewline))
      · split
        · -- in a comment nothing has to be current
          exact hpass .lineComment [] hnothing hkept (fun h => by cases h)
        · split
          · exact hpass .blockComment [] hnothing hkept (fun h => by cases h)
          · refine ⟨[], [], rfl, rfl, ?_, hnothing, hnoted.append [], fun _ => hnow.append (by simp)⟩
            rw [List.append_nil]
    | lineComment =>
      simp only [skipGapFrom]
      split
      · next hclose =>
        subst hclose
        exact hpass .blanks [] hnothing hkept fun _ => .newline hnoted
      · exact hpass .lineComment [] hnothing hkept (fun h => by cases h)
    | blockComment =>
      simp only [skipGapFrom]
      split
      · next hclose =>
        subst hclose
        -- the closing mark is noted, so it is the last boundary
        refine hpass .blanks [byteLength front] (by simp) (hnoted.note '#') fun _ => ?_
        exact .note (by decide) (by decide) (by decide)
      · exact hpass .blockComment [] hnothing hkept (fun h => by cases h)

/-! ## One call -/

/-- Only the lexeme of a semicolon is read as one. -/
theorem ofLexeme_eq_semicolon (names : NameTable) (lexeme : Lexeme) :
    (SymbolKind.ofLexeme names lexeme).1 = .semicolon ↔ lexeme = .semicolon := by
  cases lexeme with
  | word text =>
    simp only [SymbolKind.ofLexeme]
    split <;> simp
  | _ => simp [SymbolKind.ofLexeme]

section

variable {scanner after : Scanner} {names names' : NameTable}

/-- At the end of the text the last gap is noted. -/
theorem document_next_none (h : scanner.next names = (none, after, names')) :
    after.cursor = scanner.cursor.skipGap.after ∧
      after.document = scanner.document.addBoundaries scanner.cursor.skipGap.boundaries := by
  unfold Scanner.next at h
  dsimp only at h
  split at h
  · cases h
    exact ⟨rfl, rfl⟩
  · cases h

/-- A semicolon that is read as a symbol is a boundary. -/
theorem document_next_some {symbol : Symbol} (h : scanner.next names = (some symbol, after, names')) :
    let noted := scanner.document.addBoundaries scanner.cursor.skipGap.boundaries
    symbol.offset = scanner.cursor.skipGap.after.offset ∧ scanner.cursor.skipGap.after.rest ≠ [] ∧
      after.document = if symbol.kind = .semicolon then noted.addBoundary symbol.offset else noted := by
  unfold Scanner.next at h
  dsimp only at h
  split at h
  · cases h
  · next lexeme cursor hlexeme =>
    cases h
    refine ⟨rfl, ?_, ?_⟩
    · intro hrest
      rw [Cursor.lexeme?, hrest] at hlexeme
      cases hlexeme
    · simp only [ofLexeme_eq_semicolon]

end

/-- Characters of one text that have as many bytes are the same. -/
theorem eq_of_byteLength_eq {front front' back back' : List Char} (h : front ++ back = front' ++ back')
    (hlength : byteLength front = byteLength front') : front = front' := by
  have htake := congrArg (Text.takeBytes (byteLength front)) h
  rw [Text.takeBytes_byteLength, hlength, Text.takeBytes_byteLength] at htake
  exact htake

namespace SymbolKind

/-- A symbol is made of solid characters, and only one kind of symbol has semicolons. -/
theorem StandsBetween.of_mem_written {front back : List Char} {kind : SymbolKind}
    (h : kind.StandsBetween front back) :
    ∀ c ∈ kind.written, Solid c ∧ (kind ≠ .semicolon → c ≠ ';') := by
  have hrun : ∀ c : Char, c.isAlphanum → Solid c ∧ (kind ≠ .semicolon → c ≠ ';') := by
    intro c hc
    exact ⟨solid_of_isAlphanum hc, fun _ => ne_of_isAlphanum hc (by decide)⟩
  intro c hc
  cases kind with
  | fullStop =>
    obtain rfl := List.mem_singleton.1 hc
    exact ⟨⟨by decide, by decide, by decide⟩, fun _ => by decide⟩
  | semicolon =>
    obtain rfl := List.mem_singleton.1 hc
    exact ⟨⟨by decide, by decide, by decide⟩, fun hne => absurd rfl hne⟩
  | keyword word id => exact hrun c (h.1.2 c hc)
  | name text id => exact hrun c (h.1.1.2 c hc)
  | number digits id => exact hrun c (isAlphanum_of_isDigit (h.1.2 c hc))
  | invalid d =>
    obtain rfl := List.mem_singleton.1 hc
    exact ⟨h.2.2.2, fun _ => h.2.1⟩

/-- The boundary that a symbol at an offset is, if it is one. -/
def boundaries (kind : SymbolKind) (offset : Nat) : List Nat :=
  if kind = .semicolon then [offset] else []

theorem le_of_mem_boundaries {kind : SymbolKind} {offset : Nat} :
    ∀ boundary ∈ kind.boundaries offset, offset ≤ boundary := by
  intro boundary hboundary
  rw [boundaries, List.mem_ite_nil_right, List.mem_singleton] at hboundary
  omega

/-- Behind a symbol the boundaries are current again. -/
theorem StandsBetween.noted {front back : List Char} {kind : SymbolKind} {older : List Nat}
    (h : kind.StandsBetween front back) (hnoted : Noted front older) (hcurrent : Current front older) :
    Noted (front ++ kind.written) (kind.boundaries (byteLength front) ++ older) ∧
      Current (front ++ kind.written) (kind.boundaries (byteLength front) ++ older) := by
  -- the semicolon is a mark and noted; any other symbol has no marks in it
  by_cases hkind : kind = .semicolon
  · have hboundary : kind.boundaries (byteLength front) = [byteLength front] := if_pos hkind
    rw [hboundary, hkind]
    exact ⟨hnoted.note ';', .note (by decide) (by decide) (by decide)⟩
  · have hboundary : kind.boundaries (byteLength front) = [] := if_neg hkind
    rw [hboundary]
    refine ⟨hnoted.append _, hcurrent.append fun c hc => ?_⟩
    obtain ⟨hsolid, hsemicolon⟩ := h.of_mem_written c hc
    exact not_isMark_of_solid hsolid (hsemicolon hkind)

/-- A symbol behind all boundaries is noted if it is one. -/
theorem addBoundary_eq {front : List Char} {doc : Text.Document} (h : Noted front doc.boundaries)
    (kind : SymbolKind) :
    (if kind = .semicolon then doc.addBoundary (byteLength front) else doc)
      = { doc with boundaries := kind.boundaries (byteLength front) ++ doc.boundaries } := by
  rw [boundaries]
  split
  · exact @Text.Document.addBoundaries_eq doc [byteLength front] (h.note ';').descending
  · rfl

end SymbolKind

/-- A scanner has read the characters in front of the rest of its text, and noted the boundaries in them. -/
structure Scanned (text : List Char) (scanner : Scanner) (front : List Char) : Prop where
  chars : scanner.document.chars = text
  split : front ++ scanner.cursor.rest = text
  offset : scanner.cursor.offset = byteLength front
  borders : Borders front scanner.cursor.rest
  noted : Noted front scanner.document.boundaries
  current : scanner.cursor.rest ≠ [] → Current front scanner.document.boundaries

/-- What can become of a scanner: it moves on in its text, and notes boundaries from its place on. -/
structure Later (scanner after : Scanner) : Prop where
  chars : after.document.chars = scanner.document.chars
  offset : scanner.cursor.offset ≤ after.cursor.offset
  boundaries : ∃ more, after.document.boundaries = more ++ scanner.document.boundaries ∧
    ∀ boundary ∈ more, scanner.cursor.offset ≤ boundary

namespace Later

theorem refl (scanner : Scanner) : Later scanner scanner :=
  ⟨rfl, Nat.le_refl _, [], rfl, by simp⟩

/-- Later than later is later. -/
theorem trans {scanner middle after : Scanner} (h : Later scanner middle) (hlater : Later middle after) :
    Later scanner after := by
  obtain ⟨more, hmore, hbeyond⟩ := h.boundaries
  obtain ⟨more', hmore', hbeyond'⟩ := hlater.boundaries
  refine ⟨hlater.chars.trans h.chars, Nat.le_trans h.offset hlater.offset, more' ++ more, ?_, ?_⟩
  · rw [hmore', hmore, List.append_assoc]
  · intro boundary hboundary
    rcases List.mem_append.1 hboundary with hnew | hold
    · exact Nat.le_trans h.offset (hbeyond' boundary hnew)
    · exact hbeyond boundary hold

end Later

/-- A symbol that has been read, with its first character in the text and what is shown of it. -/
structure HasRead (scanner : Scanner) (symbol : Symbol) (front : List Char) (c : Char) (back : List Char) :
    Prop where
  shows : scanner.document.Shows front c back
  offset : byteLength front = symbol.offset
  first : symbol.kind.written.head? = some c
  passed : symbol.offset ≤ scanner.cursor.offset

/-- What has been read stays so. -/
theorem HasRead.later {text front front' back : List Char} {scanner after : Scanner} {symbol : Symbol}
    {c : Char} (h : HasRead scanner symbol front c back) (hlater : Later scanner after)
    (hscanned : Scanned text after front') : HasRead after symbol front c back := by
  obtain ⟨more, hmore, hbeyond⟩ := hlater.boundaries
  have hpassed := h.passed
  have hoffset := h.offset
  refine ⟨?_, h.offset, h.first, Nat.le_trans h.passed hlater.offset⟩
  refine h.shows.later hlater.chars hmore hscanned.noted.descending fun boundary hboundary => ?_
  have hle := hbeyond boundary hboundary
  omega

namespace Scanned

variable {text front : List Char} {scanner : Scanner}

/-- A gap is passed over, and the boundaries in it are noted. -/
theorem gap (h : Scanned text scanner front) :
    let gap := scanner.cursor.skipGap
    ∃ passed more, gap.Notes front scanner.cursor.rest scanner.document.boundaries passed more ∧
      scanner.document.addBoundaries gap.boundaries
        = { scanner.document with boundaries := more ++ scanner.document.boundaries } := by
  have hgap := skipGapFrom_notes .blanks [] scanner.document.boundaries front scanner.cursor.rest
    -- the text that is left does not begin in a comment
    h.noted (fun hrest _ => h.current hrest)
  rw [← h.offset] at hgap
  obtain ⟨passed, more, hmet, hnotes⟩ := hgap
  rw [List.append_nil] at hmet
  refine ⟨passed, more, hnotes, ?_⟩
  show scanner.document.addBoundaries (skipGapFrom .blanks [] _ _).boundaries = _
  rw [hmet, Text.Document.addBoundaries_eq hnotes.noted.descending]

variable {after : Scanner} {names names' : NameTable} {symbol : Symbol}

/-- At the end of the text the last gap is passed over. -/
theorem next_none (h : Scanned text scanner front) (hnext : scanner.next names = (none, after, names')) :
    (∃ front', Scanned text after front') ∧ Later scanner after := by
  obtain ⟨passed, more, hnotes, hdocument⟩ := h.gap
  obtain ⟨hstop, hafter⟩ := document_next_none hnext
  rw [hdocument] at hafter
  -- a call that finds no symbol has come to the end
  have hend : after.cursor.rest = [] := by
    rcases next_cases names h.offset h.borders with
      ⟨-, after', hnext', hcursor, -⟩ | ⟨gap, kind, rest, after', names', hnext', -⟩
    · rw [hnext'] at hnext
      cases hnext
      rw [hcursor]
    · rw [hnext'] at hnext
      cases hnext
  have hscanned : Scanned text after (front ++ passed) := by
    refine ⟨?_, ?_, ?_, ?_, ?_, fun hne => absurd hend hne⟩
    · rw [hafter, ← h.chars]
    · rw [hstop, List.append_assoc, ← hnotes.split, h.split]
    · rw [hstop, hnotes.offset]
    · rw [hend]
      exact .inl fun c hc => by cases hc
    · rw [hafter]
      exact hnotes.noted
  refine ⟨⟨_, hscanned⟩, ?_, ?_, more, ?_, ?_⟩
  · rw [hafter]
  · rw [h.offset, hscanned.offset, byteLength_append]
    omega
  · rw [hafter]
  · rw [h.offset]
    exact hnotes.beyond

/-- A call finds a symbol: behind a gap with more boundaries, and current ones in front of it. The symbol
itself is noted only behind them. -/
structure Finds (scanner after : Scanner) (symbol : Symbol) (front gap rest : List Char) (more : List Nat) :
    Prop where
  split : scanner.cursor.rest = gap ++ (symbol.kind.written ++ rest)
  closed : ClosedGap gap
  stands : symbol.kind.StandsBetween (front ++ gap) rest
  offset : byteLength (front ++ gap) = symbol.offset
  cursor : after.cursor = ⟨rest, byteLength (front ++ gap ++ symbol.kind.written)⟩
  beyond : ∀ boundary ∈ more, byteLength front ≤ boundary
  noted : Noted (front ++ gap) (more ++ scanner.document.boundaries)
  current : Current (front ++ gap) (more ++ scanner.document.boundaries)
  chars : after.document.chars = scanner.document.chars
  boundaries : after.document.boundaries
    = symbol.kind.boundaries (byteLength (front ++ gap)) ++ (more ++ scanner.document.boundaries)

/-- A symbol that is found is found behind the gap in front of it. -/
theorem finds (h : Scanned text scanner front) (hnext : scanner.next names = (some symbol, after, names')) :
    ∃ gap rest more, Finds scanner after symbol front gap rest more := by
  obtain ⟨passed, more, hnotes, hdocument⟩ := h.gap
  rcases next_cases names h.offset h.borders with
    ⟨-, after', hnext', -⟩ | ⟨gap, kind, rest, after', table, hnext', hrest, hgap, hstands, hcursor, -⟩
  · rw [hnext'] at hnext
    cases hnext
  rw [hnext'] at hnext
  cases hnext
  obtain ⟨hplace, hrestOfGap, hafter⟩ := document_next_some hnext'
  -- both say which characters are passed over: there are as many bytes of them
  obtain rfl : gap = passed := by
    have hsame : front ++ gap ++ (kind.written ++ rest)
        = front ++ passed ++ scanner.cursor.skipGap.after.rest := by
      rw [List.append_assoc, ← hrest, List.append_assoc, ← hnotes.split]
    exact List.append_cancel_left (eq_of_byteLength_eq hsame (hplace.trans hnotes.offset))
  rw [hdocument] at hafter
  have hafter' := hafter.trans (@SymbolKind.addBoundary_eq _
    { scanner.document with boundaries := more ++ scanner.document.boundaries } hnotes.noted kind)
  exact ⟨gap, rest, more, hrest, hgap, hstands, rfl, hcursor, hnotes.beyond, hnotes.noted,
    hnotes.current hrestOfGap, by rw [hafter'], by rw [hafter']⟩

section Finds

variable {gap rest : List Char} {more : List Nat}

/-- Behind the symbol that has been found, what has been read includes it. -/
theorem of_finds (h : Scanned text scanner front) (hfinds : Finds scanner after symbol front gap rest more) :
    Scanned text after (front ++ gap ++ symbol.kind.written) := by
  obtain ⟨hnoted, hcurrent⟩ := hfinds.stands.noted hfinds.noted hfinds.current
  refine ⟨?_, ?_, ?_, ?_, ?_, fun _ => ?_⟩
  · rw [hfinds.chars, h.chars]
  · rw [hfinds.cursor, List.append_assoc, List.append_assoc, ← hfinds.split, h.split]
  · rw [hfinds.cursor]
  · have hborders := h.borders
    rw [hfinds.split] at hborders
    rw [hfinds.cursor]
    exact (hborders.gap hfinds.closed).symbol hfinds.stands
  · rw [hfinds.boundaries]
    exact hnoted
  · rw [hfinds.boundaries]
    exact hcurrent

/-- A scanner that has found a symbol is a later one. -/
theorem later_of_finds (h : Scanned text scanner front)
    (hfinds : Finds scanner after symbol front gap rest more) : Later scanner after := by
  have hgap := byteLength_append front gap
  have hsymbol := byteLength_append (front ++ gap) symbol.kind.written
  refine ⟨hfinds.chars, ?_, symbol.kind.boundaries (byteLength (front ++ gap)) ++ more, ?_, ?_⟩
  · rw [h.offset, hfinds.cursor]
    show byteLength front ≤ byteLength (front ++ gap ++ symbol.kind.written)
    omega
  · rw [hfinds.boundaries, List.append_assoc]
  · intro boundary hboundary
    rw [h.offset]
    -- the boundaries of the gap come first, and the semicolon may follow
    rcases List.mem_append.1 hboundary with hnew | hold
    · have hle := SymbolKind.le_of_mem_boundaries boundary hnew
      omega
    · exact hfinds.beyond boundary hold

/-- A symbol that has been found shows its statement. -/
theorem hasRead_of_finds (h : Scanned text scanner front)
    (hfinds : Finds scanner after symbol front gap rest more) :
    ∃ front c back, HasRead after symbol front c back := by
  obtain ⟨c, others, hwritten⟩ := List.exists_cons_of_ne_nil hfinds.stands.written_ne_nil
  have hsolid : Solid c := (hfinds.stands.of_mem_written c (by simp [hwritten])).1
  -- the statement is looked up as of the end of the gap, before the symbol is noted
  let noted := { scanner.document with boundaries := more ++ scanner.document.boundaries }
  have hshows : noted.Shows (front ++ gap) c (others ++ rest) := by
    refine Text.Document.shows_of_current ?_ hsolid.1 hfinds.noted hfinds.current
    show scanner.document.chars = _
    rw [h.chars, ← h.split, hfinds.split, hwritten, List.append_assoc]
    rfl
  have hdescending := (h.of_finds hfinds).noted.descending
  have hplaced : symbol.offset ≤ after.cursor.offset := by
    rw [← hfinds.offset, hfinds.cursor, byteLength_append _ symbol.kind.written]
    exact Nat.le_add_right _ _
  refine ⟨front ++ gap, c, others ++ rest, ?_, hfinds.offset, ?_, hplaced⟩
  · exact hshows.later hfinds.chars hfinds.boundaries hdescending SymbolKind.le_of_mem_boundaries
  · rw [hwritten]
    rfl

end Finds

/-- What is reported changes nothing of this. -/
theorem of_unreported (h : Scanned text scanner front) (hsame : after.unreported = scanner.unreported) :
    Scanned text after front ∧ Later scanner after := by
  have hcursor : after.cursor = scanner.cursor := by
    show after.unreported.cursor = _
    rw [hsame]
    rfl
  have hdocument : after.document = scanner.document := by
    show after.unreported.document = _
    rw [hsame]
    rfl
  refine ⟨?_, ?_, ?_, [], ?_, by simp⟩
  · constructor
    · rw [hdocument, h.chars]
    · rw [hcursor, h.split]
    · rw [hcursor, h.offset]
    · rw [hcursor]
      exact h.borders
    · rw [hdocument]
      exact h.noted
    · rw [hcursor, hdocument]
      exact h.current
  · rw [hdocument]
  · rw [hcursor]
  · rw [hdocument, List.nil_append]

variable {state : Scanner × NameTable}

/-- **One call.** -/
theorem call (h : Scanned text state.1 front) (asked : Scanner.Call) :
    (∃ front', Scanned text (Scanner.call state asked).1 front') ∧
      Later state.1 (Scanner.call state asked).1 := by
  have hreport : ∀ diagnostic place, (∃ front', Scanned text (state.1.report diagnostic place) front') ∧
      Later state.1 (state.1.report diagnostic place) := by
    intro diagnostic place
    have hsame := h.of_unreported (Scanner.unreported_report state.1 diagnostic place)
    exact ⟨⟨front, hsame.1⟩, hsame.2⟩
  cases asked with
  | next =>
    show (∃ front', Scanned text (state.1.next state.2).2.1 front') ∧
      Later state.1 (state.1.next state.2).2.1
    rcases hnext : state.1.next state.2 with ⟨_ | symbol, after, table⟩
    · exact h.next_none hnext
    · obtain ⟨gap, rest, more, hfinds⟩ := h.finds hnext
      exact ⟨⟨_, h.of_finds hfinds⟩, h.later_of_finds hfinds⟩
  | report diagnostic place => exact hreport diagnostic place
  | reportLast message caret => exact hreport (.error message) _

/-- **All calls.** By induction on them. -/
theorem callAll (h : Scanned text state.1 front) (calls : List Scanner.Call) :
    (∃ front', Scanned text (Scanner.callAll state calls).1 front') ∧
      Later state.1 (Scanner.callAll state calls).1 := by
  induction calls generalizing state front with
  | nil => exact ⟨⟨front, h⟩, .refl state.1⟩
  | cons first calls ih =>
    obtain ⟨⟨front', hfirst⟩, hlater⟩ := h.call first
    obtain ⟨hscanned, hlater'⟩ := ih hfirst
    exact ⟨hscanned, hlater.trans hlater'⟩

end Scanned

/-- At the start nothing has been read. -/
theorem scanned_new (text : String) (names : NameTable) :
    Scanned text.toList (Scanner.new text names).1 [] := by
  have hcursor : (Scanner.new text names).1.cursor = ⟨text.toList, 0⟩ := rfl
  have hdocument : (Scanner.new text names).1.document = ⟨text.toList, []⟩ := rfl
  refine ⟨?_, ?_, ?_, ?_, ?_, fun _ => ?_⟩
  · rw [hdocument]
  · rw [hcursor]
    rfl
  · rw [hcursor]
    rfl
  · apply Borders.of_getLast
    intro c hc
    cases hc
  · rw [hdocument]
    exact ⟨.nil, by simp⟩
  · rw [hdocument]
    rfl

open Text (sinceLast isNewline trimStart trimEnd)
open Scanner (Call callAll)

/-- **One excerpt for a symbol.** Once a symbol has been read, whatever is read and reported later, a report
about its place shows the same excerpt, and each slice of the text that is taken for it is one. The excerpt
counts the lines and the characters in front of the symbol. It is the rest of the line from the first
character that is not blank behind the last mark, and below the first character of the symbol is the
caret. -/
theorem excerpt_of_read_symbol (text : String) (names : NameTable) (before : List Call) (symbol : Symbol)
    (h : let read := callAll (Scanner.new text names) before
      (read.1.next read.2).1 = some symbol) :
    ∃ front c back, ∃ excerpt : Text.Excerpt,
      text.toList = front ++ c :: back ∧ byteLength front = symbol.offset ∧
      symbol.kind.written.head? = some c ∧
      excerpt.line = 1 + front.count '\n' ∧
      excerpt.column = 1 + (sinceLast isNewline front).length ∧
      excerpt.text = String.ofList
        (trimEnd (trimStart (sinceLast isMark front ++ c :: back.takeWhile (· ≠ '\n')))) ∧
      excerpt.caret = (trimStart (sinceLast isMark front)).length ∧
      excerpt.text.toList[excerpt.caret]? = some c ∧ '\n' ∉ excerpt.text.toList ∧
      (Diagnostic.renderExcerpt excerpt).toList
        = excerpt.text.toList ++ '\n' :: (List.replicate excerpt.caret ' ' ++ ['^', '\n']) ∧
      ∀ later, let scanner := (callAll (Scanner.new text names) (before ++ .next :: later)).1
        scanner.document.excerpt? symbol.offset = some excerpt ∧
        ∀ diagnostic, (scanner.report diagnostic (some symbol.offset)).diagnostics
          = scanner.diagnostics.push { diagnostic with excerpt := some excerpt } := by
  have hread : ∃ after, ((callAll (Scanner.new text names) before).1.next
      (callAll (Scanner.new text names) before).2) = (some symbol, after) := ⟨_, Prod.ext h rfl⟩
  obtain ⟨⟨after, table⟩, hnext⟩ := hread
  obtain ⟨⟨front₁, hscanned⟩, -⟩ := (scanned_new text names).callAll before
  obtain ⟨gap, rest, more, hfinds⟩ := hscanned.finds hnext
  have hafter := hscanned.of_finds hfinds
  obtain ⟨front, c, back, hsymbol⟩ := hscanned.hasRead_of_finds hfinds
  have hsolid := hsymbol.shows.solid
  have hchars : text.toList = front ++ c :: back := hafter.chars.symm.trans hsymbol.shows.chars
  refine ⟨front, c, back, .around front c back, hchars, hsymbol.offset, hsymbol.first, Nat.add_comm ..,
    Nat.add_comm .., ?_, rfl, Text.Excerpt.getElem?_caret hsolid front back,
    Text.Excerpt.newline_not_mem hsolid front back, ?_, fun later => ?_⟩
  · rw [Text.trimStart_append_cons hsolid]
    rfl
  · simp [Diagnostic.renderExcerpt]
  · have hcalls : callAll (Scanner.new text names) (before ++ .next :: later)
        = callAll (after, table) later := by
      rw [callAll, List.foldl_append, List.foldl_cons]
      show callAll ((callAll (Scanner.new text names) before).1.next
        (callAll (Scanner.new text names) before).2).2 later = _
      rw [hnext]
    -- a report may be made later than the symbol is read; what it shows has not changed
    obtain ⟨⟨front₃, hend⟩, hlater⟩ := @Scanned.callAll _ _ (after, table) hafter later
    have hshows := (hsymbol.later hlater hend).shows
    rw [hcalls, ← hsymbol.offset]
    refine ⟨Text.Document.excerpt?_eq hshows, fun diagnostic => ?_⟩
    rw [Scanner.report, Text.Document.excerpt_eq hshows]
    rfl

/-- A comment with a semicolon and another line are in front, and bytes and characters differ. -/
theorem excerpt_of_read_symbol_behind_comment :
    let text := "A;\n# ; é #ü B"
    let start := Scanner.new text .empty
    let before : List Call := [.next, .next, .next]
    let symbol : Symbol := ⟨.name "B" ⟨28⟩, 14⟩
    ((callAll start before).1.next (callAll start before).2).1 = some symbol ∧
      ∀ later, (callAll start (before ++ .next :: later)).1.document.excerpt? symbol.offset
        = some { line := 2, column := 10, text := "ü B", caret := 2 } := by
  intro text start before symbol
  have hread : ((callAll start before).1.next (callAll start before).2).1 = some symbol := by decide +kernel
  obtain ⟨front, c, back, excerpt, hsplit, hoffset, -, hline, hcolumn, htext, hcaret, -, -, -, hlater⟩ :=
    excerpt_of_read_symbol text .empty before symbol hread
  -- as many bytes are in front of the symbol
  have hfront : front = "A;\n# ; é #ü ".toList := by
    have hsame : front ++ c :: back = "A;\n# ; é #ü ".toList ++ ['B'] := hsplit.symm.trans (by decide)
    exact eq_of_byteLength_eq hsame hoffset
  subst hfront
  obtain ⟨rfl, rfl⟩ : c = 'B' ∧ back = [] := by
    have hsame := List.append_cancel_left ((by decide : _ ++ ['B'] = text.toList).trans hsplit)
    cases hsame
    exact ⟨rfl, rfl⟩
  refine ⟨hread, fun later => (hlater later).1.trans ?_⟩
  obtain ⟨line, column, shown, caret⟩ := excerpt
  obtain rfl : line = 2 := hline.trans (by decide)
  obtain rfl : column = 10 := hcolumn.trans (by decide)
  obtain rfl : shown = "ü B" := htext.trans (by decide)
  obtain rfl : caret = 2 := hcaret.trans (by decide)
  rfl

end LogicCircuit.Definition
