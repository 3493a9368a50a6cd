import LogicCircuit.Proofs.Definition.Language

/-!
# Scanning — the symbols of a text, and what a reading makes of them

`scan` is the first stage of a reading: the symbols through the first `END`. The stages after it take
nothing else from the text than these symbols and the excerpts for their places.

* **`increasing_scan`** — symbols stand at increasing offsets, so an offset tells which symbol a
  finding is about.
* **`diagnostics_readOnto`** — what is reported is what is found while reading statements, finding by
  finding and in the same order, and then the warnings about the circuit as a whole.
-/

namespace LogicCircuit.Definition

/-! ## Offsets -/

/-- A gap is only passed forwards, in whatever mode it starts. -/
theorem offset_skipGapFrom_le (mode : GapMode) (boundaries : List Nat) (offset : Nat)
    (chars : List Char) : offset ≤ (skipGapFrom mode boundaries offset chars).after.offset := by
  induction chars generalizing mode boundaries offset with
  | nil => simp [skipGapFrom]
  | cons c rest ih =>
    -- the modes differ in what they go on with, not in that they take a character
    have step : ∀ mode boundaries,
        offset ≤ (skipGapFrom mode boundaries (offset + c.utf8Size) rest).after.offset := by
      intro mode boundaries
      have hrest := ih mode boundaries (offset + c.utf8Size)
      omega
    cases mode with
    | blanks =>
      simp only [skipGapFrom]
      split
      · exact step ..
      · split
        · exact step ..
        · split
          · exact step ..
          · simp
    | lineComment =>
      simp only [skipGapFrom]
      split <;> exact step ..
    | blockComment =>
      simp only [skipGapFrom]
      split <;> exact step ..

/-- The first character of a run counts towards its length. -/
theorem Cursor.offset_takeRun_lt {cursor : Cursor} {c : Char} {rest : List Char}
    {test : Char → Bool} (h : cursor.rest = c :: rest) (hc : test c = true) :
    cursor.offset < (cursor.takeRun test).2.offset := by
  have hsize := c.utf8Size_pos
  simp only [takeRun, h, List.takeWhile_cons, hc, if_true, Text.byteLength, List.foldr_cons]
  omega

/-- Every lexeme takes up part of the text: a character of its own, or a run that starts with one. -/
theorem Cursor.offset_lexeme?_lt {cursor next : Cursor} {lexeme : Lexeme}
    (h : cursor.lexeme? = some (lexeme, next)) : cursor.offset < next.offset := by
  unfold lexeme? at h
  split at h
  · exact absurd h (by simp)
  · next c rest hrest =>
    have hstep : cursor.offset < cursor.offset + c.utf8Size := by
      have hsize := c.utf8Size_pos
      omega
    split at h
    · cases h; exact hstep
    · split at h
      · cases h; exact hstep
      · split at h
        · next halpha =>
          cases h
          exact offset_takeRun_lt hrest (by simp [Char.isAlphanum, halpha])
        · split at h
          · next hdigit =>
            cases h
            exact offset_takeRun_lt hrest hdigit
          · cases h; exact hstep

/-- A symbol starts where the scanner stands or later, and the scanner moves on past its start. -/
theorem offset_next {scanner after : Scanner} {names names' : NameTable} {symbol : Symbol}
    (h : scanner.next names = (some symbol, after, names')) :
    scanner.cursor.offset ≤ symbol.offset ∧ symbol.offset < after.cursor.offset := by
  unfold Scanner.next at h
  dsimp only at h
  split at h
  · cases h
  · next lexeme cursor hlexeme =>
    have hgap := offset_skipGapFrom_le .blanks [] scanner.cursor.offset scanner.cursor.rest
    have hlt := Cursor.offset_lexeme?_lt hlexeme
    cases h
    exact ⟨hgap, hlt⟩

/-- The symbols stand at increasing offsets. -/
def Increasing (symbols : List Symbol) : Prop :=
  symbols.Pairwise fun symbol later => symbol.offset < later.offset

/-- No symbol stands before the scanner, and each one stands behind the one before it. -/
theorem increasing_throughEnd (scanner : Scanner) (names : NameTable) :
    (∀ symbol ∈ (scanner.throughEnd names).1, scanner.cursor.offset ≤ symbol.offset) ∧
      Increasing (scanner.throughEnd names).1 := by
  rw [Scanner.throughEnd]
  split
  · exact ⟨by simp, .nil⟩
  · next symbol after names' h =>
    obtain ⟨hstart, hlt⟩ := offset_next h
    split
    · exact ⟨by simpa using hstart, List.pairwise_singleton ..⟩
    · obtain ⟨hlater, hincreasing⟩ := increasing_throughEnd after names'
      have hbeyond : ∀ later ∈ (after.throughEnd names').1, symbol.offset < later.offset := by
        intro later hmem
        have hle := hlater later hmem
        omega
      refine ⟨List.forall_mem_cons.2 ⟨hstart, fun later hmem => ?_⟩,
        List.pairwise_cons.2 ⟨hbeyond, hincreasing⟩⟩
      have hlt' := hbeyond later hmem
      omega
  termination_by scanner.cursor.rest.length
  decreasing_by exact Scanner.length_next_lt (by assumption)

/-! ## Scans -/

/-- The symbols of a text through its first `END`, with the scanner and the table that are left. -/
def scan (names : NameTable) (text : String) : List Symbol × Scanner × NameTable :=
  let (scanner, names) := Scanner.new text names
  let (_, names) := names.takeCodes (UInt64.ofNat Problem.kindCount)
  scanner.throughEnd names

/-- The symbols of a text through its first `END`. -/
def symbolsOf (names : NameTable) (text : String) : List Symbol :=
  (scan names text).1

/-- The text with the boundaries that the scan has met. -/
def documentOf (names : NameTable) (text : String) : Text.Document :=
  (scan names text).2.1.document

variable (names : NameTable) (circuit : Circuit) (text : String)

/-- **Symbols stand at increasing offsets.** -/
theorem increasing_scan : Increasing (symbolsOf names text) :=
  (increasing_throughEnd _ _).2

/-- The names among the symbols are in the table that a reading leaves. -/
theorem known_symbolsOf : Known (readOnto names circuit text).names (symbolsOf names text) :=
  (throughEnd_spec _ _).2.2.2

/-- Nothing has been reported while scanning. -/
theorem diagnostics_scan : (scan names text).2.1.diagnostics = #[] := by
  have hnew := (new_spec text names).2
  have hscan := (throughEnd_spec (Scanner.new text names).1
    ((Scanner.new text names).2.takeCodes (UInt64.ofNat Problem.kindCount)).2).2.1
  exact hscan.trans hnew

/-! ## Reports -/

/-- The diagnostic that a finding is reported with. -/
def Finding.diagnostic (codes : ErrorCodes) (doc : Text.Document) (finding : Finding) :
    Diagnostic :=
  { finding.problem.diagnostic codes with
    excerpt := finding.place.map fun place => doc.excerpt (place.offset doc.size) }

/-- The excerpt is looked up when a finding is reported, in the document of that scanner. -/
theorem report_eq_log (codes : ErrorCodes) (scanner : Scanner) (finding : Finding) :
    finding.report codes scanner = scanner.log (finding.diagnostic codes scanner.document) := by
  obtain ⟨problem, _ | place⟩ := finding
  · rfl
  · rfl

/-- Reports only add to the log: the document that the excerpts are cut from stays the same. -/
theorem diagnostics_foldl_report (codes : ErrorCodes) (findings : List Finding)
    (scanner : Scanner) :
    (findings.foldl (Finding.report codes) scanner).diagnostics.toList
      = scanner.diagnostics.toList ++ findings.map (Finding.diagnostic codes scanner.document) := by
  induction findings generalizing scanner with
  | nil => simp
  | cons finding others ih =>
    rw [List.foldl_cons, ih, report_eq_log, Scanner.log, Array.toList_push, List.append_assoc]
    rfl

/-- What a reading finds, in the order of the text. -/
def findingsOf : List Finding :=
  (statements (readOnto names circuit text).names circuit (symbolsOf names text)).2

/-- **Reports.** Every finding is reported once and in its place, and the warnings about the circuit
come last. -/
theorem diagnostics_readOnto : (readOnto names circuit text).diagnostics =
    (findingsOf names circuit text).map
        (Finding.diagnostic (readOnto names circuit text).codes (documentOf names text)) ++
      warnings (readOnto names circuit text).circuit (readOnto names circuit text).codes := by
  have hreport := diagnostics_foldl_report (readOnto names circuit text).codes
    (findingsOf names circuit text) (scan names text).2.1
  rw [diagnostics_scan] at hreport
  exact congrArg (· ++ _) hreport

/-- Every finding counts as one error, and the warnings do not count. -/
theorem errorCount_readOnto :
    (readOnto names circuit text).errorCount = (findingsOf names circuit text).length := by
  have herror : ∀ finding ∈ findingsOf names circuit text, Diagnostic.isError
      (finding.diagnostic (readOnto names circuit text).codes (documentOf names text)) := by
    intro finding hmem
    exact decide_eq_true (severity_statements _ circuit _ finding hmem)
  have hwarnings := errorCount_warnings (readOnto names circuit text).circuit
    (readOnto names circuit text).codes
  rw [Diagnostic.errorCount] at hwarnings
  rw [Reading.errorCount, diagnostics_readOnto, Diagnostic.errorCount, List.countP_append, hwarnings,
    List.countP_map, Nat.add_zero, List.countP_eq_length]
  exact herror

end LogicCircuit.Definition
