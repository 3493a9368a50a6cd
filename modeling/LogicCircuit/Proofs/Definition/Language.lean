import LogicCircuit.Proofs.Definition.Failures
import LogicCircuit.Proofs.Definition.Statements
import Mathlib.Data.List.TakeWhile

/-!
# The language of definitions — what is accepted, and what comes of it

A text declares a scope if it has an `END`, and what stands before the first one is spelled by
statements that the static rules accept (`Declares`). Reading a text reports no errors exactly if the
text declares a scope, and what is built then is the circuit of that scope: `isOk_read_iff`.

## The architecture

* **`throughEnd_spec`** — scanning gives the tokens through the first `END`, and the table that it
  leaves knows all names among them.
* **`isOk_readOnto_iff`** — no errors are reported exactly if nothing is found while reading
  statements. The warnings at the end do not count.
* **`isOk_read_iff`** — both, with `statements_sound` and `statements_complete`.
-/

namespace LogicCircuit.Definition

/-! ## Scanning -/

/-- The tokens through the first `END`. -/
def throughEndWord (tokens : List Token) : List Token :=
  tokens.takeWhile (· ≠ .keyword .endWord) ++
    if .keyword .endWord ∈ tokens then [.keyword .endWord] else []

/-- Nothing is read behind the first `END`. -/
theorem throughEndWord_endWord (rest : List Token) :
    throughEndWord (.keyword .endWord :: rest) = [.keyword .endWord] := by
  rw [throughEndWord, if_pos List.mem_cons_self]
  rfl

/-- Any other token is read. -/
theorem throughEndWord_cons {token : Token} (htoken : token ≠ .keyword .endWord)
    (rest : List Token) : throughEndWord (token :: rest) = token :: throughEndWord rest := by
  have hmem : Token.keyword .endWord ∈ token :: rest ↔ Token.keyword .endWord ∈ rest := by
    rw [List.mem_cons, or_iff_right htoken.symm]
  rw [throughEndWord, List.takeWhile_cons_of_pos (by simpa using htoken), List.cons_append]
  simp only [hmem]
  rfl

/-- The symbol of a lexeme has its token. -/
theorem token_ofLexeme (names : NameTable) (lexeme : Lexeme) :
    (SymbolKind.ofLexeme names lexeme).1.token = Token.ofLexeme lexeme := by
  cases lexeme with
  | word text =>
    rw [SymbolKind.ofLexeme, Token.ofLexeme]
    cases Keyword.ofSpelling? text <;> rfl
  | _ => rfl

/-- Handles are kept while a lexeme is made a symbol. -/
theorem grows_ofLexeme (names : NameTable) (lexeme : Lexeme) :
    names.Grows (SymbolKind.ofLexeme names lexeme).2 := by
  cases lexeme with
  | word text =>
    have h := NameTable.grows_intern names text
    rw [SymbolKind.ofLexeme]
    cases Keyword.ofSpelling? text <;> exact h
  | number digits => exact NameTable.grows_intern names digits
  | _ => exact .refl names

/-- A name is interned under the handle that its symbol carries. -/
theorem id?_ofLexeme {names : NameTable} {lexeme : Lexeme} {text : String} {id : NameId}
    (h : (SymbolKind.ofLexeme names lexeme).1 = .name text id) :
    (SymbolKind.ofLexeme names lexeme).2.id? text = some id := by
  cases lexeme with
  | word written =>
    have hintern := NameTable.id?_intern names written
    rw [SymbolKind.ofLexeme] at h ⊢
    cases hword : Keyword.ofSpelling? written with
    | some word =>
      rw [hword] at h
      cases h
    | none =>
      rw [hword] at h
      cases h
      exact hintern
  | _ => cases h

/-- Where there is no lexeme, there are no tokens. -/
theorem Cursor.tokens_eq_nil {cursor : Cursor} (h : cursor.skipGap.after.lexeme? = none) :
    cursor.tokens = [] := by
  rw [Cursor.tokens]
  split
  · rfl
  · next hsome =>
    rw [h] at hsome
    cases hsome

/-- The token of a lexeme comes first. -/
theorem Cursor.tokens_eq_cons {cursor next : Cursor} {lexeme : Lexeme}
    (h : cursor.skipGap.after.lexeme? = some (lexeme, next)) :
    cursor.tokens = Token.ofLexeme lexeme :: next.tokens := by
  rw [Cursor.tokens]
  split
  · next hnone =>
    rw [h] at hnone
    cases hnone
  · next hsome =>
    rw [h] at hsome
    cases hsome
    rfl

/-- What one symbol more does to a scanner and to the table. -/
theorem next_eq_some {scanner after : Scanner} {names names' : NameTable} {symbol : Symbol}
    (h : scanner.next names = (some symbol, after, names')) :
    scanner.cursor.tokens = symbol.token :: after.cursor.tokens ∧
      after.diagnostics = scanner.diagnostics ∧ names.Grows names' ∧
      ∀ text id, symbol.kind = .name text id → names'.id? text = some id := by
  unfold Scanner.next at h
  dsimp only at h
  split at h
  · cases h
  · next lexeme cursor hlexeme =>
    have htoken := token_ofLexeme names lexeme
    have hgrows := grows_ofLexeme names lexeme
    have hid := fun text id => @id?_ofLexeme names lexeme text id
    cases h
    exact ⟨by rw [Cursor.tokens_eq_cons hlexeme, ← htoken]; rfl, rfl, hgrows, hid⟩

/-- At the end of the text nothing is read and nothing changes. -/
theorem next_eq_none {scanner after : Scanner} {names names' : NameTable}
    (h : scanner.next names = (none, after, names')) :
    scanner.cursor.tokens = [] ∧ after.diagnostics = scanner.diagnostics ∧ names' = names := by
  unfold Scanner.next at h
  dsimp only at h
  split at h
  · next hlexeme =>
    cases h
    exact ⟨Cursor.tokens_eq_nil hlexeme, rfl, rfl⟩
  · cases h

/-- **Scanning.** What comes of a scan through the first `END`. -/
theorem throughEnd_spec (scanner : Scanner) (names : NameTable) :
    (scanner.throughEnd names).1.map Symbol.token = throughEndWord scanner.cursor.tokens ∧
      (scanner.throughEnd names).2.1.diagnostics = scanner.diagnostics ∧
      names.Grows (scanner.throughEnd names).2.2 ∧
      Known (scanner.throughEnd names).2.2 (scanner.throughEnd names).1 := by
  rw [Scanner.throughEnd]
  split
  · next after names' h =>
    obtain ⟨htokens, hdiagnostics, rfl⟩ := next_eq_none h
    refine ⟨by rw [htokens]; rfl, hdiagnostics, .refl _, ?_⟩
    intro symbol hsymbol
    cases hsymbol
  · next symbol after names' h =>
    obtain ⟨htokens, hdiagnostics, hgrows, hid⟩ := next_eq_some h
    rw [htokens]
    split
    · next hend =>
      rw [Symbol.isKeyword_iff.1 hend]
      refine ⟨?_, hdiagnostics, hgrows, List.forall_mem_singleton.2 hid⟩
      rw [throughEndWord_endWord, List.map_singleton, Symbol.isKeyword_iff.1 hend]
    · next hend =>
      -- the table only grows, so the handle of this symbol is kept
      obtain ⟨htokens', hdiagnostics', hgrows', hknown⟩ := throughEnd_spec after names'
      refine ⟨?_, hdiagnostics'.trans hdiagnostics, hgrows.trans hgrows', ?_⟩
      · rw [throughEndWord_cons fun h => hend (Symbol.isKeyword_iff.2 h), ← htokens']
        rfl
      · exact List.forall_mem_cons.2 ⟨fun text id h => hgrows'.id? (hid text id h), hknown⟩
  termination_by scanner.cursor.rest.length
  decreasing_by exact Scanner.length_next_lt (by assumption)

/-! ## Reporting -/

/-- A finding that is an error is reported as one. -/
theorem report_isError (codes : ErrorCodes) (scanner : Scanner) {finding : Finding}
    (h : finding.problem.severity = .error) :
    Diagnostic.errorCount (finding.report codes scanner).diagnostics.toList
      = Diagnostic.errorCount scanner.diagnostics.toList + 1 := by
  have hlog : ∀ diagnostic : Diagnostic, diagnostic.severity = .error →
      Diagnostic.errorCount (scanner.log diagnostic).diagnostics.toList
        = Diagnostic.errorCount scanner.diagnostics.toList + 1 := by
    intro diagnostic herror
    have hisError : diagnostic.isError = true := decide_eq_true herror
    rw [Scanner.log, Array.toList_push, Diagnostic.errorCount, Diagnostic.errorCount,
      List.countP_append, List.countP_singleton, if_pos hisError]
  unfold Finding.report Scanner.report
  split
  · exact hlog _ h
  · exact hlog _ h

/-- Each finding adds one error to the log. -/
theorem errorCount_report (codes : ErrorCodes) : ∀ (findings : List Finding) (scanner : Scanner),
    (∀ finding ∈ findings, finding.problem.severity = .error) →
    Diagnostic.errorCount (findings.foldl (Finding.report codes) scanner).diagnostics.toList
      = Diagnostic.errorCount scanner.diagnostics.toList + findings.length
  | [], _, _ => rfl
  | finding :: others, scanner, h => by
    obtain ⟨hfirst, hothers⟩ := List.forall_mem_cons.1 h
    rw [List.foldl_cons, errorCount_report codes others _ hothers, report_isError codes scanner hfirst,
      List.length_cons]
    omega

/-- Warnings are no errors. -/
theorem errorCount_warnings (circuit : Circuit) (codes : ErrorCodes) :
    Diagnostic.errorCount (warnings circuit codes) = 0 := by
  rw [Diagnostic.errorCount, List.countP_eq_zero]
  intro diagnostic h
  rcases List.mem_append.1 h with hfloating | hmonitor
  · unfold floatingWarning? at hfloating
    split at hfloating
    · cases hfloating
    · rw [List.mem_singleton.1 hfloating]
      exact Bool.false_ne_true
  · unfold monitorWarning? at hmonitor
    split at hmonitor
    · rw [List.mem_singleton.1 hmonitor]
      exact Bool.false_ne_true
    · cases hmonitor

/-- A new scanner stands at the start of the text, whatever is interned. -/
theorem new_spec (text : String) (names : NameTable) :
    (Scanner.new text names).1.cursor = ⟨text.toList, 0⟩ ∧
      (Scanner.new text names).1.diagnostics = #[] := by
  unfold Scanner.new
  generalize names.internAll _ = interned
  exact ⟨rfl, rfl⟩

/-- What reading a text comes to, in terms of the statements alone. -/
theorem readOnto_spec (names : NameTable) (circuit : Circuit) (text : String) :
    ∃ symbols, Known (readOnto names circuit text).names symbols ∧
      symbols.map Symbol.token = throughEndWord (tokens text) ∧
      (readOnto names circuit text).circuit
        = (statements (readOnto names circuit text).names circuit symbols).1 ∧
      ((readOnto names circuit text).isOk = true ↔
        (statements (readOnto names circuit text).names circuit symbols).2 = []) := by
  obtain ⟨hcursor, hnone⟩ := new_spec text names
  unfold readOnto
  -- each stage is replaced by an unknown that has the properties proved of it
  generalize Scanner.new text names = start at hcursor hnone
  obtain ⟨scanner, table⟩ := start
  dsimp only at hcursor hnone ⊢
  generalize table.takeCodes _ = issued
  obtain ⟨codes, table⟩ := issued
  dsimp only
  obtain ⟨htokens, hdiagnostics, -, hknown⟩ := throughEnd_spec scanner table
  generalize scanner.throughEnd table = scanned at htokens hdiagnostics hknown
  obtain ⟨symbols, scanner', table⟩ := scanned
  dsimp only at htokens hdiagnostics hknown ⊢
  rw [hcursor] at htokens
  refine ⟨symbols, hknown, htokens, rfl, ?_⟩
  have hseverity := severity_statements table circuit symbols
  have hcount := errorCount_report codes _ scanner' hseverity
  rw [hdiagnostics, hnone] at hcount
  rw [Reading.isOk, Reading.errorCount, decide_eq_true_iff, Diagnostic.errorCount,
    List.countP_append, ← Diagnostic.errorCount, ← Diagnostic.errorCount, errorCount_warnings,
    hcount, ← List.length_eq_zero_iff]
  show 0 + _ + 0 = 0 ↔ _
  omega

/-! ## The language -/

/-- The text declares the scope. -/
def Declares (text : String) (scope : Scope) : Prop :=
  .keyword .endWord ∈ tokens text ∧ ∃ program, Scope.empty.AcceptsAll program scope ∧
    (tokens text).takeWhile (· ≠ .keyword .endWord) = program.flatMap Statement.spell

/-- An `END` is read through. -/
theorem endWord_mem_throughEndWord {symbols : List Token} :
    .keyword .endWord ∈ throughEndWord symbols ↔ .keyword .endWord ∈ symbols := by
  rw [throughEndWord, List.mem_append]
  constructor
  · rintro (hbefore | hend)
    · exact List.takeWhile_subset _ hbefore
    · split at hend
      · assumption
      · cases hend
  · intro h
    rw [if_pos h]
    exact .inr List.mem_cons_self

/-- What has no `END` is taken whole. -/
theorem takeWhile_append_of_notMem {front : List Token} (hfront : Token.keyword .endWord ∉ front)
    (rest : List Token) : (front ++ rest).takeWhile (· ≠ .keyword .endWord)
      = front ++ rest.takeWhile (· ≠ .keyword .endWord) :=
  List.takeWhile_append_of_pos fun _ htoken => decide_eq_true fun heq => hfront (heq ▸ htoken)

/-- What is in front of the first `END` is read whole. -/
theorem throughEndWord_append {front : List Token} (hfront : Token.keyword .endWord ∉ front)
    (rest : List Token) : throughEndWord (front ++ rest) = front ++ throughEndWord rest := by
  have hmem : Token.keyword .endWord ∈ front ++ rest ↔ Token.keyword .endWord ∈ rest := by
    rw [List.mem_append, or_iff_right hfront]
  rw [throughEndWord, takeWhile_append_of_notMem hfront, List.append_assoc, throughEndWord]
  simp only [hmem]

/-- Spelling a program and `END` is the same as having the program before the first `END`. -/
theorem throughEndWord_eq_iff {symbols front : List Token}
    (hfront : Token.keyword .endWord ∉ front) :
    (∃ back, throughEndWord symbols = front ++ [.keyword .endWord] ++ back) ↔
      .keyword .endWord ∈ symbols ∧ symbols.takeWhile (· ≠ .keyword .endWord) = front := by
  constructor
  · rintro ⟨back, h⟩
    have hmem : .keyword .endWord ∈ symbols := by
      rw [← endWord_mem_throughEndWord, h]
      exact List.mem_append_left _ (List.mem_append_right _ List.mem_cons_self)
    refine ⟨hmem, ?_⟩
    have htake := congrArg (List.takeWhile (· ≠ Token.keyword .endWord)) h
    rw [throughEndWord, if_pos hmem, List.takeWhile_append_of_pos, List.append_assoc,
      takeWhile_append_of_notMem hfront] at htake
    · simpa using htake
    · intro token htoken
      simpa using List.mem_takeWhile_imp htoken
  · rintro ⟨hmem, rfl⟩
    refine ⟨[], ?_⟩
    rw [throughEndWord, if_pos hmem, List.append_nil]

/-- **The language of definitions.** A text is read without errors exactly if it declares a scope. What
has been built then is the circuit of that scope: the declared devices in order, each in its first
state and under the handle of its name, the declared connections and no others, and the declared
monitors in order. -/
theorem isOk_read_iff (text : String) :
    ((read text).isOk = true ↔ ∃ scope, Declares text scope) ∧
    ∀ scope, Declares text scope →
      (read text).circuit = scope.circuit (read text).names ∧
      ((read text).circuit.network.devices.map fun device => (device.name, device.kind))
        = scope.devices ∧
      (∀ device ∈ (read text).circuit.network.devices,
        (read text).names.text? device.id = some device.name) ∧
      (∀ connection, connection ∈ (read text).circuit.network.connections ↔
        connection ∈ scope.wires.map (Scope.connection (read text).names)) ∧
      (read text).circuit.monitors.points = scope.watched.map (Output.ref (read text).names) := by
  have hspec := readOnto_spec .empty .empty text
  rw [← read] at hspec
  obtain ⟨symbols, hknown, htokens, hcircuit, hok⟩ := hspec
  -- the circuit that a declaring text is read into
  have hread : ∀ scope, Declares text scope → scope.Legal ∧ scope.KnownTo (read text).names ∧
      statements (read text).names .empty symbols = (scope.circuit (read text).names, []) := by
    rintro scope ⟨hend, program, haccepts, hspell⟩
    obtain ⟨back, hthrough⟩ :=
      (throughEndWord_eq_iff (endWord_notMem_program program)).2 ⟨hend, hspell⟩
    rw [hthrough] at htokens
    obtain ⟨left, hreads, -⟩ := reads_of_map_token htokens
    exact ⟨haccepts.legal Scope.legal_empty, haccepts.knownTo Scope.knownTo_empty hknown hreads,
      statements_complete haccepts Scope.legal_empty Scope.knownTo_empty hknown hreads⟩
  refine ⟨⟨fun h => ?_, fun ⟨scope, hdeclares⟩ => ?_⟩, fun scope hdeclares => ?_⟩
  -- what has been read without a failure is a program, and `END` is where it stops
  · obtain ⟨program, scope, left, haccepts, hreads, -⟩ := statements_sound Scope.legal_empty
      Scope.knownTo_empty hknown (Prod.ext rfl (hok.1 h))
    obtain ⟨hend, hspell⟩ := (throughEndWord_eq_iff (endWord_notMem_program program)).1
      ⟨left.map Symbol.token, htokens ▸ hreads.map_token⟩
    exact ⟨scope, hend, program, haccepts, hspell⟩
  · rw [hok, (hread scope hdeclares).2.2]
  · obtain ⟨hlegal, hnames, hstatements⟩ := hread scope hdeclares
    have hbuilt : (read text).circuit = scope.circuit (read text).names := by
      rw [hcircuit, hstatements]
    rw [hbuilt]
    exact ⟨rfl, Scope.devices_network, fun device => Scope.text?_id_network hnames,
      fun connection => Scope.mem_connections_network hlegal, Scope.points_monitors⟩

/-! ### An example

A gate input may be written with leading zeros, and what follows the first `END` does not count. -/

def inverterText : String :=
  "define S as SWITCH 1 state; define G as NOR 1 inputs; connect S to G.I01; monitor G; END END"

/-- A switch wired to a gate, which is monitored. -/
def inverterScope : Scope :=
  { devices := [("S", .switch .high), ("G", .gate .nor 1)]
    wires := [(⟨"S", .main⟩, ⟨"G", .gate 1⟩)]
    watched := [⟨"G", .main⟩] }

/-- The text declares the scope: its tokens are spelled by four statements, and each is accepted. -/
theorem declares_inverterText : Declares inverterText inverterScope := by
  have htokens : tokens inverterText =
      [.keyword .define, .name "S", .keyword .as, .keyword .switch, .number "1", .keyword .state,
        .semicolon, .keyword .define, .name "G", .keyword .as, .keyword .nor, .number "1",
        .keyword .inputs, .semicolon, .keyword .connect, .name "S", .keyword .toWord, .name "G",
        .fullStop, .name "I01", .semicolon, .keyword .monitor, .name "G", .semicolon,
        .keyword .endWord, .keyword .endWord] := by
    decide +kernel
  refine ⟨by rw [htokens]; decide, [.define "S" [] (.switch .high),
    .define "G" [] (.gate .nor (by decide) "1"),
    .connect ⟨"S", .main⟩ ⟨"G", .numbered ['0', '1'] (by decide)⟩, .monitor ⟨"G", .main⟩ []],
    ?_, by rw [htokens]; decide⟩
  have hswitch : Body.Means (.switch .high) (.switch .high) := .switch .high
  have hgate : Body.Means (.gate .nor (by decide) "1") (.gate .nor 1) :=
    .gate .nor (by decide) "1" (by decide) (by decide)
  have hport : PortName.Means (.numbered ['0', '1'] (by decide)) (.gate .nor 1) (.gate 1) :=
    .numbered ['0', '1'] (by decide) .nor 1 (by decide) (by decide)
  refine .cons (.define hswitch (by decide) (by decide)) ?_
  refine .cons (.define hgate (by decide) (by decide)) ?_
  refine .cons (.connect ⟨.switch .high, by decide, by decide⟩ (by decide) hport (by decide)) ?_
  refine .cons (.monitor ?_ (by decide) (by decide)) (.nil _)
  exact List.forall_mem_singleton.2 ⟨.gate .nor 1, by decide, by decide⟩

theorem isOk_read_inverterText : Declares inverterText inverterScope ∧
    (read inverterText).isOk = true ∧
    ((read inverterText).circuit.network.devices.map fun device => (device.name, device.kind))
      = [("S", .switch .high), ("G", .gate .nor 1)] := by
  obtain ⟨hok, hbuilt⟩ := isOk_read_iff inverterText
  obtain ⟨-, hdevices, -⟩ := hbuilt inverterScope declares_inverterText
  exact ⟨declares_inverterText, hok.2 ⟨inverterScope, declares_inverterText⟩, hdevices⟩

end LogicCircuit.Definition
