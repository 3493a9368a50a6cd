import LogicCircuit.Proofs.Definition.Effects
import LogicCircuit.Proofs.Definition.Gaps

/-!
# Identifiers — what devices can be called

The only names that devices have are those that stand in definitions, and a scanner makes a name only of a
word that is no keyword. So all devices go by identifiers: a letter, then letters and digits. In particular
there is no dot in a name, so a dot in the name of a signal is always that in front of a port.

* **`identifying_symbolsOf`** — the names among the symbols of a text are identifiers.
* **`statement_legible`** — a statement adds devices under such names only, and monitors no output twice.
* **`readOnto_legible`** — so it is with what a whole text builds, whatever mistakes are in it.
-/

namespace LogicCircuit.Definition

/-- A name that a definition can give: a letter, then letters and digits, and no keyword. -/
structure IsIdentifier (text : String) : Prop where
  spelled : ∃ first body, text.toList = first :: body ∧ first.isAlpha ∧ ∀ c ∈ body, c.isAlphanum
  free : ∀ word : Keyword, text ≠ word.spelling

/-- There is no dot in an identifier, so the first dot in the name of a signal ends the device. -/
theorem IsIdentifier.dot_notMem {text : String} (h : IsIdentifier text) : '.' ∉ text.toList := by
  obtain ⟨first, body, htext, hfirst, hbody⟩ := h.spelled
  rw [htext, List.mem_cons, not_or]
  constructor
  · exact (ne_of_isAlphanum (isAlphanum_of_isAlpha hfirst) (by decide)).symm
  · intro hdot
    exact absurd (hbody '.' hdot) (by decide)

/-! ## Scanning -/

/-- The names among some symbols are identifiers. -/
def Identifying (symbols : List Symbol) : Prop :=
  ∀ symbol ∈ symbols, ∀ text id, symbol.kind = .name text id → IsIdentifier text

theorem Identifying.of_suffix {symbols left : List Symbol} (h : Identifying symbols)
    (hleft : left <:+ symbols) : Identifying left :=
  fun symbol hsymbol => h symbol (hleft.subset hsymbol)

/-- A word starts with a letter and goes on with letters and digits. -/
theorem spelled_of_lexeme? {cursor next : Cursor} {text : String}
    (h : cursor.lexeme? = some (.word text, next)) :
    ∃ first body, text.toList = first :: body ∧ first.isAlpha ∧ ∀ c ∈ body, c.isAlphanum := by
  unfold Cursor.lexeme? at h
  split at h
  · cases h
  · next first rest hrest =>
    split at h
    · cases h
    · split at h
      · cases h
      · split at h
        · next hfirst =>
          cases h
          refine ⟨first, rest.takeWhile Char.isAlphanum, ?_, hfirst, ?_⟩
          · simp [hrest, isAlphanum_of_isAlpha hfirst]
          · intro c hc
            exact List.mem_takeWhile_imp hc
        · split at h <;> cases h

/-- Only words make names, and only those that are no keywords. -/
theorem ofLexeme_eq_name {names : NameTable} {lexeme : Lexeme} {text : String} {id : NameId}
    (h : (SymbolKind.ofLexeme names lexeme).1 = .name text id) :
    lexeme = .word text ∧ Keyword.ofSpelling? text = none := by
  cases lexeme with
  | word found =>
    simp only [SymbolKind.ofLexeme] at h
    split at h
    · cases h
    · next hnone =>
      cases h
      exact ⟨rfl, hnone⟩
  | _ => cases h

/-- Where a scanner finds a name, it has found a word that is no keyword. -/
theorem identifier_of_next {scanner after : Scanner} {names names' : NameTable} {symbol : Symbol}
    {text : String} {id : NameId} (h : scanner.next names = (some symbol, after, names'))
    (hname : symbol.kind = .name text id) : IsIdentifier text := by
  unfold Scanner.next at h
  dsimp only at h
  split at h
  · cases h
  · next lexeme cursor hlexeme =>
    cases h
    obtain ⟨rfl, hnone⟩ := ofLexeme_eq_name hname
    refine ⟨spelled_of_lexeme? hlexeme, ?_⟩
    -- a keyword would have been found as such
    rintro word rfl
    rw [Keyword.ofSpelling?_spelling] at hnone
    cases hnone

theorem identifying_throughEnd (scanner : Scanner) (names : NameTable) :
    Identifying (scanner.throughEnd names).1 := by
  rw [Scanner.throughEnd]
  split
  · simp [Identifying]
  · next symbol after names' h =>
    have hfirst : ∀ text id, symbol.kind = .name text id → IsIdentifier text :=
      fun _ _ => identifier_of_next h
    split
    · simpa [Identifying] using hfirst
    · exact List.forall_mem_cons.2 ⟨hfirst, identifying_throughEnd after names'⟩
  termination_by scanner.cursor.rest.length
  decreasing_by exact Scanner.length_next_lt (by assumption)

/-- **Names in texts are identifiers.** -/
theorem identifying_symbolsOf (names : NameTable) (text : String) :
    Identifying (symbolsOf names text) :=
  identifying_throughEnd _ _

/-! ## Statements -/

variable {table : NameTable} {circuit : Circuit} {first : Symbol} {input rest left : List Symbol}

/-- A name that is read stands among the symbols, so it is one of theirs. -/
theorem Identifying.isIdentifier (h : Identifying input) {tokens : List Token} {text : String}
    (hreads : Reads input tokens left) (htext : .name text ∈ tokens) : IsIdentifier text := by
  obtain ⟨front, rfl, rfl⟩ := hreads
  obtain ⟨⟨kind, offset⟩, hsymbol, htoken⟩ := List.mem_map.1 htext
  cases kind with
  | name found id =>
    cases htoken
    exact h _ (List.mem_append_left _ hsymbol) text id rfl
  | _ => cases htoken

/-- A circuit whose devices go by identifiers, and that monitors no output twice. -/
structure Circuit.Legible (circuit : Circuit) : Prop where
  identifiers : ∀ entry ∈ circuit.network.roster, IsIdentifier entry.2.1
  nodup : circuit.monitors.points.Nodup

theorem Circuit.legible_empty : Circuit.empty.Legible where
  identifiers := by simp [Circuit.empty, Network.empty, Network.roster]
  nodup := by simp [Circuit.empty, Monitors.empty, Monitors.points]

/-- A definition that is read to its end adds devices by the names in it, and any other adds none. -/
theorem define_legible (h : circuit.Legible) (hinput : Known table input)
    (hnames : Identifying input) (start : Place) :
    ∀ entry ∈ (define circuit.network start input).1.roster, IsIdentifier entry.2.1 := by
  by_cases hsays : ∃ names kind left, Introduces table circuit.network input names kind left
  · obtain ⟨names, kind, left, hintroduces⟩ := hsays
    rw [define_of_introduces hinput start hintroduces]
    intro entry hentry
    rw [withDevices, Network.roster, List.map_append] at hentry
    rcases List.mem_append.1 hentry with hold | hnew
    · exact h.identifiers entry hold
    · rw [List.map_map] at hnew
      obtain ⟨name, hname, rfl⟩ := List.mem_map.1 hnew
      -- the new names stand in the definition
      obtain ⟨body, -, hreads⟩ := hintroduces.spelled
      apply hnames.isIdentifier hreads
      exact List.mem_append_left _ (List.mem_map_of_mem hname)
  · push Not at hsays
    obtain ⟨failure, hdefine⟩ := define_of_not_introduces hinput start hsays
    rw [hdefine]
    exact h.identifiers

/-- To connect devices does not rename any. -/
theorem roster_connectStatement (table : NameTable) (net : Network) (input : List Symbol) :
    (connect table net input).1.roster = net.roster := by
  unfold connect
  split
  · rfl
  · split
    · next after hconnect => exact Network.roster_connect hconnect
    · rfl

/-- What a statement monitors is new and each time another output, whether or not it is read to its end. -/
theorem nodup_points_monitor (h : circuit.Legible) (hnet : circuit.network.Distinct)
    (hinput : Known table input) :
    (monitor table circuit.network circuit.monitors input).1.points.Nodup := by
  obtain ⟨outputs, left, hrun⟩ := exists_monitorRun hnet hinput circuit.monitors
  rw [hrun.monitors_eq, points_withMonitors, List.nodup_append]
  refine ⟨h.nodup, hrun.watches.nodup, ?_⟩
  rintro point hold _ hnew rfl
  obtain ⟨output, houtput, rfl⟩ := List.mem_map.1 hnew
  exact hrun.watches.fresh output houtput hold

/-- **One statement**, read to its end or not. -/
theorem statement_legible (h : circuit.Legible) (hnet : circuit.network.WellFormed)
    (hinput : Known table rest) (hnames : Identifying rest) :
    (statement table circuit first rest).1.Legible := by
  by_cases hdefine : first.isKeyword .define
  · rw [statement_of_define hdefine]
    exact ⟨define_legible h hinput hnames _, h.nodup⟩
  · by_cases hconnect : first.isKeyword .connect
    · rw [statement_of_connect hconnect]
      refine ⟨?_, h.nodup⟩
      intro entry hentry
      rw [roster_connectStatement] at hentry
      exact h.identifiers entry hentry
    · by_cases hmonitor : first.isKeyword .monitor
      · rw [statement_of_monitor hmonitor]
        exact ⟨h.identifiers, nodup_points_monitor h hnet.distinct hinput⟩
      · rw [statement_of_other hdefine hconnect hmonitor]
        exact h

/-- **All statements**, by induction on those that have been read. -/
theorem Visits.legible {reached : Circuit} (hvisits : Visits table circuit input reached left)
    (h : circuit.Legible) (hnet : circuit.network.WellFormed) (hinput : Known table input)
    (hnames : Identifying input) : reached.Legible ∧ Identifying left := by
  induction hvisits with
  | start => exact ⟨h, hnames⟩
  | @next reached first rest hvisits hend ih =>
    obtain ⟨hreached, hleft⟩ := ih
    obtain ⟨hnet', hinput', -⟩ := hvisits.inOrder hnet hinput
    have hrest : Identifying rest := hleft.of_suffix (List.suffix_cons first rest)
    have hinput'' : Known table rest := hinput'.of_suffix (List.suffix_cons first rest)
    exact ⟨statement_legible hreached hnet' hinput'' hrest,
      hrest.of_suffix (resume_statement_suffix (Bool.eq_false_iff.2 hend))⟩

/-- **What a text builds** has identifiers for names, whatever mistakes are in it. -/
theorem readOnto_legible (names : NameTable) (text : String) (h : circuit.Legible)
    (hnet : circuit.network.WellFormed) : (readOnto names circuit text).circuit.Legible := by
  obtain ⟨last, hlast⟩ := Visits.exists_last
    (.start : Visits (readOnto names circuit text).names circuit (symbolsOf names text) circuit _)
  exact (hlast.legible h hnet (known_symbolsOf names circuit text)
    (identifying_symbolsOf names text)).1

end LogicCircuit.Definition
