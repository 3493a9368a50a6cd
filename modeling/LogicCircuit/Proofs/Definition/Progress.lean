import LogicCircuit.Proofs.Definition.Coverage
import LogicCircuit.Proofs.Definition.Orderly

/-!
# Progress — the turns that a reading takes

Reading is done in loops: over the names of a definition, over the runs of a waveform, over the outputs to be
monitored, over what is passed after a mistake, and over the statements of a text. A loop is taken apart into
turns here (`Loop`), so that what one turn passes over can be told from what the whole loop does.

The crux is the loop over statements. A statement may fail without having passed over anything, and recovery
may stop where it starts; but not both. A statement that starts with its word has passed over that word when
it fails, and recovery only stops at such a word, at `END`, or behind a semicolon.

* **`Loop.leaves`** — a loop whose turns pass over something leaves. Its turns start at symbols of their own.
* **`readOnto_turns`** — so do all loops of a reading, which hence takes no more turns than there are symbols,
  each of which takes up part of the text.
-/

namespace LogicCircuit.Definition

/-! ## Passing over something -/

/-- At least one item of the input has been passed over, and `left` is what remains. -/
def Beyond {ι : Type} (input left : List ι) : Prop :=
  ∃ passed, passed ≠ [] ∧ input = passed ++ left

section Beyond

variable {ι : Type} {input left rest : List ι} {first : ι}

/-- What is left below the first item is beyond it. -/
theorem beyond_of_suffix (h : left <:+ rest) : Beyond (first :: rest) left := by
  obtain ⟨passed, rfl⟩ := h
  exact ⟨first :: passed, by simp, rfl⟩

theorem beyond_of_length_lt (h : left <:+ input) (hlt : left.length < input.length) :
    Beyond input left := by
  obtain ⟨passed, rfl⟩ := h
  refine ⟨passed, ?_, rfl⟩
  rintro rfl
  exact Nat.lt_irrefl _ hlt

/-- Passing over something leaves less to read, which is what the loops end by. -/
theorem Beyond.length_lt (h : Beyond input left) : left.length < input.length := by
  obtain ⟨passed, hne, rfl⟩ := h
  have hpos := List.length_pos_iff.2 hne
  rw [List.length_append]
  omega

end Beyond

/-! ## Loops -/

/-- What one turn of a loop comes to. -/
inductive Turn (σ α : Type) where
  | again (state : σ)
  | leave (answer : α)

/-- A loop over symbols, by its turns. -/
structure Loop (σ α : Type) where
  turn : σ → Turn σ α
  /-- The symbols that a state has yet to read. -/
  unread : σ → List Symbol

namespace Loop

variable {σ α : Type} {loop : Loop σ α} {state next : σ} {answer : α}

/-- The turns from a state to the answer. Those that do not leave are listed by the states they start in. -/
inductive Runs (loop : Loop σ α) : σ → List σ → α → Prop where
  | leave {state : σ} {answer : α} (h : loop.turn state = .leave answer) : Runs loop state [] answer
  | again {state next : σ} {later : List σ} {answer : α} (h : loop.turn state = .again next)
      (hlater : Runs loop next later answer) : Runs loop state (state :: later) answer

/-- Every turn that does not leave passes over at least one symbol. -/
def Advances (loop : Loop σ α) : Prop :=
  ∀ state next, loop.turn state = .again next → Beyond (loop.unread state) (loop.unread next)

/-- The loop leaves with an answer. The turns before that start at symbols of the input, in their order and no
two at the same one. -/
def Leaves (loop : Loop σ α) (state : σ) (answer : α) : Prop :=
  ∃ (turns : List σ) (starts : List Symbol), loop.Runs state turns answer ∧
    turns.map (fun turn => (loop.unread turn).head?) = starts.map some ∧ starts.Sublist (loop.unread state)

/-- A function whose value one turn either gives, or leaves to the next turn. -/
def Computes (loop : Loop σ α) (f : σ → α) : Prop :=
  ∀ state, f state = match loop.turn state with
    | .leave answer => answer
    | .again next => f next

/-- A turn that passes over something starts at a symbol of its own, which none of the later turns starts
at. -/
theorem Leaves.again (h : loop.turn state = .again next)
    (hbeyond : Beyond (loop.unread state) (loop.unread next)) (hlater : loop.Leaves next answer) :
    loop.Leaves state answer := by
  obtain ⟨turns, starts, hruns, hheads, hsublist⟩ := hlater
  obtain ⟨passed, hne, hsplit⟩ := hbeyond
  obtain ⟨first, others, rfl⟩ := List.exists_cons_of_ne_nil hne
  refine ⟨state :: turns, first :: starts, .again h hruns, ?_, ?_⟩
  · rw [List.map_cons, List.map_cons, hheads, hsplit]
    rfl
  · rw [hsplit]
    exact (hsublist.trans (List.sublist_append_right others _)).cons_cons first

/-- **Loops leave.** By induction on the number of unread symbols. -/
theorem leaves {f : σ → α} (hadvances : loop.Advances) (hf : loop.Computes f) (state : σ) :
    loop.Leaves state (f state) := by
  rw [hf state]
  cases h : loop.turn state with
  | leave answer => exact ⟨[], [], .leave h, rfl, List.nil_sublist _⟩
  | again next =>
    have hbeyond := hadvances state next h
    have hlater := leaves hadvances hf next
    exact hlater.again h hbeyond
  termination_by (loop.unread state).length
  decreasing_by exact hbeyond.length_lt

end Loop

/-! ## The loops of a statement -/

/-- The loop of `readNames`. -/
def nameLoop (net : Network) :
    Loop (List (NameId × String) × List Symbol) (Except Failure (List (NameId × String) × List Symbol)) where
  turn
    | (listed, ⟨.name text id, offset⟩ :: rest) =>
      if (net.device? id).isSome || listed.any (fun entry => entry.1 = id) then
        .leave (.error (.mistake (.duplicateDevice text) (⟨.name text id, offset⟩ :: rest)))
      else if atKeyword .as rest then .leave (.ok (listed ++ [(id, text)], rest.tail))
      else .again (listed ++ [(id, text)], rest)
    | (listed, input) => .leave (.error (.wanted (if listed.isEmpty then .name else .keyword .as) input))
  unread := Prod.snd

/-- A turn that goes on has taken a name. -/
theorem nameLoop_advances (net : Network) : (nameLoop net).Advances := by
  rintro ⟨listed, input⟩ next h
  simp only [nameLoop] at h
  split at h
  · next listed text id offset rest hstate =>
    cases hstate
    split at h
    · cases h
    · split at h
      · cases h
      · cases h
        -- the name is taken off, and nothing else
        show Beyond (⟨.name text id, offset⟩ :: rest) rest
        exact beyond_of_suffix List.suffix_rfl
  · cases h

theorem nameLoop_computes (net : Network) :
    (nameLoop net).Computes fun state => readNames net state.1 state.2 := by
  rintro ⟨listed, input⟩
  cases input with
  | nil => rfl
  | cons symbol rest =>
    obtain ⟨kind, offset⟩ := symbol
    cases kind with
    | name text id =>
      simp only [nameLoop, readNames]
      split
      · rfl
      · -- only a name can go on
        split <;> rfl
    | _ => rfl

/-- The loop of `readRuns`. -/
def runLoop : Loop (List Run × List Symbol) (Except Failure (List Run × List Symbol)) where
  turn state :=
    match readRun (if state.1.isEmpty then .waveformStart else .waveformRest) state.2 with
    | .error failure => .leave (.error failure)
    | .ok (next, rest) =>
      if atKeyword .waveform rest then .leave (.ok (state.1 ++ [next], rest))
      else .again (state.1 ++ [next], rest)
  unread := Prod.snd

/-- A turn that goes on has read a run. -/
theorem runLoop_advances : runLoop.Advances := by
  rintro ⟨found, input⟩ next h
  simp only [runLoop] at h
  split at h
  · cases h
  · next run rest hrun =>
    have hwithin := readRun_staysWithin (if found.isEmpty then .waveformStart else .waveformRest) input
    rw [hrun] at hwithin
    split at h
    · cases h
    · cases h
      exact beyond_of_length_lt hwithin (length_readRun_lt hrun)

theorem runLoop_computes : runLoop.Computes fun state => readRuns state.1 state.2 := by
  rintro ⟨found, input⟩
  simp only [runLoop]
  rw [readRuns]
  split
  · next failure h => rw [h]
  · next run rest h =>
    rw [h]
    dsimp only
    split <;> rfl

/-- The loop of `monitor`. -/
def monitorLoop (table : NameTable) (net : Network) :
    Loop (Monitors × List Symbol) (Monitors × Except Failure (Unit × List Symbol)) where
  turn state :=
    match readOutput net state.2 with
    | .error failure => .leave (state.1, .error failure)
    | .ok (point, rest) =>
      match state.1.add table net point 0 with
      | .error fault => .leave (state.1, .error ⟨.mistake (.ofFault fault), .ofInput state.2, rest⟩)
      | .ok monitors => if atName rest then .again (monitors, rest) else .leave (monitors, readSemicolon rest)
  unread := Prod.snd

/-- A turn that goes on has read an output and monitors it. -/
theorem monitorLoop_advances (table : NameTable) (net : Network) : (monitorLoop table net).Advances := by
  rintro ⟨monitors, input⟩ next h
  simp only [monitorLoop] at h
  split at h
  · cases h
  · next point rest houtput =>
    have hwithin := readOutput_staysWithin net input
    rw [houtput] at hwithin
    split at h
    · cases h
    · split at h
      · cases h
        exact beyond_of_length_lt hwithin (length_readOutput_lt houtput)
      · cases h

theorem monitorLoop_computes (table : NameTable) (net : Network) :
    (monitorLoop table net).Computes fun state => monitor table net state.1 state.2 := by
  rintro ⟨monitors, input⟩
  simp only [monitorLoop]
  rw [monitor]
  split
  · next failure h => rw [h]
  · next point rest h =>
    rw [h]
    dsimp only
    cases monitors.add table net point 0 with
    | error fault => rfl
    | ok after =>
      dsimp only
      split <;> rfl

/-! ## Recovery -/

/-- The loop of `recover`, with what has been found on the way. -/
def recoveryLoop (failedAt : Place) : Loop (List Finding × List Symbol) (List Finding × List Symbol) where
  turn
    | (found, []) => .leave (found, [])
    | (found, symbol :: rest) =>
      if symbol.kind = .semicolon then .leave (found, rest)
      else if symbol.resumes then .leave (found, symbol :: rest)
      else match symbol.kind with
        | .invalid c =>
          let here := Place.atOffset symbol.offset
          if here = failedAt then .again (found, rest)
          else .again (found ++ [⟨.invalidCharacter c, some here⟩], rest)
        | _ => .again (found, rest)
  unread := Prod.snd

/-- A turn that goes on skips its symbol, whether or not that is reported. -/
theorem recoveryLoop_advances (failedAt : Place) : (recoveryLoop failedAt).Advances := by
  rintro ⟨found, input⟩ next h
  cases input with
  | nil => cases h
  | cons symbol rest =>
    -- three of the branches go on, all of them behind the symbol
    have hnext : next.2 = rest := by
      simp only [recoveryLoop] at h
      split at h
      · cases h
      · split at h
        · cases h
        · split at h
          · split at h <;> cases h <;> rfl
          · cases h
            rfl
    show Beyond (symbol :: rest) next.2
    rw [hnext]
    exact beyond_of_suffix List.suffix_rfl

theorem recoveryLoop_computes (failedAt : Place) : (recoveryLoop failedAt).Computes fun state =>
    (state.1 ++ (recover failedAt state.2).1, (recover failedAt state.2).2) := by
  rintro ⟨found, input⟩
  cases input with
  | nil => simp [recoveryLoop, recover]
  | cons symbol rest =>
    simp only [recoveryLoop, recover]
    split
    · simp
    · split
      · simp
      · cases symbol.kind with
        | invalid c =>
          dsimp only
          split
          · rfl
          · simp
        | _ => rfl

/-! ## Statements -/

/-- The loop of `statements`, with what has been found so far. -/
def statementLoop (table : NameTable) :
    Loop ((Circuit × List Finding) × List Symbol) (Circuit × List Finding) where
  turn
    | ((circuit, found), []) => .leave (circuit, found ++ [⟨.wanted .finalEnd, none⟩])
    | ((circuit, found), first :: rest) =>
      if first.isKeyword .endWord then .leave (circuit, found)
      else
        let after := statement table circuit first rest
        let resumed := resume after.2
        .again ((after.1, found ++ resumed.1), resumed.2)
  unread := Prod.snd

/-- A turn that goes on has read a statement and recovered from its mistake. -/
theorem statementLoop_advances (table : NameTable) : (statementLoop table).Advances := by
  rintro ⟨⟨circuit, found⟩, input⟩ next h
  cases input with
  | nil => cases h
  | cons first rest =>
    simp only [statementLoop] at h
    split at h
    · cases h
    · next hend =>
      cases h
      -- here a turn may fail without reading anything, so it takes recovery to pass over the first symbol
      exact beyond_of_suffix (resume_statement_suffix (Bool.eq_false_iff.2 hend))

theorem statementLoop_computes (table : NameTable) : (statementLoop table).Computes fun state =>
    ((statements table state.1.1 state.2).1, state.1.2 ++ (statements table state.1.1 state.2).2) := by
  rintro ⟨⟨circuit, found⟩, input⟩
  cases input with
  | nil => simp [statementLoop, statements]
  | cons first rest =>
    simp only [statementLoop]
    rw [statements]
    split
    · simp
    · simp

/-- Where a statement fails, and where recovery goes on from there. Either the statement has passed over its
first symbol, or recovery does so. -/
theorem recover_statement {table : NameTable} {circuit : Circuit} {first : Symbol} {rest : List Symbol}
    {failure : Failure} (hend : ¬ first.isKeyword .endWord)
    (h : (statement table circuit first rest).2 = .error failure) :
    (first.resumes ∧ failure.rest <:+ rest ∨ first.resumes = false ∧ failure.rest = first :: rest) ∧
      Beyond (first :: rest) (recover failure.place failure.rest).2 := by
  have hend' : first.isKeyword .endWord = false := Bool.eq_false_iff.2 hend
  constructor
  · -- with the word of a statement, the failure lies behind it; otherwise it is the word that is missing
    rcases statement_orderly hend' table circuit rest with ⟨hresumes, hcloses⟩ | ⟨hresumes, hfailed⟩
    · rw [h] at hcloses
      obtain ⟨⟨passed, -, hrest⟩, -⟩ := hcloses
      exact .inl ⟨hresumes, passed, hrest⟩
    · rw [h] at hfailed
      cases hfailed
      exact .inr ⟨hresumes, Failure.rest_wanted ..⟩
  · have hresumed : (resume (statement table circuit first rest).2).2 <:+ rest :=
      resume_statement_suffix hend'
    rw [h] at hresumed
    exact beyond_of_suffix hresumed

/-! ## Readings -/

/-- A symbol takes up part of the text. -/
theorem beyond_next {scanner after : Scanner} {names names' : NameTable} {symbol : Symbol}
    (h : scanner.next names = (some symbol, after, names')) :
    Beyond scanner.cursor.rest after.cursor.rest := by
  have hlt := Scanner.length_next_lt h
  refine beyond_of_length_lt ?_ hlt
  obtain ⟨gap, hgap, -, -⟩ := skipGapFrom_spec .blanks [] scanner.cursor.offset scanner.cursor.rest
  have hskip : scanner.cursor.skipGap.after.rest <:+ scanner.cursor.rest := ⟨gap, hgap.symm⟩
  unfold Scanner.next at h
  dsimp only at h
  split at h
  · cases h
  · next lexeme cursor hlexeme =>
    have hcursor : after.cursor = cursor := by
      cases h
      rfl
    obtain ⟨c, others, hrest⟩ : ∃ c others, scanner.cursor.skipGap.after.rest = c :: others := by
      refine List.exists_cons_of_ne_nil fun hnil => ?_
      rw [Cursor.lexeme?, hnil] at hlexeme
      cases hlexeme
    obtain ⟨lexeme', next, hlexeme', hwritten, -, -⟩ := Cursor.lexeme?_spec hrest
    rw [hlexeme] at hlexeme'
    cases hlexeme'
    rw [hcursor]
    exact List.IsSuffix.trans ⟨lexeme.written, hwritten.symm⟩ hskip

/-- Every symbol takes up a character of its own. -/
theorem length_throughEnd_le (scanner : Scanner) (names : NameTable) :
    (scanner.throughEnd names).1.length ≤ scanner.cursor.rest.length := by
  rw [Scanner.throughEnd]
  split
  · exact Nat.zero_le _
  · next symbol after names' h =>
    have hlt := Scanner.length_next_lt h
    split
    · exact Nat.one_le_of_lt hlt
    · have hlater := length_throughEnd_le after names'
      show (after.throughEnd names').1.length + 1 ≤ scanner.cursor.rest.length
      omega
  termination_by scanner.cursor.rest.length
  decreasing_by exact Scanner.length_next_lt (by assumption)

theorem length_symbolsOf_le (names : NameTable) (text : String) :
    (symbolsOf names text).length ≤ text.length :=
  length_throughEnd_le ..

/-- **A reading comes to its end**, whatever the text.

* Every symbol takes up at least one character, so there are no more symbols than characters.
* A loop over names, runs, outputs or symbols to be skipped passes over at least one symbol in each of its
  turns, or leaves. It does leave, with what the reader answers.
* A statement that fails has passed over its word, or has not started with one; then recovery passes over what
  it has started with. In both cases the next statement starts further on.
* So the loop over statements leaves. The statements that it tries start at symbols of their own. -/
theorem readOnto_turns (names : NameTable) (circuit : Circuit) (text : String) :
    let table := (readOnto names circuit text).names
    let symbols := symbolsOf names text
    (∀ (scanner after : Scanner) (names names' : NameTable) (symbol : Symbol),
      scanner.next names = (some symbol, after, names') → Beyond scanner.cursor.rest after.cursor.rest) ∧
    symbols.length ≤ text.length ∧
    (∀ net, (nameLoop net).Advances ∧
      ∀ listed input, (nameLoop net).Leaves (listed, input) (readNames net listed input)) ∧
    (runLoop.Advances ∧ ∀ found input, runLoop.Leaves (found, input) (readRuns found input)) ∧
    (∀ table net, (monitorLoop table net).Advances ∧
      ∀ monitors input, (monitorLoop table net).Leaves (monitors, input) (monitor table net monitors input)) ∧
    (∀ failedAt, (recoveryLoop failedAt).Advances ∧
      ∀ input, (recoveryLoop failedAt).Leaves ([], input) (recover failedAt input)) ∧
    (∀ (table : NameTable) (circuit : Circuit) (first : Symbol) (rest : List Symbol) (failure : Failure),
      ¬ first.isKeyword .endWord → (statement table circuit first rest).2 = .error failure →
        (first.resumes ∧ failure.rest <:+ rest ∨ first.resumes = false ∧ failure.rest = first :: rest) ∧
        Beyond (first :: rest) (recover failure.place failure.rest).2) ∧
    (statementLoop table).Advances ∧
    ∃ (attempts : List ((Circuit × List Finding) × List Symbol)) (starts : List Symbol),
      (statementLoop table).Runs ((circuit, []), symbols) attempts
        ((readOnto names circuit text).circuit, findingsOf names circuit text) ∧
      attempts.map (fun attempt => attempt.2.head?) = starts.map some ∧ starts.Sublist symbols ∧
      attempts.length ≤ symbols.length := by
  intro table symbols
  refine ⟨fun scanner after names names' symbol => beyond_next, length_symbolsOf_le names text,
    fun net => ⟨nameLoop_advances net, fun listed input => ?_⟩,
    ⟨runLoop_advances, fun found input => ?_⟩,
    fun table net => ⟨monitorLoop_advances table net, fun monitors input => ?_⟩,
    fun failedAt => ⟨recoveryLoop_advances failedAt, fun input => ?_⟩,
    fun table circuit first rest failure => recover_statement, statementLoop_advances table, ?_⟩
  · exact Loop.leaves (nameLoop_advances net) (nameLoop_computes net) (listed, input)
  · exact Loop.leaves runLoop_advances runLoop_computes (found, input)
  · exact Loop.leaves (monitorLoop_advances table net) (monitorLoop_computes table net) (monitors, input)
  · exact Loop.leaves (recoveryLoop_advances failedAt) (recoveryLoop_computes failedAt) ([], input)
  · obtain ⟨attempts, starts, hruns, hheads, hsublist⟩ :=
      Loop.leaves (statementLoop_advances table) (statementLoop_computes table) ((circuit, []), symbols)
    have hlength := congrArg List.length hheads
    rw [List.length_map, List.length_map] at hlength
    exact ⟨attempts, starts, hruns, hheads, hsublist, hlength ▸ hsublist.length_le⟩

end LogicCircuit.Definition
