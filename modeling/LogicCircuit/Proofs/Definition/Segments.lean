import LogicCircuit.Proofs.Definition.Failures
import LogicCircuit.Proofs.Definition.Orderly
import LogicCircuit.Proofs.Definition.Scanning

/-!
# Segments — the symbols alone say where statements start

A definition falls into segments: from the first symbol of a statement through the next semicolon, or up
to the next word that starts a statement, whichever comes first. Reading goes on at the same symbol
whether the statement has been read or has failed, wherever it has failed and whatever the circuit is:

* **`cutStatement`** and `segments` — the segmentation, a function of the symbols.
* **`resume_statement_cases`** — what comes of one statement. Readers pass over plain symbols only, so
  neither a statement that is read nor one that fails gets beyond its segment, and recovery stops
  where the segment ends.
* **`statements_reported`** — what comes of all statements, by induction over the segments.
* **`readOnto_segmented`** — what is reported falls into one report for each segment, with at most one
  error that is not about a character, and with some error if the segment lacks its semicolon.
-/

namespace LogicCircuit.Definition

variable {symbol first : Symbol} {input left rest : List Symbol}

/-! ## Segmentation -/

/-- Cuts the input behind its first semicolon, or in front of its first word that starts a statement,
whichever comes first. -/
def cut : List Symbol → List Symbol × List Symbol
  | [] => ([], [])
  | symbol :: rest =>
    if symbol.kind = .semicolon then ([symbol], rest)
    else if symbol.resumes then ([], symbol :: rest)
    else (symbol :: (cut rest).1, (cut rest).2)

/-- The segment of the statement that starts with a symbol, and the input after it. A word that starts a
statement ends the segment before it, but not its own. -/
def cutStatement (first : Symbol) (rest : List Symbol) : List Symbol × List Symbol :=
  if first.kind = .semicolon then ([first], rest) else (first :: (cut rest).1, (cut rest).2)

/-- Cutting loses nothing. -/
theorem cut_append (input : List Symbol) : (cut input).1 ++ (cut input).2 = input := by
  induction input with
  | nil => rfl
  | cons symbol rest ih =>
    rw [cut]
    split
    · rfl
    · split
      · rfl
      · rw [List.cons_append, ih]

/-- Cutting off a statement loses nothing. -/
theorem cutStatement_append (first : Symbol) (rest : List Symbol) :
    (cutStatement first rest).1 ++ (cutStatement first rest).2 = first :: rest := by
  rw [cutStatement]
  split
  · rfl
  · rw [List.cons_append, cut_append]

/-- What follows a segment is no longer than what follows its first symbol. -/
theorem length_cutStatement_le (first : Symbol) (rest : List Symbol) :
    (cutStatement first rest).2.length ≤ rest.length := by
  have hlength := congrArg List.length (cutStatement_append first rest)
  have hpos : 0 < (cutStatement first rest).1.length := by
    rw [cutStatement]
    split <;> simp
  rw [List.length_append, List.length_cons] at hlength
  omega

/-- The segments of an input before its first `END`. -/
def segments (input : List Symbol) : List (List Symbol) :=
  match input with
  | [] => []
  | first :: rest =>
    if first.isKeyword .endWord then []
    else (cutStatement first rest).1 :: segments (cutStatement first rest).2
  termination_by input.length
  decreasing_by exact Nat.lt_succ_of_le (length_cutStatement_le first rest)

theorem segments_endWord (hend : first.isKeyword .endWord) : segments (first :: rest) = [] := by
  rw [segments, if_pos hend]

theorem segments_cons (hend : first.isKeyword .endWord = false) : segments (first :: rest)
    = (cutStatement first rest).1 :: segments (cutStatement first rest).2 := by
  rw [segments, if_neg (Bool.eq_false_iff.1 hend)]

/-- Whether a segment ends with its semicolon. -/
def closed (segment : List Symbol) : Bool :=
  segment.getLast?.any fun symbol => symbol.kind = .semicolon

/-! ## Readers do not get beyond a segment -/

/-- A plain symbol is cut neither behind nor in front of. -/
theorem Symbol.plain_bounds (h : symbol.plain) :
    symbol.kind ≠ .semicolon ∧ symbol.resumes = false := by
  obtain ⟨kind, offset⟩ := symbol
  cases kind with
  | keyword word id =>
    refine ⟨(by intro heq; cases heq), ?_⟩
    simpa [Symbol.plain, Symbol.resumes] using h
  | semicolon => cases h
  | _ => exact ⟨(by intro heq; cases heq), rfl⟩

/-- Passing over plain symbols does not change where the input is cut. -/
theorem cut_of_passes (h : Passes input left) :
    ∃ passed, (∀ symbol ∈ passed, symbol.plain) ∧
      cut input = (passed ++ (cut left).1, (cut left).2) := by
  obtain ⟨passed, hplain, rfl⟩ := h
  refine ⟨passed, hplain, ?_⟩
  induction passed with
  | nil => rfl
  | cons symbol others ih =>
    obtain ⟨hsymbol, hothers⟩ := List.forall_mem_cons.1 hplain
    obtain ⟨hsemicolon, hresumes⟩ := symbol.plain_bounds hsymbol
    rw [List.cons_append, cut, if_neg hsemicolon, hresumes, ih hothers]
    rfl

/-- **Recovery.** It stops where the input is cut, and reports the stray characters in front, but for
one at the place of the failure. -/
theorem recover_eq (failedAt : Place) (input : List Symbol) :
    recover failedAt input = (((cut input).1.filterMap Symbol.stray?).filter
      fun finding => finding.place ≠ some failedAt, (cut input).2) := by
  induction input with
  | nil => rfl
  | cons symbol rest ih =>
    obtain ⟨kind, offset⟩ := symbol
    rw [recover, cut]
    split
    · next hsemicolon =>
      have hkind : kind = .semicolon := hsemicolon
      subst hkind
      rfl
    · split
      · rfl
      · -- a symbol that is passed over is either stray or not searched for
        dsimp only
        rw [ih]
        cases kind with
        | invalid c =>
          have hstray : Symbol.stray? ⟨.invalid c, offset⟩
              = some ⟨.invalidCharacter c, some (.atOffset offset)⟩ := rfl
          simp only [List.filterMap_cons_some hstray, List.filter_cons]
          by_cases hhere : Place.atOffset offset = failedAt
          · simp [hhere]
          · simp [hhere]
        | _ => rfl

/-! ## Statements and their segments -/

/-- The stray characters among the symbols, as they are to be reported. -/
def strays (symbols : List Symbol) : List Finding :=
  symbols.filterMap Symbol.stray?

theorem strays_append (symbols others : List Symbol) :
    strays (symbols ++ others) = strays symbols ++ strays others :=
  List.filterMap_append

/-- No plain symbol is stray. -/
theorem strays_of_plain {passed : List Symbol} (h : ∀ symbol ∈ passed, symbol.plain) :
    strays passed = [] := by
  refine List.filterMap_eq_nil_iff.2 fun symbol hmem => ?_
  have hplain := h symbol hmem
  obtain ⟨kind, offset⟩ := symbol
  cases kind with
  | invalid c => cases hplain
  | _ => rfl

/-- A symbol that starts no statement is cut off like any other. -/
theorem cut_cons (h : first.resumes = false) (rest : List Symbol) :
    cut (first :: rest) = cutStatement first rest := by
  rw [cut, cutStatement, h]
  rfl

/-- A word that starts a statement does not cut off its own. -/
theorem cutStatement_of_resumes (h : first.resumes) (rest : List Symbol) :
    cutStatement first rest = (first :: (cut rest).1, (cut rest).2) ∧ first.stray? = none := by
  obtain ⟨kind, offset⟩ := first
  cases kind with
  | keyword word id => exact ⟨rfl, rfl⟩
  | _ => cases h

/-- A statement that is read ends with the semicolon of its segment, and nothing in it is stray. -/
theorem resume_of_closes_ok {a : Unit} (hresumes : first.resumes)
    (h : Closes first rest (.ok (a, left))) :
    left = (cutStatement first rest).2 ∧ closed (cutStatement first rest).1 ∧
      strays (cutStatement first rest).1 = [] := by
  obtain ⟨offset, hpasses⟩ := h
  obtain ⟨hcut, hfirst⟩ := cutStatement_of_resumes hresumes rest
  obtain ⟨passed, hplain, hrest⟩ := cut_of_passes hpasses
  have hsemicolon : cut (⟨.semicolon, offset⟩ :: left) = ([⟨.semicolon, offset⟩], left) := rfl
  rw [hsemicolon] at hrest
  rw [hcut, hrest]
  refine ⟨rfl, ?_, ?_⟩
  · rw [closed, ← List.cons_append, List.getLast?_concat]
    rfl
  · have hstray : strays (first :: (passed ++ [⟨.semicolon, offset⟩]))
        = strays (passed ++ [⟨.semicolon, offset⟩]) := List.filterMap_cons_none hfirst
    rw [hstray, strays_append, strays_of_plain hplain]
    rfl

/-- A statement that fails leaves the stray characters of its segment unread. -/
theorem strays_of_passes {failure : Failure} (hresumes : first.resumes)
    (hpasses : Passes rest failure.rest) :
    strays (cut failure.rest).1 = strays (cutStatement first rest).1 ∧
      (cut failure.rest).2 = (cutStatement first rest).2 := by
  obtain ⟨hcut, hfirst⟩ := cutStatement_of_resumes hresumes rest
  obtain ⟨passed, hplain, hrest⟩ := cut_of_passes hpasses
  have hstray : strays (first :: (cut rest).1) = strays (cut rest).1 :=
    List.filterMap_cons_none hfirst
  rw [hcut, hstray, hrest, strays_append, strays_of_plain hplain]
  exact ⟨rfl, rfl⟩

/-- **One statement.** It is read through the semicolon of its segment, in which nothing is stray; or it
fails, and the rest of the segment is searched for stray characters. Reading goes on behind the segment
in any case. -/
theorem resume_statement_cases (hend : first.isKeyword .endWord = false) (table : NameTable)
    (circuit : Circuit) (rest : List Symbol) :
    (resume (statement table circuit first rest).2 = ([], (cutStatement first rest).2) ∧
      closed (cutStatement first rest).1 ∧ strays (cutStatement first rest).1 = []) ∨
    ∃ failure, failure.problem.severity = .error ∧ Blames (first :: rest) failure ∧
      strays (cut failure.rest).1 = strays (cutStatement first rest).1 ∧
      resume (statement table circuit first rest).2
        = (⟨failure.problem, some failure.place⟩ ::
            (strays (cutStatement first rest).1).filter
              fun finding => finding.place ≠ some failure.place,
          (cutStatement first rest).2) := by
  have hresume : ∀ failure : Failure, resume (.error failure)
      = (⟨failure.problem, some failure.place⟩ ::
          (strays (cut failure.rest).1).filter fun finding => finding.place ≠ some failure.place,
        (cut failure.rest).2) := by
    intro failure
    rw [resume, recover_eq]
    rfl
  have hgrave := grave_statement table circuit first rest
  rcases statement_orderly hend table circuit rest with ⟨hresumes, hcloses⟩ | ⟨hresumes, hfailed⟩
  · cases houtcome : (statement table circuit first rest).2 with
    | ok outcome =>
      rw [houtcome] at hcloses
      obtain ⟨hleft, hclosed, hstrays⟩ := resume_of_closes_ok hresumes hcloses
      exact .inl ⟨congrArg (Prod.mk []) hleft, hclosed, hstrays⟩
    | error failure =>
      rw [houtcome] at hcloses hgrave
      obtain ⟨hstrays, hleft⟩ := strays_of_passes hresumes hcloses.1
      refine .inr ⟨failure, hgrave, hcloses.2, hstrays, ?_⟩
      rw [hresume, hstrays, hleft]
  · -- the first symbol starts no statement, and the failure leaves it unread
    rw [hfailed] at hgrave ⊢
    refine .inr ⟨.wanted .statement (first :: rest), hgrave, .wanted .statement _, ?_, ?_⟩
    · rw [Failure.rest_wanted, cut_cons hresumes]
    · rw [hresume, Failure.rest_wanted, cut_cons hresumes]

/-- **Where reading goes on** depends on the symbols alone. -/
theorem resume_statement_left (hend : first.isKeyword .endWord = false) (table : NameTable)
    (circuit : Circuit) :
    (resume (statement table circuit first rest).2).2 = (cutStatement first rest).2 := by
  rcases resume_statement_cases hend table circuit rest with
    ⟨hresume, -⟩ | ⟨_, -, -, -, hresume⟩
  · rw [hresume]
  · rw [hresume]

/-! ## Reports -/

/-- What is reported about a segment: one error at most that is not about a character, and some error if
the segment does not end with its semicolon. -/
structure Reported (segment : List Symbol) (found : List Diagnostic) : Prop where
  one : (found.countP fun diagnostic =>
    diagnostic.isError ∧ diagnostic.category ≠ some .lexical) ≤ 1
  unclosed : closed segment = false → ∃ diagnostic ∈ found, diagnostic.isError

/-- What is reported about one statement is a report about its segment. -/
theorem reported_resume (hend : first.isKeyword .endWord = false) (table : NameTable)
    (circuit : Circuit) (codes : ErrorCodes) (doc : Text.Document) :
    Reported (cutStatement first rest).1
      ((resume (statement table circuit first rest).2).1.map (Finding.diagnostic codes doc)) := by
  rcases resume_statement_cases hend table circuit rest with
    ⟨hresume, hclosed, -⟩ | ⟨failure, hgrave, -, -, hresume⟩
  · rw [hresume]
    refine ⟨by simp, fun hunclosed => ?_⟩
    rw [hclosed] at hunclosed
    cases hunclosed
  · rw [hresume, List.map_cons]
    refine ⟨?_, fun _ => ⟨_, List.mem_cons_self, decide_eq_true hgrave⟩⟩
    -- all but the first are about characters
    have hlexical : ∀ diagnostic ∈ ((strays (cutStatement first rest).1).filter
        fun finding => finding.place ≠ some failure.place).map (Finding.diagnostic codes doc),
        diagnostic.category = some .lexical := by
      intro diagnostic hmem
      obtain ⟨finding, hfinding, rfl⟩ := List.mem_map.1 hmem
      obtain ⟨symbol, -, hstray⟩ := List.mem_filterMap.1 (List.mem_of_mem_filter hfinding)
      obtain ⟨c, -, rfl⟩ := symbol.stray?_eq_some hstray
      rfl
    rw [List.countP_cons, List.countP_eq_zero.2]
    · split <;> omega
    · intro diagnostic hmem
      simp [hlexical diagnostic hmem]

/-- What is found where the input ends without `END`. -/
def missingEnd (input : List Symbol) : List Finding :=
  if input.any fun symbol => symbol.isKeyword .endWord then [] else [⟨.wanted .finalEnd, none⟩]

/-- Where the text ends, recovery stops. -/
theorem Symbol.resumes_of_endWord (h : symbol.isKeyword .endWord) : symbol.resumes := by
  obtain ⟨kind, offset⟩ := symbol
  cases kind with
  | keyword word id =>
    obtain rfl : word = .endWord := of_decide_eq_true h
    rfl
  | _ => cases h

/-- What is cut off has no `END` in it. -/
theorem endWord_notMem_cut (input : List Symbol) :
    (cut input).1.any (fun symbol => symbol.isKeyword .endWord) = false := by
  induction input with
  | nil => rfl
  | cons symbol rest ih =>
    rw [cut]
    split
    · next hsemicolon =>
      rw [List.any_cons, Symbol.isKeyword, hsemicolon]
      rfl
    · split
      · rfl
      · next hresumes =>
        rw [List.any_cons, ih, Bool.or_false]
        exact Bool.eq_false_iff.2 fun hend => hresumes (Symbol.resumes_of_endWord hend)

/-- The first `END` stands behind all segments before it. -/
theorem missingEnd_cutStatement (hend : first.isKeyword .endWord = false) :
    missingEnd (cutStatement first rest).2 = missingEnd (first :: rest) := by
  have hsegment : (cutStatement first rest).1.any (fun symbol => symbol.isKeyword .endWord) = false := by
    rw [cutStatement]
    split
    · rw [List.any_cons, hend]
      rfl
    · rw [List.any_cons, hend, endWord_notMem_cut]
      rfl
  rw [missingEnd, missingEnd, ← cutStatement_append, List.any_append, hsegment, Bool.false_or]

/-- **A run over all statements.** What it finds falls into reports about the segments, one after the
other. -/
theorem statements_reported (table : NameTable) (codes : ErrorCodes) (doc : Text.Document)
    (circuit : Circuit) (input : List Symbol) : ∃ reports : List (List Diagnostic),
      (statements table circuit input).2.map (Finding.diagnostic codes doc)
        = reports.flatten ++ (missingEnd input).map (Finding.diagnostic codes doc) ∧
      List.Forall₂ Reported (segments input) reports := by
  rw [statements.eq_def]
  split
  · exact ⟨[], rfl, by rw [segments]; exact .nil⟩
  · next first rest =>
    split
    · next hend =>
      rw [segments_endWord hend]
      exact ⟨[], by simp [missingEnd, hend], .nil⟩
    · next hend =>
      have hend' : first.isKeyword .endWord = false := Bool.eq_false_iff.2 hend
      rw [segments_cons hend']
      have hshorter := Nat.lt_succ_of_le (length_cutStatement_le first rest)
      -- the statement is reported about its segment, and the others are read behind that
      obtain ⟨reports, hfound, hreports⟩ := statements_reported table codes doc
        (statement table circuit first rest).1 (cutStatement first rest).2
      refine ⟨_ :: reports, ?_, .cons (reported_resume hend' table circuit codes doc) hreports⟩
      dsimp only
      rw [resume_statement_left hend', List.map_append, hfound, List.flatten_cons, List.append_assoc,
        missingEnd_cutStatement hend']
  termination_by input.length

/-- **Segmentation depends on the symbols alone.** After any statement, in any circuit, reading goes on
where the segment of the statement ends. So the diagnostics of a definition fall into reports about its
segments, in order: one error at most that is not about a character in each, and some error in each that
lacks its semicolon. -/
theorem readOnto_segmented :
    (∀ (table : NameTable) (circuit : Circuit) (first : Symbol) (rest : List Symbol)
      (codes : ErrorCodes) (doc : Text.Document), first.isKeyword .endWord = false →
      let resumed := resume (statement table circuit first rest).2
      resumed.2 = (cutStatement first rest).2 ∧
        Reported (cutStatement first rest).1 (resumed.1.map (Finding.diagnostic codes doc))) ∧
    ∀ (names : NameTable) (circuit : Circuit) (text : String),
      let reading := readOnto names circuit text
      let symbols := symbolsOf names text
      ∃ reports : List (List Diagnostic),
        reading.diagnostics = reports.flatten ++
          (missingEnd symbols).map (Finding.diagnostic reading.codes (documentOf names text)) ++
          warnings reading.circuit reading.codes ∧
        List.Forall₂ Reported (segments symbols) reports := by
  refine ⟨fun table circuit first rest codes doc hend => ?_, fun names circuit text => ?_⟩
  · exact ⟨resume_statement_left hend table circuit, reported_resume hend table circuit codes doc⟩
  · obtain ⟨reports, hfound, hreports⟩ := statements_reported (readOnto names circuit text).names
      (readOnto names circuit text).codes (documentOf names text) circuit (symbolsOf names text)
    refine ⟨reports, ?_, hreports⟩
    rw [diagnostics_readOnto, findingsOf, hfound]

/-- In `define A monitor ;` the first statement is left at the word that starts the second, and
something is reported about it. -/
theorem readOnto_segmented_unclosed :
    let first : Symbol := ⟨.keyword .define ⟨0⟩, 0⟩
    let second : List Symbol := [⟨.keyword .monitor ⟨2⟩, 9⟩, ⟨.semicolon, 17⟩]
    let resumed := resume (statement .empty .empty first (⟨.name "A" ⟨27⟩, 7⟩ :: second)).2
    first.isKeyword .endWord = false ∧ resumed.2 = second ∧
      ∃ diagnostic ∈ resumed.1.map (Finding.diagnostic ⟨0, 27⟩ (.ofText "define A monitor ;")),
        diagnostic.isError := by
  intro first second resumed
  obtain ⟨hleft, hreported⟩ := readOnto_segmented.1 .empty .empty first
    (⟨.name "A" ⟨27⟩, 7⟩ :: second) ⟨0, 27⟩ (.ofText "define A monitor ;") rfl
  exact ⟨rfl, hleft, hreported.unclosed rfl⟩

end LogicCircuit.Definition
