import LogicCircuit.Proofs.Definition.Segments

/-!
# Strays — the characters that are reported, and those that are not

A character that no lexeme has is to be reported, once and at its own place, wherever it stands. A
failure that blames it reports it, and recovery reports all others of the segment; it recognizes the one
that has been reported by comparing places. That is sound unless a failure at the place of a stray
character is about something else, and there is one such failure: a reference to an output of a
flip-flop that lacks its port is blamed on the symbol after the name, whatever that is. A stray
character there is hidden:

* **`lexical_resume`** — what is reported about the characters of one segment.
* **`lexical_statements`** — and about those of all segments, since a hidden character lies in the
  segment of the failure that hides it.
* **`lexical_readOnto`** — so the lexical diagnostics of a definition are those of its stray
  characters, in order and once each, but for the hidden ones.
* **`lexical_readOnto_hidden`** — a definition with a hidden character.
-/

namespace LogicCircuit.Definition

variable {first : Symbol} {input left rest symbols : List Symbol} {finding stray : Finding}

/-! ## Hidden characters -/

/-- Whether a finding is about a character. -/
def Finding.lexical (finding : Finding) : Bool :=
  finding.problem.category = .lexical

/-- Whether a finding is about a reference to an output that lacks its port. -/
def Finding.lacksPort (finding : Finding) : Bool :=
  match finding.problem with
  | .mistake (.missingOutputPort _) => true
  | _ => false

/-- Whether the place of a stray character is taken by a reference that lacks its port. -/
def hidden (found : List Finding) (stray : Finding) : Bool :=
  found.any fun finding => finding.lacksPort && finding.place = stray.place

theorem hidden_append (found found' : List Finding) (stray : Finding) :
    hidden (found ++ found') stray = (hidden found stray || hidden found' stray) :=
  List.any_append

/-- A stray character is found at a symbol, and is about a character. -/
theorem exists_of_mem_strays (h : stray ∈ strays symbols) :
    ∃ symbol ∈ symbols, symbol.stray? = some stray ∧ stray.place = some (.atOffset symbol.offset) ∧
      stray.lexical ∧ stray.lacksPort = false := by
  obtain ⟨symbol, hmem, hstray⟩ := List.mem_filterMap.1 h
  obtain ⟨c, -, rfl⟩ := symbol.stray?_eq_some hstray
  exact ⟨symbol, hmem, hstray, rfl, rfl, rfl⟩

/-- An offset belongs to one symbol. -/
theorem Increasing.eq_of_offset_eq (h : Increasing symbols) {symbol other : Symbol}
    (hsymbol : symbol ∈ symbols) (hother : other ∈ symbols) (hoffset : symbol.offset = other.offset) :
    symbol = other := by
  have hdistinct : (symbols.map Symbol.offset).Nodup :=
    List.pairwise_map.2 (h.imp fun hlt => Nat.ne_of_lt hlt)
  exact List.inj_on_of_nodup_map hdistinct hsymbol hother hoffset

/-- No two stray characters share a place. -/
theorem Increasing.strays_distinct (h : Increasing symbols) :
    (strays symbols).Pairwise fun stray later => stray.place ≠ later.place := by
  refine List.pairwise_filterMap.2 (h.imp fun {symbol later} hlt found hfound found' hfound' => ?_)
  obtain ⟨c, -, rfl⟩ := symbol.stray?_eq_some hfound
  obtain ⟨c', -, rfl⟩ := later.stray?_eq_some hfound'
  intro heq
  have hoffset : symbol.offset = later.offset := by simpa using heq
  omega

/-! ## One segment -/

/-- The first unread symbol of a failed statement is in its segment, if it is a stray character. -/
theorem strays_cut_cons (c : Char) (offset : Nat) (tail : List Symbol) :
    strays (cut (⟨.invalid c, offset⟩ :: tail)).1
      = ⟨.invalidCharacter c, some (.atOffset offset)⟩ :: strays (cut tail).1 := rfl

/-- Only a reference that lacks its port hides a character. -/
theorem hidden_eq_false {found : List Finding} (h : ∀ finding ∈ found, finding.lacksPort = false)
    (stray : Finding) : hidden found stray = false := by
  refine List.any_eq_false.2 fun finding hmem => ?_
  rw [h finding hmem]
  exact Bool.false_ne_true

/-- The characters of a segment whose failure is not about one of them. -/
theorem lexical_failure {failure : Finding} {found : List Finding}
    (hfound : ∀ stray ∈ found, stray.lexical ∧ stray.lacksPort = false)
    (hfailure : failure.lexical = false)
    (hplace : ∀ stray ∈ found, stray.place = failure.place → failure.lacksPort) :
    (failure :: found.filter fun stray => stray.place ≠ failure.place).filter Finding.lexical
      = found.filter fun stray =>
          !hidden (failure :: found.filter fun stray => stray.place ≠ failure.place) stray := by
  have hlexical : (found.filter fun stray => stray.place ≠ failure.place).filter Finding.lexical
      = found.filter fun stray => stray.place ≠ failure.place :=
    List.filter_eq_self.2 fun stray hmem => (hfound stray (List.mem_of_mem_filter hmem)).1
  have hnone : ∀ stray,
      hidden (found.filter fun stray => stray.place ≠ failure.place) stray = false :=
    hidden_eq_false fun stray hmem => (hfound stray (List.mem_of_mem_filter hmem)).2
  rw [List.filter_cons, if_neg (Bool.eq_false_iff.1 hfailure), hlexical]
  refine List.filter_congr fun stray hmem => ?_
  have hcons : hidden (failure :: found.filter fun stray => stray.place ≠ failure.place) stray
      = (failure.lacksPort && decide (failure.place = stray.place)) := by
    rw [hidden, List.any_cons]
    exact (congrArg (_ || ·) (hnone stray)).trans (Bool.or_false _)
  rw [hcons]
  by_cases hsame : stray.place = failure.place
  · simp [hsame, hplace stray hmem hsame]
  · simp [hsame, Ne.symm hsame]

/-- The characters of a segment whose failure is about the first of them. -/
theorem lexical_failure_stray {failure : Finding} {others : List Finding}
    (hall : ∀ stray ∈ failure :: others, stray.lexical ∧ stray.lacksPort = false)
    (hdistinct : ∀ stray ∈ others, failure.place ≠ stray.place) :
    (failure :: (failure :: others).filter fun stray => stray.place ≠ failure.place).filter
        Finding.lexical
      = (failure :: others).filter fun stray => !hidden
          (failure :: (failure :: others).filter fun stray => stray.place ≠ failure.place) stray := by
  have hothers : (failure :: others).filter (fun stray => stray.place ≠ failure.place) = others := by
    rw [List.filter_cons_of_neg (by simp)]
    exact List.filter_eq_self.2 fun stray hmem => decide_eq_true (hdistinct stray hmem).symm
  rw [hothers, List.filter_eq_self.2 fun stray hmem => (hall stray hmem).1]
  refine (List.filter_eq_self.2 fun stray _ => ?_).symm
  rw [hidden_eq_false fun stray hmem => (hall stray hmem).2]
  rfl

/-- **The characters of one segment.** All stray characters are reported, but for one that is hidden. -/
theorem lexical_resume {table : NameTable} (hend : first.isKeyword .endWord = false)
    (hincreasing : Increasing (first :: rest)) (circuit : Circuit) :
    let found := (resume (statement table circuit first rest).2).1
    found.filter Finding.lexical
      = (strays (cutStatement first rest).1).filter fun stray => !hidden found stray := by
  intro found
  rcases resume_statement_cases hend table circuit rest with
    ⟨hresume, -, hnone⟩ | ⟨failure, -, hblames, hstrays, hresume⟩
  · have hfound : found = [] := congrArg Prod.fst hresume
    rw [hfound, hnone]
    rfl
  · have hfound : found = _ := congrArg Prod.fst hresume
    have hdistinct := hincreasing.strays_distinct
    rw [← cutStatement_append first rest, strays_append] at hdistinct
    -- what recovery reports is about characters, and takes the place of none
    have hall : ∀ stray ∈ strays (cutStatement first rest).1,
        stray.lexical ∧ stray.lacksPort = false := by
      intro stray hmem
      obtain ⟨_, -, -, -, hlexical, hport⟩ := exists_of_mem_strays hmem
      exact ⟨hlexical, hport⟩
    have hsegment : ∀ stray ∈ strays (cutStatement first rest).1,
        ∃ symbol ∈ first :: rest, symbol.stray? = some stray ∧
          stray.place = some (.atOffset symbol.offset) := by
      intro stray hmem
      obtain ⟨symbol, hsymbol, hstray, hplace, -⟩ := exists_of_mem_strays hmem
      refine ⟨symbol, ?_, hstray, hplace⟩
      rw [← cutStatement_append first rest]
      exact List.mem_append_left _ hsymbol
    rw [hfound]
    cases hblames with
    | stray c offset tail =>
      -- the failure reports the first stray character, and recovery those behind it
      rw [strays_cut_cons] at hstrays
      rw [← hstrays] at hdistinct hall ⊢
      exact lexical_failure_stray hall
        (List.pairwise_cons.1 (List.pairwise_append.1 hdistinct).1).1
    | hidden name c offset tail => exact lexical_failure hall rfl fun _ _ _ => rfl
    | textEnd problem tail hproblem =>
      -- a symbol has an offset, and the end of the text has none
      refine lexical_failure hall (decide_eq_false hproblem) fun stray hmem hsame => ?_
      obtain ⟨symbol, -, -, hplace⟩ := hsegment stray hmem
      rw [hplace] at hsame
      cases hsame
    | sound problem symbol tail hproblem hsymbol hsound =>
      refine lexical_failure hall (decide_eq_false hproblem) fun stray hmem hsame => ?_
      obtain ⟨other, hother, hstray, hplace⟩ := hsegment stray hmem
      rw [hplace] at hsame
      -- the symbol that is blamed is the only one at its offset, and it is not stray
      have hoffset : other.offset = symbol.offset := by simpa using hsame
      rw [hincreasing.eq_of_offset_eq hother hsymbol hoffset, hsound] at hstray
      cases hstray

/-- What may be hidden by a reference that lacks its port is in the same segment. -/
theorem place_of_lacksPort {table : NameTable} (hend : first.isKeyword .endWord = false)
    (circuit : Circuit) (hmem : finding ∈ (resume (statement table circuit first rest).2).1)
    (hport : finding.lacksPort) :
    finding.place = some .textEnd ∨
    (∃ symbol ∈ first :: rest, symbol.stray? = none ∧ finding.place = some (.atOffset symbol.offset)) ∨
    ∃ stray ∈ strays (cutStatement first rest).1, finding.place = stray.place := by
  rcases resume_statement_cases hend table circuit rest with
    ⟨hresume, -, -⟩ | ⟨failure, -, hblames, hstrays, hresume⟩
  · rw [hresume] at hmem
    cases hmem
  · rw [hresume] at hmem
    rcases List.mem_cons.1 hmem with rfl | hother
    · rw [← hstrays]
      cases hblames with
      | stray c offset tail => cases hport
      | hidden name c offset tail =>
        rw [strays_cut_cons]
        exact .inr (.inr ⟨_, List.mem_cons_self, rfl⟩)
      | textEnd problem tail hproblem => exact .inl rfl
      | sound problem symbol tail hproblem hsymbol hstray =>
        exact .inr (.inl ⟨symbol, hsymbol, hstray, rfl⟩)
    · obtain ⟨_, -, -, -, -, hnot⟩ := exists_of_mem_strays (List.mem_of_mem_filter hother)
      rw [hnot] at hport
      cases hport

/-! ## All segments -/

theorem cutStatement_suffix : (cutStatement first rest).2 <:+ first :: rest := by
  rw [← cutStatement_append first rest]
  exact List.suffix_append ..

/-- A reference that lacks its port is reported at a symbol, or where the text ends. -/
theorem offset_of_lacksPort (table : NameTable) (circuit : Circuit) (input : List Symbol) :
    ∀ finding ∈ (statements table circuit input).2, finding.lacksPort → ∀ offset,
      finding.place = some (.atOffset offset) → ∃ symbol ∈ input, symbol.offset = offset := by
  rw [statements.eq_def]
  split
  · intro finding hmem hport
    rw [List.mem_singleton.1 hmem] at hport
    cases hport
  · next first rest =>
    split
    · intro finding hmem
      cases hmem
    · next hend =>
      have hend' : first.isKeyword .endWord = false := Bool.eq_false_iff.2 hend
      have hshorter := Nat.lt_succ_of_le (length_cutStatement_le first rest)
      intro finding hmem hport offset hoffset
      rcases List.mem_append.1 hmem with hhere | hlater
      · -- the finding is at a symbol of this statement or of its segment
        rcases place_of_lacksPort hend' circuit hhere hport with
          hplace | ⟨symbol, hsymbol, -, hplace⟩ | ⟨stray, hstray, hplace⟩
        · rw [hplace] at hoffset
          cases hoffset
        · rw [hplace] at hoffset
          cases hoffset
          exact ⟨symbol, hsymbol, rfl⟩
        · obtain ⟨symbol, hsymbol, -, hat, -⟩ := exists_of_mem_strays hstray
          rw [hplace, hat] at hoffset
          cases hoffset
          refine ⟨symbol, ?_, rfl⟩
          rw [← cutStatement_append first rest]
          exact List.mem_append_left _ hsymbol
      · rw [resume_statement_left hend'] at hlater
        obtain ⟨symbol, hsymbol, hat⟩ :=
          offset_of_lacksPort table _ (cutStatement first rest).2 finding hlater hport offset hoffset
        exact ⟨symbol, cutStatement_suffix.subset hsymbol, hat⟩
  termination_by input.length

/-- A reference that lacks its port hides no character of a later segment. -/
theorem hidden_resume_eq_false {table : NameTable} (hend : first.isKeyword .endWord = false)
    (hincreasing : Increasing (first :: rest)) (circuit : Circuit)
    (hmem : stray ∈ strays (cutStatement first rest).2) :
    hidden (resume (statement table circuit first rest).2).1 stray = false := by
  obtain ⟨symbol, hsymbol, hstray, hplace, -⟩ := exists_of_mem_strays hmem
  have hdistinct := hincreasing.strays_distinct
  rw [← cutStatement_append first rest, strays_append] at hdistinct
  refine List.any_eq_false.2 fun finding hfinding hhides => ?_
  rw [Bool.and_eq_true, decide_eq_true_eq] at hhides
  obtain ⟨hport, hsame⟩ := hhides
  rcases place_of_lacksPort hend circuit hfinding hport with
    hat | ⟨other, hother, hsound, hat⟩ | ⟨other, hother, hat⟩
  · rw [hsame, hplace] at hat
    cases hat
  · rw [hsame, hplace] at hat
    have hoffset : symbol.offset = other.offset := by simpa using hat
    rw [hincreasing.eq_of_offset_eq (cutStatement_suffix.subset hsymbol) hother hoffset,
      hsound] at hstray
    cases hstray
  · exact (List.pairwise_append.1 hdistinct).2.2 other hother stray hmem (hat.symm.trans hsame)

/-- Nor does it hide one of an earlier segment. -/
theorem hidden_statements_eq_false (table : NameTable) (circuit : Circuit)
    (hincreasing : Increasing (first :: rest)) (hmem : stray ∈ strays (cutStatement first rest).1) :
    hidden (statements table circuit (cutStatement first rest).2).2 stray = false := by
  obtain ⟨symbol, hsymbol, -, hplace, -⟩ := exists_of_mem_strays hmem
  refine List.any_eq_false.2 fun finding hfinding hhides => ?_
  rw [Bool.and_eq_true, decide_eq_true_eq] at hhides
  obtain ⟨hport, hsame⟩ := hhides
  obtain ⟨other, hother, hoffset⟩ :=
    offset_of_lacksPort table circuit _ finding hfinding hport symbol.offset (hsame.trans hplace)
  rw [Increasing, ← cutStatement_append first rest, List.pairwise_append] at hincreasing
  have hlt := hincreasing.2.2 symbol hsymbol other hother
  omega

/-- **The characters of all segments.** All stray characters are reported, but for the hidden ones. -/
theorem lexical_statements (table : NameTable) (circuit : Circuit) (input : List Symbol)
    (hincreasing : Increasing input)
    (hlast : input.Pairwise fun symbol _ => symbol.isKeyword .endWord = false) :
    (statements table circuit input).2.filter Finding.lexical
      = (strays input).filter fun stray => !hidden (statements table circuit input).2 stray := by
  rw [statements.eq_def]
  split
  · rfl
  · next first rest =>
    split
    · next hend =>
      -- nothing stands behind `END`, and nothing in it is stray
      have hrest : rest = [] := by
        refine List.eq_nil_iff_forall_not_mem.2 fun symbol hmem => ?_
        rw [(List.pairwise_cons.1 hlast).1 symbol hmem] at hend
        cases hend
      obtain ⟨id, offset, hcons⟩ := reads_keyword.1 (reads_singleton.2
        ⟨first, rfl, Symbol.isKeyword_iff.1 hend⟩ : Reads (first :: rest) _ rest)
      rw [hcons, hrest]
      rfl
    · next hend =>
      have hend' : first.isKeyword .endWord = false := Bool.eq_false_iff.2 hend
      have hshorter := Nat.lt_succ_of_le (length_cutStatement_le first rest)
      have hsublist : (cutStatement first rest).2.Sublist (first :: rest) :=
        cutStatement_suffix.sublist
      have hlater := lexical_statements table (statement table circuit first rest).1
        (cutStatement first rest).2 (hincreasing.sublist hsublist) (hlast.sublist hsublist)
      have hstrays : strays (first :: rest)
          = strays (cutStatement first rest).1 ++ strays (cutStatement first rest).2 := by
        rw [← strays_append, cutStatement_append]
      dsimp only
      rw [resume_statement_left hend', List.filter_append,
        lexical_resume hend' hincreasing circuit, hlater, hstrays, List.filter_append]
      congr 1
      · -- the findings behind the segment are at other symbols
        refine List.filter_congr fun stray hmem => ?_
        rw [hidden_append, hidden_statements_eq_false table _ hincreasing hmem, Bool.or_false]
      · -- and so are the findings of the segment, for the characters behind it
        refine List.filter_congr fun stray hmem => ?_
        rw [hidden_append, hidden_resume_eq_false hend' hincreasing circuit hmem, Bool.false_or]
  termination_by input.length

/-! ## Definitions -/

/-- Only the last symbol of a scan can be `END`. -/
theorem pairwise_symbolsOf (names : NameTable) (text : String) :
    (symbolsOf names text).Pairwise fun symbol _ => symbol.isKeyword .endWord = false := by
  have htokens : ∀ tokens : List Token,
      (throughEndWord tokens).Pairwise fun token _ => token ≠ .keyword .endWord := by
    intro tokens
    have hbefore : ∀ token ∈ tokens.takeWhile (· ≠ .keyword .endWord), token ≠ .keyword .endWord := by
      intro token hmem
      simpa using List.mem_takeWhile_imp hmem
    refine List.pairwise_append.2
      ⟨List.pairwise_of_forall_mem_list fun token hmem _ _ => hbefore token hmem, ?_,
        fun token hmem _ _ => hbefore token hmem⟩
    split
    · exact List.pairwise_singleton ..
    · exact .nil
  have hscan := htokens (Scanner.new text names).1.cursor.tokens
  have hspec := (throughEnd_spec (Scanner.new text names).1
    ((Scanner.new text names).2.takeCodes (UInt64.ofNat Problem.kindCount)).2).1
  rw [← hspec, List.pairwise_map] at hscan
  refine hscan.imp fun {symbol _} h => Bool.eq_false_iff.2 fun hend => h ?_
  exact Symbol.isKeyword_iff.1 hend

/-- No warning about the circuit is about a character. -/
theorem category_warnings (circuit : Circuit) (codes : ErrorCodes) :
    ∀ diagnostic ∈ warnings circuit codes, diagnostic.category ≠ some .lexical := by
  intro diagnostic hmem
  rcases List.mem_append.1 hmem with h | h
  · unfold floatingWarning? at h
    split at h
    · cases h
    · rw [List.mem_singleton.1 h]
      nofun
  · unfold monitorWarning? at h
    split at h
    · rw [List.mem_singleton.1 h]
      nofun
    · cases h

/-- **Stray characters are reported**, in the order of the text, once each and with the excerpt of their
own place, and nothing else is reported as one; but for those at the place of a reference to an
output that lacks its port. -/
theorem lexical_readOnto (names : NameTable) (circuit : Circuit) (text : String) :
    (readOnto names circuit text).diagnostics.filter
        (fun diagnostic => diagnostic.category = some .lexical)
      = ((strays (symbolsOf names text)).filter
          fun stray => !hidden (findingsOf names circuit text) stray).map
            (Finding.diagnostic (readOnto names circuit text).codes (documentOf names text)) := by
  have hwarnings : (warnings (readOnto names circuit text).circuit
      (readOnto names circuit text).codes).filter
        (fun diagnostic => diagnostic.category = some .lexical) = [] :=
    List.filter_eq_nil_iff.2 fun diagnostic hmem => by
      simpa using category_warnings _ _ diagnostic hmem
  have hlexical : ((fun diagnostic : Diagnostic => decide (diagnostic.category = some .lexical)) ∘
      Finding.diagnostic (readOnto names circuit text).codes (documentOf names text))
        = Finding.lexical := by
    funext finding
    simp [Finding.diagnostic, Problem.diagnostic, Finding.lexical]
  rw [diagnostics_readOnto, List.filter_append, hwarnings, List.append_nil, List.filter_map, hlexical,
    findingsOf, lexical_statements _ circuit _ (increasing_scan names text)
      (pairwise_symbolsOf names text)]

/-- A connection in which a stray character stands behind the name of a flip-flop. -/
def strayPort : String :=
  "define D as DTYPE; connect D ! to D.DATA; END"

/-- Its stray character is not reported. -/
theorem lexical_readOnto_hidden :
    ¬ (read strayPort).diagnostics.filter (fun diagnostic => diagnostic.category = some .lexical)
      = (strays (symbolsOf .empty strayPort)).map
          (Finding.diagnostic (read strayPort).codes (documentOf .empty strayPort)) := by
  decide +kernel

end LogicCircuit.Definition
