import LogicCircuit.Proofs.Definition.Interruption
import LogicCircuit.Proofs.Definition.Layout

/-!
# Parts — a definition that is read in two parts

A definition can be cut in front of any statement, and its parts can be read one after the other onto
the same tables, each with an `END` of its own. `readOnto_in_parts`: this comes to the same as reading
all of it at once.

* **`tokens_append_newline`** — the tokens of two texts, one below the other, are those of the first and
  then those of the second. A comment in the first must not run on into the second.
* **`kindsOf_append`**, **`kindsOf_congr`** — the symbols of the second part have the handles that they
  have in the whole, since keywords are interned only once.
* **`gather`** — what is read and found among symbols, wherever they stand. It is gathered from one part
  and then from the other, even if the first breaks off in the middle of a statement
  (`gather_append`).
-/

namespace LogicCircuit.Definition

/-! ## Tokens -/

/-- Every comment between two `#` is closed. -/
def CommentsClosed (text : String) : Prop :=
  ∀ body, Stands text.toList ('#' :: body) → '#' ∈ body

/-- A text without a `#` has no comment between two of them. -/
theorem commentsClosed_of_notMem {text : String} (h : '#' ∉ text.toList) : CommentsClosed text := by
  intro body hstands
  obtain ⟨front, -, htext, -⟩ := hstands.exists_tokens
  rw [htext] at h
  exact absurd (List.mem_append_right front List.mem_cons_self) h

/-- If all comments are closed, reading comes to the end of the text or to a comment in its last line. -/
theorem exists_last_place {text rest : List Char}
    (hclosed : ∀ body, Stands text ('#' :: body) → '#' ∈ body) (h : Stands text rest) :
    ∃ last, Stands text last ∧ (last = [] ∨ ∃ body, last = '%' :: body ∧ '\n' ∉ body) := by
  rcases h.next with hend | hline | ⟨body, rfl, hbody⟩ | ⟨rest', hrest', hshorter⟩
  · exact ⟨rest, h, .inl hend⟩
  · exact ⟨rest, h, .inr hline⟩
  · exact absurd (hclosed body h) hbody
  · exact exists_last_place hclosed hrest'
  termination_by rest.length

/-- A comment that is not closed has no tokens. -/
theorem tokensOf_line {body : List Char} (h : '\n' ∉ body) : tokensOf ('%' :: body) = [] := by
  have hmode : GapMode.lineComment.closer? = some '\n' := rfl
  have hgap : afterGap ('%' :: body) = [] := by
    have hbody := skipGapFrom_append hmode h [] (0 + '%'.utf8Size) []
    rw [List.append_nil] at hbody
    show (skipGapFrom .lineComment [] (0 + '%'.utf8Size) body).after.rest = []
    rw [hbody]
    rfl
  exact tokens_eq_nil_of_lexemeOf? (by rw [hgap]; rfl)

/-- **Tokens** of texts on lines of their own. -/
theorem tokensOf_append_newline {chars : List Char}
    (hclosed : ∀ body, Stands chars ('#' :: body) → '#' ∈ body) (more : List Char) :
    tokensOf (chars ++ '\n' :: more) = tokensOf chars ++ tokensOf more := by
  obtain ⟨last, hlast, hend⟩ := exists_last_place hclosed .start
  obtain ⟨front, tokens, rfl, htokens⟩ := hlast.exists_tokens
  -- reading ends between symbols, or in a comment that the newline closes
  rcases hend with rfl | ⟨body, rfl, hbody⟩
  · have hblank : ClosedGap ['\n'] := .blank (by decide) .nil
    have hnewline : Unextended [] ('\n' :: more) := .inr fun c hc => by cases hc; decide
    have hnil : tokensOf [] = [] := tokens_eq_nil_of_lexemeOf? rfl
    have hmore : tokensOf ('\n' :: more) = tokensOf more := tokensOf_gap hblank more
    rw [htokens [] (.inl rfl), hnil, List.append_nil, List.append_nil, htokens _ hnewline, hmore]
  · -- the newline closes the comment, and there is nothing else behind the place
    have hcomment : ClosedGap ('%' :: (body ++ ['\n'])) := by
      rw [← List.append_nil ('%' :: (body ++ ['\n']))]
      exact .comment (.line body hbody) .nil
    have hmore := tokensOf_gap hcomment more
    rw [List.cons_append, List.append_assoc, List.singleton_append, ← List.cons_append] at hmore
    rw [List.append_assoc, htokens ('%' :: body ++ '\n' :: more) (.inl rfl), htokens _ (.inl rfl), hmore,
      tokensOf_line hbody, List.append_nil]

/-- Texts on lines of their own have the tokens of the one and then of the other. -/
theorem tokens_append_newline {text : String} (h : CommentsClosed text) (more : String) :
    tokens (text ++ "\n" ++ more) = tokens text ++ tokens more := by
  have hchars : (text ++ "\n" ++ more).toList = text.toList ++ '\n' :: more.toList := by
    rw [String.toList_append, String.toList_append, List.append_assoc]
    rfl
  show tokensOf (text ++ "\n" ++ more).toList = _
  rw [hchars, tokensOf_append_newline h]
  rfl

/-- The text with `END` on a line of its own behind it. -/
def ended (text : String) : String :=
  text ++ "\n" ++ "END"

/-- `END` on a line of its own is the last token. -/
theorem tokens_ended {text : String} (h : CommentsClosed text) :
    tokens (ended text) = tokens text ++ [.keyword .endWord] := by
  have hend : tokens "END" = [.keyword .endWord] := by decide +kernel
  rw [ended, tokens_append_newline h, hend]

theorem ended_append (text more : String) :
    ended (text ++ "\n" ++ more) = text ++ "\n" ++ ended more := by
  simp only [ended, String.append_assoc]

/-! ## Handles -/

section Handles

variable {names names' : NameTable} {word : Keyword}

/-- A token is interned alike in tables with the same texts. -/
theorem ofToken_congr (h : names.texts = names'.texts) (token : Token) :
    (SymbolKind.ofToken names token).1 = (SymbolKind.ofToken names' token).1 ∧
      (SymbolKind.ofToken names token).2.texts = (SymbolKind.ofToken names' token).2.texts := by
  have hintern := fun text => NameTable.intern_congr h text
  cases token with
  | keyword word =>
    exact ⟨congrArg (SymbolKind.keyword word) (hintern word.spelling).1, (hintern word.spelling).2⟩
  | number digits => exact ⟨congrArg (SymbolKind.number digits) (hintern digits).1, (hintern digits).2⟩
  | name text => exact ⟨congrArg (SymbolKind.name text) (hintern text).1, (hintern text).2⟩
  | _ => exact ⟨rfl, h⟩

/-- Symbols have the same handles in tables with the same texts. -/
theorem kindsOf_congr (h : names.texts = names'.texts) (tokens : List Token) :
    (kindsOf names tokens).1 = (kindsOf names' tokens).1 ∧
      (kindsOf names tokens).2.texts = (kindsOf names' tokens).2.texts := by
  induction tokens generalizing names names' with
  | nil => exact ⟨rfl, h⟩
  | cons token others ih =>
    obtain ⟨hkind, htexts⟩ := ofToken_congr h token
    obtain ⟨hkinds, hlater⟩ := ih htexts
    exact ⟨congrArg₂ List.cons hkind hkinds, hlater⟩

/-- The kinds of tokens are found one part after the other. -/
theorem kindsOf_append (names : NameTable) (tokens others : List Token) :
    kindsOf names (tokens ++ others) =
      ((kindsOf names tokens).1 ++ (kindsOf (kindsOf names tokens).2 others).1,
        (kindsOf (kindsOf names tokens).2 others).2) := by
  induction tokens generalizing names with
  | nil => rfl
  | cons token rest ih =>
    simp only [List.cons_append, kindsOf, ih]

/-- Handles are kept while the kinds of tokens are found. -/
theorem grows_kindsOf (names : NameTable) (tokens : List Token) :
    names.Grows (kindsOf names tokens).2 := by
  induction tokens generalizing names with
  | nil => exact .refl names
  | cons token others ih =>
    have htoken : names.Grows (SymbolKind.ofToken names token).2 := by
      cases token with
      | keyword word => exact NameTable.grows_intern names word.spelling
      | number digits => exact NameTable.grows_intern names digits
      | name text => exact NameTable.grows_intern names text
      | _ => exact .refl names
    exact htoken.trans (ih _)

/-- The kinds of symbols have the tokens that they are made of. -/
theorem kinds_token (names : NameTable) (tokens : List Token) :
    (kindsOf names tokens).1.map SymbolKind.token = tokens := by
  induction tokens generalizing names with
  | nil => rfl
  | cons token others ih =>
    have htoken : (SymbolKind.ofToken names token).1.token = token := by
      cases token <;> rfl
    exact congrArg₂ List.cons htoken (ih _)

/-- A scanner knows all keywords. -/
theorem id?_keywordTable (names : NameTable) (word : Keyword) :
    ((keywordTable names).id? word.spelling).isSome := by
  have hword : word ∈ Keyword.all := by cases word <;> decide
  exact (NameTable.internAll_spec names _).2 _ (List.mem_map_of_mem hword)

/-- A table that has all keywords gets no new texts from another scanner. -/
theorem texts_keywordTable (h : ∀ word : Keyword, (names.id? word.spelling).isSome) :
    (keywordTable names).texts = names.texts := by
  have hsame : (names.internAll (Keyword.all.map Keyword.spelling)).2 = names :=
    NameTable.internAll_of_isSome (List.forall_mem_map.2 fun word _ => h word)
  show (names.internAll _).2.texts = names.texts
  rw [hsame]

end Handles

/-! ## Gathering -/

/-- What is read onto a circuit from symbols of given kinds, and the gists of what is found. -/
def gather (circuit : Circuit) (kinds : List SymbolKind) : Circuit × List (Problem × Bool) :=
  let read := statements .empty circuit (numbered kinds)
  (read.1, read.2.map Finding.gist)

variable (names : NameTable) (table : NameTable) (circuit : Circuit) {symbols : List Symbol}

/-- The gist of a finding does not tell where it has been made. -/
theorem map_gist_move (f : Nat → Nat) (findings : List Finding) :
    (findings.map (Finding.move f)).map Finding.gist = findings.map Finding.gist := by
  rw [List.map_map]
  refine List.map_congr_left fun finding _ => ?_
  simp [Finding.gist, Finding.move]

/-- What is gathered is what is read, wherever the symbols stand. -/
theorem gather_eq (h : Increasing symbols) : gather circuit (symbols.map Symbol.kind) =
    ((statements table circuit symbols).1, (statements table circuit symbols).2.map Finding.gist) := by
  obtain ⟨f, hf⟩ := exists_statements_eq circuit table h
  rw [gather, hf, map_gist_move, statements_table .empty table]

/-- Symbols behind others are numbered on from there. -/
theorem numbered_append (kinds others : List SymbolKind) : numbered (kinds ++ others) =
    numbered kinds ++ (numbered others).map (Symbol.move (· + kinds.length)) := by
  have hothers : others.mapIdx (fun index kind => (⟨kind, index + kinds.length⟩ : Symbol))
      = (numbered others).map (Symbol.move (· + kinds.length)) :=
    List.ext_getElem (by simp [numbered]) fun index hlt hlt' => by simp [numbered, Symbol.move]
  exact List.mapIdx_append.trans (congrArg (numbered kinds ++ ·) hothers)

/-- Symbols are gathered from wherever they stand, so also from behind others. -/
theorem gather_move (offset : Nat) (kinds : List SymbolKind) :
    (statements table circuit ((numbered kinds).map (Symbol.move (· + offset)))).1
        = (gather circuit kinds).1 ∧
      (statements table circuit ((numbered kinds).map (Symbol.move (· + offset)))).2.map Finding.gist
        = (gather circuit kinds).2 := by
  have hinjective : Function.Injective (· + offset) := fun _ _ => Nat.add_right_cancel
  rw [statements_move hinjective, map_gist_move, statements_table table .empty]
  exact ⟨rfl, rfl⟩

/-- Symbols of these kinds start with a word that starts a statement, or with `END`. -/
def Opening (kinds : List SymbolKind) : Prop :=
  ∃ word id others, kinds = .keyword word id :: others ∧ word.startsStatement

/-- Symbols that open a statement do so wherever they stand. -/
theorem Opening.opens {kinds : List SymbolKind} (h : Opening kinds) (offset : Nat) :
    Opens ((numbered kinds).map (Symbol.move (· + offset))) := by
  obtain ⟨word, id, others, rfl, hword⟩ := h
  rw [numbered, List.mapIdx_cons, List.map_cons]
  exact ⟨word, id, _, _, rfl, hword⟩

/-- `END` alone leaves the circuit as it is. -/
theorem gather_endWord (id : NameId) : gather circuit [.keyword .endWord id] = (circuit, []) := by
  have hnumbered : numbered [.keyword .endWord id] = [⟨.keyword .endWord id, 0⟩] := rfl
  have hend : Symbol.isKeyword ⟨.keyword .endWord id, 0⟩ .endWord := rfl
  rw [gather, hnumbered, statements, dif_pos hend]
  rfl

variable {front others : List SymbolKind}

/-- **Gathering** from two parts: the first is ended by `END`, or cut off by the second. -/
theorem gather_append (hend : ∀ kind ∈ front, kind.isKeyword .endWord = false) (h : Opening others)
    (id : NameId) :
    let first := gather circuit (front ++ [.keyword .endWord id])
    (gather circuit (front ++ others)).1 = (gather first.1 others).1 ∧
      (gather circuit (front ++ others)).2 = first.2 ++ (gather first.1 others).2 := by
  intro first
  have hword : Opening [.keyword .endWord id] := ⟨.endWord, id, [], rfl, rfl⟩
  -- the symbols of the first part are none of them `END`, so reading comes to what follows them
  have hfront : ∀ symbol ∈ numbered front, symbol.isKeyword .endWord = false := by
    intro symbol hmem
    obtain ⟨index, hlt, rfl⟩ := List.mem_mapIdx.1 hmem
    exact hend _ (List.getElem_mem hlt)
  obtain ⟨after, gists, ⟨hcircuit, hgists⟩, ⟨hcircuit', hgists'⟩⟩ :=
    statements_append (hword.opens front.length) (h.opens front.length) .empty circuit _ hfront
  obtain ⟨hnone, hnone'⟩ := gather_move .empty after front.length [.keyword .endWord id]
  obtain ⟨hothers, hothers'⟩ := gather_move .empty after front.length others
  rw [gather_endWord] at hnone hnone'
  -- `END` leaves what has been read as it is
  have hfirst : first = (after, gists) := by
    show gather circuit (front ++ [.keyword .endWord id]) = (after, gists)
    rw [gather, numbered_append, hcircuit, hgists, hnone, hnone', List.append_nil]
  rw [hfirst, gather, numbered_append, hcircuit', hgists', hothers, hothers']
  exact ⟨rfl, rfl⟩

/-! ## Readings -/

/-- The errors among the diagnostics. -/
def Reading.errors (reading : Reading) : List Diagnostic :=
  reading.diagnostics.filter Diagnostic.isError

/-- The diagnostics report the problems, one by one and with codes of a block. An excerpt is shown if the
problem has a place. -/
def Reports (codes : ErrorCodes) (diagnostics : List Diagnostic) (problems : List (Problem × Bool)) :
    Prop :=
  diagnostics.map (fun diagnostic => ({ diagnostic with excerpt := none }, diagnostic.excerpt.isSome))
    = problems.map fun (problem, shown) => (problem.diagnostic codes, shown)

/-- The messages are those of the problems. -/
theorem Reports.messages {codes : ErrorCodes} {diagnostics : List Diagnostic}
    {problems : List (Problem × Bool)} (h : Reports codes diagnostics problems) :
    diagnostics.map Diagnostic.message = problems.map fun (problem, _) => problem.message := by
  have hmessages := congrArg (List.map fun pair : Diagnostic × Bool => pair.1.message) h
  rw [List.map_map, List.map_map] at hmessages
  exact hmessages

/-- The errors are what is found, as the other diagnostics are warnings. -/
theorem errors_readOnto (text : String) : (readOnto names circuit text).errors =
    (findingsOf names circuit text).map
      (Finding.diagnostic (readOnto names circuit text).codes (documentOf names text)) := by
  have hfindings : ∀ diagnostic ∈ (findingsOf names circuit text).map
      (Finding.diagnostic (readOnto names circuit text).codes (documentOf names text)),
      diagnostic.isError := by
    refine List.forall_mem_map.2 fun finding hmem => ?_
    exact decide_eq_true (severity_statements _ circuit _ finding hmem)
  have hwarnings := errorCount_warnings (readOnto names circuit text).circuit
    (readOnto names circuit text).codes
  rw [Diagnostic.errorCount, List.countP_eq_zero] at hwarnings
  rw [Reading.errors, diagnostics_readOnto, List.filter_append, List.filter_eq_self.2 hfindings,
    List.filter_eq_nil_iff.2 hwarnings, List.append_nil]

/-- A reading is gathered from the kinds of its symbols. -/
theorem readOnto_gather (text : String) :
    (readOnto names circuit text).circuit
        = (gather circuit ((symbolsOf names text).map Symbol.kind)).1 ∧
      Reports (readOnto names circuit text).codes (readOnto names circuit text).errors
        (gather circuit ((symbolsOf names text).map Symbol.kind)).2 := by
  rw [gather_eq (readOnto names circuit text).names circuit (increasing_scan names text)]
  refine ⟨rfl, ?_⟩
  rw [Reports, errors_readOnto, findingsOf, List.map_map, List.map_map]
  refine List.map_congr_left fun finding _ => ?_
  simp [Finding.diagnostic, Finding.gist, Problem.diagnostic]

/-! ## Two parts -/

/-- The kinds of the symbols of a text. -/
def kindsIn (names : NameTable) (text : String) : List SymbolKind :=
  (symbolsOf names text).map Symbol.kind

/-- What follows a part starts with its first word, or is the `END` behind it. -/
theorem opening_kindsOf {tokens : List Token} (h : ∀ token ∈ tokens.head?, ∃ word : Keyword,
    token = .keyword word ∧ word.startsStatement) :
    Opening (kindsOf names (throughEndWord (tokens ++ [.keyword .endWord]))).1 := by
  cases tokens with
  | nil => exact ⟨.endWord, _, [], rfl, rfl⟩
  | cons token others =>
    obtain ⟨word, rfl, hword⟩ := h token rfl
    by_cases hend : word = .endWord
    · subst hend
      rw [List.cons_append, throughEndWord_endWord]
      exact ⟨.endWord, _, [], rfl, rfl⟩
    · rw [List.cons_append, throughEndWord_cons fun heq => hend (Token.keyword.inj heq)]
      exact ⟨word, _, _, rfl, hword⟩

/-- The symbols of the whole are those of its parts, except for the `END` of the first. -/
theorem exists_kindsIn_eq {front back : String} (hfront : CommentsClosed front)
    (hback : CommentsClosed back) (hend : .keyword .endWord ∉ tokens front)
    (hstart : ∀ token ∈ (tokens back).head?, ∃ word : Keyword,
      token = .keyword word ∧ word.startsStatement) :
    let first := readOnto names circuit (ended front)
    let whole := ended (front ++ "\n" ++ back)
    ∃ kinds later id, (∀ kind ∈ kinds, kind.isKeyword .endWord = false) ∧ Opening later ∧
      kindsIn names (ended front) = kinds ++ [.keyword .endWord id] ∧
      kindsIn first.names (ended back) = later ∧ kindsIn names whole = kinds ++ later ∧
      (readOnto first.names first.circuit (ended back)).names.texts
        = (readOnto names circuit whole).names.texts := by
  intro first whole
  have htokens : tokens whole = tokens front ++ (tokens back ++ [.keyword .endWord]) := by
    rw [← tokens_ended hback, ← tokens_append_newline hfront, ← ended_append]
  have hscan := kinds_scan names circuit (ended front)
  have hscan' := kinds_scan first.names first.circuit (ended back)
  have hscan'' := kinds_scan names circuit whole
  rw [tokens_ended hfront, throughEndWord_append hend, throughEndWord_endWord, kindsOf_append] at hscan
  rw [tokens_ended hback] at hscan'
  rw [htokens, throughEndWord_append hend, kindsOf_append] at hscan''
  have hkinds := kinds_token (keywordTable names) (tokens front)
  have hgrows := grows_kindsOf (keywordTable names) (tokens front)
  -- what has been interned by the end of the first part goes into both readings
  generalize kindsOf (keywordTable names) (tokens front) = read at hscan hscan'' hkinds hgrows
  obtain ⟨kinds, table⟩ := read
  -- all keywords are in the table, so neither `END` nor the second scanner adds anything to it
  have hknown : ∀ word : Keyword, (table.id? word.spelling).isSome := by
    intro word
    obtain ⟨id, hid⟩ := Option.isSome_iff_exists.1 (id?_keywordTable names word)
    rw [hgrows.id? hid]
    rfl
  obtain ⟨id, hid⟩ := Option.isSome_iff_exists.1 (hknown .endWord)
  have hendWord : kindsOf table [.keyword .endWord] = ([.keyword .endWord id], table) := by
    rw [kindsOf, SymbolKind.ofToken, NameTable.intern_of_id? hid]
    rfl
  rw [hendWord] at hscan
  obtain ⟨hfirst, hnames⟩ := Prod.mk.inj hscan
  obtain ⟨hwhole, hnames''⟩ := Prod.mk.inj hscan''
  obtain ⟨hsecond, hnames'⟩ := Prod.mk.inj hscan'
  -- the second scanner starts from a table with the same texts, so it has the same handles
  obtain ⟨hlater, htexts⟩ := kindsOf_congr (texts_keywordTable hknown)
    (throughEndWord (tokens back ++ [.keyword .endWord]))
  have hnames : first.names = table := hnames
  refine ⟨kinds, _, id, fun kind hmem => ?_, opening_kindsOf table hstart, hfirst, ?_, hwhole, ?_⟩
  · refine Bool.eq_false_iff.2 fun hkind => hend ?_
    have hsymbol : Symbol.isKeyword ⟨kind, 0⟩ .endWord := hkind
    have htoken : kind.token = .keyword .endWord := Symbol.isKeyword_iff.1 hsymbol
    rw [← hkinds, ← htoken]
    exact List.mem_map_of_mem hmem
  · rw [kindsIn, hsecond, hnames, hlater]
  · rw [hnames', hnames'', hnames, htexts]

/-- **Parts.** Let the comments of two texts be closed, let the first have no `END`, and let the second
be empty or start with a word that starts a statement. Reading the first, and then the second onto what
has been read, each with an `END` behind it, comes to the same as reading both at once:

* the tables hold the same texts under the same handles, and the circuits are equal, with their devices,
  wires and monitors in the same order;
* the errors have the same messages in the same order. They are about the same problems, with codes from
  the block of the reading that reports them. -/
theorem readOnto_in_parts (names : NameTable) (circuit : Circuit) (front back : String)
    (hfront : CommentsClosed front) (hback : CommentsClosed back)
    (hend : .keyword .endWord ∉ tokens front)
    (hstart : ∀ token ∈ (tokens back).head?, ∃ word : Keyword,
      token = .keyword word ∧ word.startsStatement) :
    let first := readOnto names circuit (ended front)
    let second := readOnto first.names first.circuit (ended back)
    let whole := readOnto names circuit (ended (front ++ "\n" ++ back))
    second.names.texts = whole.names.texts ∧ second.circuit = whole.circuit ∧
      whole.errors.map Diagnostic.message
        = first.errors.map Diagnostic.message ++ second.errors.map Diagnostic.message ∧
      ∃ early late, Reports first.codes first.errors early ∧ Reports second.codes second.errors late ∧
        Reports whole.codes whole.errors (early ++ late) := by
  obtain ⟨kinds, later, id, hkinds, hopening, hfirst, hsecond, hwhole, htexts⟩ :=
    exists_kindsIn_eq names circuit hfront hback hend hstart
  obtain ⟨hcircuit, herrors⟩ := readOnto_gather names circuit (ended front)
  obtain ⟨hcircuit', herrors'⟩ := readOnto_gather (readOnto names circuit (ended front)).names
    (readOnto names circuit (ended front)).circuit (ended back)
  obtain ⟨hcircuit'', herrors''⟩ := readOnto_gather names circuit (ended (front ++ "\n" ++ back))
  rw [← kindsIn, hfirst] at hcircuit herrors
  rw [← kindsIn, hsecond] at hcircuit' herrors'
  obtain ⟨hgather, hgather'⟩ := gather_append circuit hkinds hopening id
  rw [← kindsIn, hwhole, hgather, ← hcircuit] at hcircuit''
  rw [← kindsIn, hwhole, hgather', ← hcircuit] at herrors''
  refine ⟨htexts, hcircuit'.trans hcircuit''.symm, ?_, _, _, herrors, herrors', herrors''⟩
  rw [herrors.messages, herrors'.messages, ← List.map_append]
  exact herrors''.messages

/-- A definition that breaks off in a gate, and in a comment behind it. -/
def brokenOffText : String :=
  "define A as SWITCH 0 state; define B as AND 2 % and"

/-- Statements about what has been defined by then, none of which is valid as a whole. -/
def remainderText : String :=
  "connect A to A.I1; monitor A A;"

/-- The gate lacks a word whether `END` or `connect` cuts it off. -/
theorem readOnto_in_parts_brokenOff :
    CommentsClosed brokenOffText ∧ CommentsClosed remainderText ∧
      .keyword .endWord ∉ tokens brokenOffText ∧
      (tokens remainderText).head? = some (.keyword .connect) ∧
      let first := readOnto .empty .empty (ended brokenOffText)
      let second := readOnto first.names first.circuit (ended remainderText)
      let whole := readOnto .empty .empty (ended (brokenOffText ++ "\n" ++ remainderText))
      second.names.texts = whole.names.texts ∧ second.circuit = whole.circuit ∧
        first.errors.map Diagnostic.message ++ second.errors.map Diagnostic.message
          = ["Expected keyword 'inputs'", "Device 'A' has no input 'I1'",
              "Signal 'A' is already monitored"] := by
  have hfront : CommentsClosed brokenOffText := commentsClosed_of_notMem (by decide +kernel)
  have hback : CommentsClosed remainderText := commentsClosed_of_notMem (by decide +kernel)
  have hend : .keyword .endWord ∉ tokens brokenOffText := by decide +kernel
  have hhead : (tokens remainderText).head? = some (.keyword .connect) := by decide +kernel
  have hstart : ∀ token ∈ (tokens remainderText).head?, ∃ word : Keyword,
      token = .keyword word ∧ word.startsStatement := by
    intro token htoken
    rw [hhead] at htoken
    cases htoken
    exact ⟨.connect, rfl, rfl⟩
  obtain ⟨htexts, hcircuit, hmessages, -⟩ :=
    readOnto_in_parts .empty .empty brokenOffText remainderText hfront hback hend hstart
  refine ⟨hfront, hback, hend, hhead, htexts, hcircuit, ?_⟩
  rw [← hmessages]
  decide +kernel

end LogicCircuit.Definition
