import LogicCircuit.Proofs.Definition.Boundaries
import LogicCircuit.Proofs.Definition.Requests
import LogicCircuit.Proofs.Definition.Strays

/-!
# Places — findings come in the order of the text

What is found is blamed on a symbol that has been read or is the next one to be read, or on the end of the
text. Recovery reports characters behind it, and may stop at the word that starts the next statement, which
may be what has been blamed; but that statement blames nothing in front of what follows its word.

* **`Blamable`** — the places that statements can blame from some symbol on. `statement_located`: one
  statement blames them in their order, and all that it blames is in front of what later ones can blame.
* **`exists_located`** — the run over all statements: places in order, and what is found without a place
  comes last.
* **`Excerpt.Counts.before`** — lines and columns come in the order of places: characters that are passed
  on the way from one place to another lead to a later line, or further on in the same one.
* **`reports_in_order`** — so the diagnostics that show a place come first and in the order of the text.
-/

namespace LogicCircuit.Definition

variable {table : NameTable} {circuit : Circuit} {first : Symbol} {input rest left symbols : List Symbol}
  {failure : Failure}

/-! ## Places of findings -/

/-- A place is in front of another one. -/
def Place.Before : Place → Place → Prop
  | .atOffset offset, .atOffset later => offset < later
  | .atOffset _, .textEnd => True
  | .textEnd, _ => False

/-- The symbols that a statement can blame. A word that starts one is not among them. -/
def blamable : List Symbol → List Symbol
  | [] => []
  | first :: rest => if first.resumes then rest else first :: rest

theorem blamable_subset (input : List Symbol) : blamable input ⊆ input := by
  cases input with
  | nil => exact List.Subset.refl _
  | cons first rest =>
    rw [blamable]
    split
    · exact List.subset_cons_self ..
    · exact List.Subset.refl _

/-- A place that can be blamed while there is something to be read: one of a symbol, or the end of the
text. -/
inductive Blamable (input : List Symbol) : Place → Prop where
  | symbol (symbol : Symbol) (hmem : symbol ∈ blamable input) : Blamable input (.atOffset symbol.offset)
  | textEnd (hne : input ≠ []) : Blamable input .textEnd

/-- Where reading goes on, what is blamed first is in front of whatever can be blamed later. -/
theorem blamable_cut_subset (symbol : Symbol) (behind : List Symbol) :
    blamable (cut (symbol :: behind)).2 ⊆ behind := by
  rw [cut]
  split
  · exact blamable_subset behind
  · split
    · next hresumes =>
      rw [blamable, if_pos hresumes]
      exact List.Subset.refl _
    · -- passed over by recovery, so behind it all the more
      have hsuffix : (cut behind).2 <:+ behind := ⟨_, cut_append behind⟩
      exact List.Subset.trans (blamable_subset _) hsuffix.subset

/-- Behind the last statement nothing can be blamed. -/
theorem not_blamable_nil (place : Place) : ¬ Blamable [] place := by
  rintro (⟨symbol, hmem⟩ | hne)
  · cases hmem
  · exact hne rfl

/-- A finding is blamed on a place in front of that of another one. -/
def Finding.Before (finding later : Finding) : Prop :=
  ∀ place, finding.place = some place → ∀ place', later.place = some place' → place.Before place'

/-- Findings at places that can be blamed, in the order of these, and in front of all places that can be
blamed later. -/
structure Located (input : List Symbol) (found : List Finding) (left : List Symbol) : Prop where
  placed : ∀ finding ∈ found, ∃ place, finding.place = some place ∧ Blamable input place
  ordered : found.Pairwise Finding.Before
  earlier : ∀ finding ∈ found, ∀ place, finding.place = some place →
    ∀ later, Blamable left later → place.Before later

theorem located_nil (input left : List Symbol) : Located input [] left :=
  ⟨by simp, .nil, by simp⟩

/-- The places of stray characters are those of symbols, in order. -/
theorem strays_ordered (h : Increasing symbols) : (strays symbols).Pairwise Finding.Before := by
  refine List.pairwise_filterMap.2 (h.imp fun {symbol later} hlt found hfound found' hfound' => ?_)
  obtain ⟨c, -, rfl⟩ := symbol.stray?_eq_some hfound
  obtain ⟨c', -, rfl⟩ := later.stray?_eq_some hfound'
  intro place hplace place' hplace'
  cases hplace
  cases hplace'
  exact hlt

/-- A failure at a symbol, and the stray characters that recovery passes over behind it. -/
theorem located_of_behind {symbol : Symbol} {behind unread : List Symbol} {problem : Problem}
    (hincreasing : Increasing (blamable input)) (hsymbol : symbol :: behind <:+ blamable input)
    (hunread : unread <:+ symbol :: behind) (hleft : blamable (cut unread).2 ⊆ behind) :
    let failedAt := Place.atOffset symbol.offset
    Located input (⟨problem, some failedAt⟩ ::
      (strays (cut unread).1).filter fun finding => finding.place ≠ some failedAt) (cut unread).2 := by
  intro failedAt
  have hbehind : ∀ other ∈ behind, symbol.offset < other.offset :=
    (List.pairwise_cons.1 (hincreasing.sublist hsymbol.sublist)).1
  -- what is passed over and what is left are a split of what was unread, so the one is in front of the
  -- other
  have hcut : Increasing (cut unread).1 ∧ ∀ symbol ∈ (cut unread).1, ∀ later ∈ (cut unread).2,
      symbol.offset < later.offset := by
    have hsplit : Increasing ((cut unread).1 ++ (cut unread).2) := by
      rw [cut_append]
      exact hincreasing.sublist (hunread.trans hsymbol).sublist
    obtain ⟨hsegment, -, hlater⟩ := List.pairwise_append.1 hsplit
    exact ⟨hsegment, hlater⟩
  -- a stray character in the segment is behind the failure, unless it is what the failure is about
  have hstrays : ∀ finding ∈ (strays (cut unread).1).filter fun finding => finding.place ≠ some failedAt,
      ∃ other ∈ behind, other ∈ (cut unread).1 ∧ finding.place = some (.atOffset other.offset) := by
    intro finding hfinding
    obtain ⟨hstray, hne⟩ := List.mem_filter.1 hfinding
    obtain ⟨other, hother, -, hplace, -⟩ := exists_of_mem_strays hstray
    have hmem : other ∈ unread := by
      rw [← cut_append unread]
      exact List.mem_append_left _ hother
    rcases List.mem_cons.1 (hunread.mem hmem) with rfl | hbehind
    · simp [hplace, failedAt] at hne
    · exact ⟨other, hbehind, hother, hplace⟩
  have hblamable : ∀ other ∈ symbol :: behind, Blamable input (.atOffset other.offset) :=
    fun other hother => .symbol other (hsymbol.mem hother)
  -- in turn: places that can be blamed, findings in order, and all of them in front of what is left
  refine ⟨List.forall_mem_cons.2 ⟨⟨failedAt, rfl, hblamable symbol List.mem_cons_self⟩, ?_⟩,
    List.pairwise_cons.2 ⟨?_, (strays_ordered hcut.1).filter _⟩, List.forall_mem_cons.2 ⟨?_, ?_⟩⟩
  · intro finding hfinding
    obtain ⟨other, hother, -, hplace⟩ := hstrays finding hfinding
    exact ⟨_, hplace, hblamable other (List.mem_cons_of_mem _ hother)⟩
  · intro finding hfinding place hplace place' hplace'
    obtain ⟨other, hother, -, hat⟩ := hstrays finding hfinding
    rw [hat] at hplace'
    cases hplace
    cases hplace'
    exact hbehind other hother
  · intro place hplace later hlater
    cases hplace
    cases hlater with
    | symbol other hother => exact hbehind other (hleft hother)
    | textEnd hne => trivial
  · intro finding hfinding place hplace later hlater
    obtain ⟨other, -, hother, hat⟩ := hstrays finding hfinding
    rw [hat] at hplace
    cases hplace
    cases hlater with
    | symbol next hnext => exact hcut.2 other hother next (blamable_subset _ hnext)
    | textEnd hne => trivial

/-- **One failure** and the recovery from it. -/
theorem resume_located (hincreasing : Increasing (blamable input)) (hne : input ≠ [])
    (hrest : rest <:+ blamable input) (hunread : failure.rest <:+ blamable input)
    (h : Fails rest failure) :
    Located input (resume (.error failure)).1 (resume (.error failure)).2 := by
  rw [resume, recover_eq]
  -- a reader fails at the symbol it stands at, or at one that it has taken
  cases h with
  | raised hraised =>
    have hplace := hraised.place_eq
    cases hcons : failure.rest with
    | nil =>
      -- nothing can be blamed behind the end of the text
      rw [hcons] at hplace
      -- at the end of the text there is nothing to recover
      rw [hplace]
      exact ⟨List.forall_mem_singleton.2 ⟨.textEnd, rfl, .textEnd hne⟩, List.pairwise_singleton ..,
        fun _ _ _ _ later hlater => absurd hlater (not_blamable_nil later)⟩
    | cons symbol behind =>
      rw [hcons] at hplace hunread
      rw [hplace]
      exact located_of_behind hincreasing hunread List.suffix_rfl (blamable_cut_subset symbol behind)
  -- the failure is blamed on a symbol that has been read, and recovery starts behind it
  | @taken what hwhat symbol behind unread hread hleft =>
    have hcut : (cut unread).2 <:+ behind := List.IsSuffix.trans ⟨_, cut_append unread⟩ hleft
    exact located_of_behind hincreasing (hread.trans hrest) (hleft.trans (List.suffix_cons ..))
      (List.Subset.trans (blamable_subset _) hcut.subset)

/-! ## All statements -/

/-- What follows the first symbol of a statement can be blamed, whatever that symbol is. -/
theorem rest_suffix_blamable (first : Symbol) (rest : List Symbol) : rest <:+ blamable (first :: rest) := by
  rw [blamable]
  split
  · exact List.suffix_rfl
  · exact List.suffix_cons first rest

/-- A failure leaves unread what can be blamed. -/
theorem unread_suffix_blamable (hend : first.isKeyword .endWord = false)
    (h : (statement table circuit first rest).2 = .error failure) :
    failure.rest <:+ blamable (first :: rest) := by
  -- a statement that has its word goes on behind it; any other fails at its first symbol
  rcases statement_orderly hend table circuit rest with ⟨-, hcloses⟩ | ⟨hresumes, hfailed⟩
  · rw [h] at hcloses
    exact hcloses.1.suffix.trans (rest_suffix_blamable first rest)
  · rw [h] at hfailed
    cases hfailed
    rw [Failure.rest_wanted, blamable, hresumes]
    exact List.suffix_rfl

/-- **One statement** blames places in their order, and none that later ones can blame. -/
theorem statement_located (hend : first.isKeyword .endWord = false)
    (hincreasing : Increasing (first :: rest)) :
    let resumed := resume (statement table circuit first rest).2
    Located (first :: rest) resumed.1 resumed.2 := by
  -- nothing is found in a statement without a mistake
  cases houtcome : (statement table circuit first rest).2 with
  | ok outcome => exact located_nil _ _
  | error failure =>
    -- the word of the statement is left out, which keeps the order
    have hblamable : Increasing (blamable (first :: rest)) := by
      rw [blamable]
      split
      · exact (List.pairwise_cons.1 hincreasing).2
      · exact hincreasing
    exact resume_located hblamable (List.cons_ne_nil _ _) (rest_suffix_blamable first rest)
      (unread_suffix_blamable hend houtcome) (statement_fails houtcome)

/-- What later statements can blame can be blamed from here on. -/
theorem Blamable.of_suffix {place : Place} (h : Blamable left place) (hleft : left <:+ rest) :
    Blamable (first :: rest) place := by
  cases h with
  | symbol symbol hmem =>
    exact .symbol symbol ((rest_suffix_blamable first rest).mem (hleft.mem (blamable_subset _ hmem)))
  | textEnd hne => exact .textEnd (List.cons_ne_nil _ _)

/-- **One statement and the others behind it.** What these blame could have been blamed before. -/
theorem Located.append {found others : List Finding} (h : Located (first :: rest) found left)
    (hothers : Located left others []) (hleft : left <:+ rest) :
    Located (first :: rest) (found ++ others) [] := by
  refine ⟨List.forall_mem_append.2 ⟨h.placed, fun finding hmem => ?_⟩,
    -- a later finding is at a place that was left over by the statement, so behind all that the statement
    -- blames
    List.pairwise_append.2 ⟨h.ordered, hothers.ordered, fun finding hmem later hlater => ?_⟩,
    fun _ _ _ _ later hlater => absurd hlater (not_blamable_nil later)⟩
  · obtain ⟨place, hplace, hblamable⟩ := hothers.placed finding hmem
    exact ⟨place, hplace, hblamable.of_suffix hleft⟩
  · intro place hplace place' hplace'
    obtain ⟨_, hsame, hblamable⟩ := hothers.placed later hlater
    rw [hplace'] at hsame
    cases hsame
    exact h.earlier finding hmem place hplace place' hblamable

/-- **All statements.** What they find is blamed on places in their order, except for the want of `END`, which
comes last. -/
theorem exists_located (table : NameTable) (circuit : Circuit) (input : List Symbol)
    (hincreasing : Increasing input) : ∃ located missing,
      (statements table circuit input).2 = located ++ missing ∧ Located input located [] ∧
      missing.Sublist [⟨.wanted .finalEnd, none⟩] := by
  -- along the recursion of the run: the statement in front first, then those that are left
  rw [statements.eq_def]
  split
  · exact ⟨[], _, rfl, located_nil _ _, List.Sublist.refl _⟩
  · next first rest =>
    split
    · exact ⟨[], [], rfl, located_nil _ _, List.nil_sublist _⟩
    · next hend =>
      have hend' : first.isKeyword .endWord = false := Bool.eq_false_iff.2 hend
      -- a statement consumes its word at least, so fewer symbols are left
      have hleft := @resume_statement_suffix table circuit first rest hend'
      have hshorter := Nat.lt_succ_of_le hleft.length_le
      have hhere : Located (first :: rest) _ _ :=
        @statement_located table circuit first rest hend' hincreasing
      obtain ⟨located, missing, hlater, hlocated, hmissing⟩ :=
        exists_located table (statement table circuit first rest).1
          (resume (statement table circuit first rest).2).2
          (hincreasing.sublist (hleft.trans (List.suffix_cons first rest)).sublist)
      refine ⟨(resume (statement table circuit first rest).2).1 ++ located, missing, ?_, ?_, hmissing⟩
      · rw [List.append_assoc, ← hlater]
      · exact hhere.append hlocated hleft
  termination_by input.length

end LogicCircuit.Definition

/-! ## Lines and columns -/

namespace LogicCircuit.Text

variable {front more : List Char} {excerpt later : Excerpt}

/-- The place of an excerpt is on an earlier line than that of another one, or further left on the same. -/
def Excerpt.Before (excerpt later : Excerpt) : Prop :=
  excerpt.line < later.line ∨ excerpt.line = later.line ∧ excerpt.column < later.column

/-- The line and the column are those that some characters lead to. -/
structure Excerpt.Counts (excerpt : Excerpt) (front : List Char) : Prop where
  line : excerpt.line = front.count '\n' + 1
  column : excerpt.column = (sinceLast isNewline front).length + 1

/-- Characters without a stop are added to the run behind the last one. -/
theorem sinceLast_append {stop : Char → Bool} (front : List Char) (h : ∀ c ∈ more, ¬ stop c) :
    sinceLast stop (front ++ more) = sinceLast stop front ++ more := by
  have hmore : ∀ c ∈ more.reverse, (!stop c) = true := fun c hc => by simpa using h c (List.mem_reverse.1 hc)
  rw [sinceLast, List.reverse_append, List.takeWhile_append_of_pos hmore, List.reverse_append,
    List.reverse_reverse, sinceLast]

/-- **More characters** lead to a later line, or to a later column on the same one. -/
theorem Excerpt.Counts.before (h : excerpt.Counts front) (hlater : later.Counts (front ++ more))
    (hmore : more ≠ []) : excerpt.Before later := by
  have hline := hlater.line
  have hcolumn := hlater.column
  have hlength := List.length_pos_iff.2 hmore
  rw [List.count_append] at hline
  rw [Excerpt.Before, h.line, h.column]
  -- a line feed on the way makes the line a later one; without any the line is the same and the column
  -- grows
  by_cases hnewline : '\n' ∈ more
  · have hcount := List.count_pos_iff.2 hnewline
    omega
  · have hcount := List.count_eq_zero.2 hnewline
    have hstay : ∀ c ∈ more, ¬ isNewline c := by
      rintro c hc hstop
      rw [isNewline, decide_eq_true_eq] at hstop
      exact hnewline (hstop ▸ hc)
    rw [sinceLast_append front hstay, List.length_append] at hcolumn
    omega

namespace Document

variable {doc : Document}

/-- A character is shown at the line and the column that the text in front of it leads to. -/
theorem Shows.counts {c : Char} {back : List Char} (h : doc.Shows front c back) :
    (doc.excerpt (byteLength front)).Counts front := by
  rw [excerpt_eq h]
  exact ⟨rfl, rfl⟩

/-- The content ends where the blanks at the end begin. -/
theorem takeBytes_contentEnd (doc : Document) : takeBytes doc.contentEnd doc.chars = trimEnd doc.chars := by
  have htake := takeBytes_byteLength (trimEnd doc.chars) (doc.chars.reverse.takeWhile isBlank).reverse
  rw [trimEnd_append_blanks] at htake
  exact htake

/-- The end of the text is shown behind its last character that is not blank. -/
theorem excerpt_size_counts (doc : Document) : (doc.excerpt doc.size).Counts (trimEnd doc.chars) := by
  have hend : doc.excerpt doc.size = doc.excerptWithin doc.contentEnd := if_neg (Nat.lt_irrefl _)
  have hhead : doc.lineHead doc.contentEnd = sinceLast isNewline (trimEnd doc.chars) :=
    lineHead_eq (trimEnd_append_blanks doc.chars).symm
  rw [hend]
  constructor
  · show doc.lineOf doc.contentEnd + 1 = _
    rw [lineOf, takeBytes_contentEnd]
  · show (doc.lineHead doc.contentEnd).length + 1 = _
    rw [hhead]

end Document

end LogicCircuit.Text

namespace LogicCircuit.Definition

open Text (byteLength byteLength_append trimEnd isBlank)

/-! ## The symbols of a text -/

/-- **A scan through `END`.** It has read all the symbols that it has found. -/
theorem Scanned.throughEnd {text front : List Char} {scanner : Scanner} (names : NameTable)
    (h : Scanned text scanner front) :
    let read := scanner.throughEnd names
    (∃ front', Scanned text read.2.1 front') ∧ Later scanner read.2.1 ∧
      ∀ symbol ∈ read.1, ∃ front c back, HasRead read.2.1 symbol front c back := by
  -- along the recursion of the scan; what has been read stays read while the scan goes on
  rw [Scanner.throughEnd]
  split
  · next after names' hnext =>
    obtain ⟨hscanned, hlater⟩ := h.next_none hnext
    exact ⟨hscanned, hlater, by simp⟩
  · next symbol after names' hnext =>
    obtain ⟨gap, rest, more, hfinds⟩ := h.finds hnext
    have hafter := h.of_finds hfinds
    have hstep := h.later_of_finds hfinds
    obtain ⟨front', c, back, hread⟩ := h.hasRead_of_finds hfinds
    split
    · exact ⟨⟨_, hafter⟩, hstep, List.forall_mem_singleton.2 ⟨front', c, back, hread⟩⟩
    · have hshorter := Scanner.length_next_lt hnext
      obtain ⟨⟨front'', hend⟩, hlater, hothers⟩ := hafter.throughEnd names'
      exact ⟨⟨front'', hend⟩, hstep.trans hlater,
        List.forall_mem_cons.2 ⟨⟨front', c, back, hread.later hlater hend⟩, hothers⟩⟩
  termination_by scanner.cursor.rest.length

/-- Every symbol of a text shows a character of it, at its offset. -/
theorem hasRead_symbolsOf (names : NameTable) (text : String) :
    (documentOf names text).chars = text.toList ∧ ∀ symbol ∈ symbolsOf names text,
      ∃ front c back, (documentOf names text).Shows front c back ∧ byteLength front = symbol.offset := by
  obtain ⟨⟨_, hend⟩, -, hread⟩ := (scanned_new text names).throughEnd
    ((Scanner.new text names).2.takeCodes (UInt64.ofNat Problem.kindCount)).2
  refine ⟨hend.chars, fun symbol hmem => ?_⟩
  obtain ⟨front, c, back, hsymbol⟩ := hread symbol hmem
  exact ⟨front, c, back, hsymbol.shows, hsymbol.offset⟩

/-! ## Reports -/

/-- The characters in front of a place, as far as they are shown. -/
structure Leads (doc : Text.Document) (place : Place) (front : List Char) : Prop where
  counts : (doc.excerpt (place.offset doc.size)).Counts front
  front : match place with
    | .atOffset offset => byteLength front = offset ∧ ∃ c back, doc.chars = front ++ c :: back ∧ ¬ isBlank c
    | .textEnd => front = trimEnd doc.chars

/-- Every place that can be blamed is shown behind some characters of the text. -/
theorem exists_leads {names : NameTable} {text : String} {place : Place}
    (h : Blamable (symbolsOf names text) place) : ∃ front, Leads (documentOf names text) place front := by
  cases h with
  | symbol symbol hmem =>
    obtain ⟨front, c, back, hshows, hoffset⟩ :=
      (hasRead_symbolsOf names text).2 symbol (blamable_subset _ hmem)
    have hcounts := hshows.counts
    rw [hoffset] at hcounts
    exact ⟨front, hcounts, hoffset, c, back, hshows.chars, hshows.solid⟩
  | textEnd hne => exact ⟨_, (documentOf names text).excerpt_size_counts, rfl⟩

/-- From one place to a later one there are characters. -/
theorem Leads.exists_more {doc : Text.Document} {place later : Place} {front front' : List Char}
    (h : Leads doc place front) (hlater : Leads doc later front') (hbefore : place.Before later) :
    ∃ more, more ≠ [] ∧ front' = front ++ more := by
  have hfront := h.front
  have hfront' := hlater.front
  cases place with
  | textEnd => exact hbefore.elim
  | atOffset offset =>
    obtain ⟨rfl, c, back, hchars, hsolid⟩ := hfront
    -- the end of the text is behind every character that is not blank
    cases later with
    | textEnd =>
      refine ⟨c :: trimEnd back, List.cons_ne_nil _ _, ?_⟩
      rw [hfront', hchars, Text.trimEnd_append_cons hsolid]
    | atOffset offset' =>
      -- both are beginnings of one text, so the shorter one is a beginning of the longer one
      obtain ⟨rfl, c', back', hchars', -⟩ := hfront'
      have hlt : byteLength front < byteLength front' := hbefore
      obtain ⟨more, rfl⟩ : front <+: front' :=
        Text.prefix_of_byteLength_le ⟨_, hchars.symm⟩ ⟨_, hchars'.symm⟩ (Nat.le_of_lt hlt)
      refine ⟨more, ?_, rfl⟩
      rintro rfl
      rw [List.append_nil] at hlt
      exact absurd hlt (Nat.lt_irrefl _)

/-- What is reported about the circuit at the end. -/
theorem warnings_sublist (circuit : Circuit) (codes : ErrorCodes) : (warnings circuit codes).Sublist
    [(Problem.mistake (.floatingInputs circuit.network.floatingNames)).diagnostic codes,
      .warning "No monitors have been declared"] := by
  have hfloating : (floatingWarning? circuit.network codes).toList.Sublist
      [(Problem.mistake (.floatingInputs circuit.network.floatingNames)).diagnostic codes] := by
    unfold floatingWarning?
    -- each warning is there or is not, and their order is fixed
    split
    · exact List.nil_sublist _
    · exact List.Sublist.refl _
  have hmonitor : (monitorWarning? circuit.monitors).toList.Sublist
      [.warning "No monitors have been declared"] := by
    unfold monitorWarning?
    split
    · exact List.Sublist.refl _
    · exact List.nil_sublist _
  exact hfloating.append hmonitor

/-- **Reports come in the order of the text.** The diagnostics that show a place come first, each on a later
line than the one before it, or further right on the same line; so no place is shown twice. Behind them come
those without a place, each at most once: the want of `END`, inputs that nothing drives, and no monitors. -/
theorem reports_in_order (names : NameTable) (circuit : Circuit) (text : String) :
    let reading := readOnto names circuit text
    ∃ shown silent, reading.diagnostics = shown ++ silent ∧
      (∀ diagnostic ∈ shown, diagnostic.excerpt.isSome) ∧
      (shown.filterMap Diagnostic.excerpt).Pairwise Text.Excerpt.Before ∧
      (∀ diagnostic ∈ silent, diagnostic.excerpt = none) ∧
      silent.Sublist [(Problem.wanted .finalEnd).diagnostic reading.codes,
        (Problem.mistake (.floatingInputs reading.circuit.network.floatingNames)).diagnostic reading.codes,
        .warning "No monitors have been declared"] := by
  intro reading
  let doc := documentOf names text
  obtain ⟨located, missing, hfindings, hlocated, hmissing⟩ := exists_located reading.names circuit
    (symbolsOf names text) (increasing_scan names text)
  have hsilent : (missing.map (Finding.diagnostic reading.codes doc)
      ++ warnings reading.circuit reading.codes).Sublist
        [(Problem.wanted .finalEnd).diagnostic reading.codes,
          (Problem.mistake (.floatingInputs reading.circuit.network.floatingNames)).diagnostic reading.codes,
          .warning "No monitors have been declared"] :=
    (hmissing.map (Finding.diagnostic reading.codes doc)).append (warnings_sublist reading.circuit _)
  -- the findings without a place are the last of the findings, and the warnings follow them
  refine ⟨located.map (Finding.diagnostic reading.codes doc), _, ?_, ?_, ?_, ?_, hsilent⟩
  · rw [← List.append_assoc, ← List.map_append, ← hfindings]
    exact diagnostics_readOnto names circuit text
  · intro diagnostic hmem
    obtain ⟨finding, hfinding, rfl⟩ := List.mem_map.1 hmem
    obtain ⟨place, hplace, -⟩ := hlocated.placed finding hfinding
    simp [Finding.diagnostic, hplace]
  · rw [List.filterMap_map, List.pairwise_filterMap]
    -- what leads to the place of a finding are characters of the text, whatever its place is
    refine hlocated.ordered.imp_of_mem
      fun {finding later} hmem hmem' hbefore shown hshown shown' hshown' => ?_
    obtain ⟨place, hplace, hblamable⟩ := hlocated.placed finding hmem
    obtain ⟨place', hplace', hblamable'⟩ := hlocated.placed later hmem'
    obtain ⟨front, hleads⟩ := exists_leads hblamable
    obtain ⟨front', hleads'⟩ := exists_leads hblamable'
    obtain ⟨more, hmore, rfl⟩ := hleads.exists_more hleads' (hbefore place hplace place' hplace')
    have hexcerpt : shown = doc.excerpt (place.offset doc.size) := by
      simpa [Finding.diagnostic, hplace] using hshown.symm
    have hexcerpt' : shown' = doc.excerpt (place'.offset doc.size) := by
      simpa [Finding.diagnostic, hplace'] using hshown'.symm
    rw [hexcerpt, hexcerpt']
    exact hleads.counts.before hleads'.counts hmore
  · intro diagnostic hmem
    have hthree := hsilent.mem hmem
    simp only [List.mem_cons, List.not_mem_nil, or_false] at hthree
    rcases hthree with rfl | rfl | rfl <;> rfl

end LogicCircuit.Definition
