import LogicCircuit.Proofs.Definition.Coverage
import LogicCircuit.Proofs.Definition.Parts
import LogicCircuit.Proofs.Interning

/-!
# Lifetimes — all that is asked of a table

A table is asked for handles and texts, it issues error codes, and scanners and readings use it for the texts
that they come upon. None of this does more to the texts of the table than interning some list of texts, which
does not depend on the table (`NameTable.call_eq`). So the table that calls lead to is the empty one with all
their lists interned, and what holds of interning holds of the whole lifetime.

* **`kindsOf_eq_internAll`** — what symbols intern, and the handles that they carry.
* **`Scanner.kinds_callAll`** — the same for a scanner, whatever it is asked.
* **`NameTable.handles_callAll`** — handles and texts over a lifetime.
-/

namespace LogicCircuit

namespace Definition

/-! ## What symbols intern -/

/-- The text that is interned for a token. -/
def Token.text? : Token → Option String
  | keyword word => some word.spelling
  | number digits => some digits
  | name text => some text
  | fullStop | semicolon | invalid _ => none

/-- The text of a symbol with its handle. -/
def SymbolKind.entry? : SymbolKind → Option (String × NameId)
  | keyword word id => some (word.spelling, id)
  | number digits id => some (digits, id)
  | name text id => some (text, id)
  | fullStop | semicolon | invalid _ => none

/-- **Symbols** intern the texts of their tokens, and carry the handles that are answered. -/
theorem kindsOf_eq_internAll (names : NameTable) (tokens : List Token) :
    (kindsOf names tokens).2 = (names.internAll (tokens.filterMap Token.text?)).2 ∧
      (kindsOf names tokens).1.filterMap SymbolKind.entry?
        = (tokens.filterMap Token.text?).zip (names.internAll (tokens.filterMap Token.text?)).1 := by
  induction tokens generalizing names with
  | nil => exact ⟨rfl, rfl⟩
  | cons token others ih =>
    obtain ⟨htable, hentries⟩ := ih (SymbolKind.ofToken names token).2
    rw [kindsOf]
    dsimp only
    -- a token has one text or none
    cases token with
    | keyword word => exact ⟨htable, congrArg (List.cons _) hentries⟩
    | number digits => exact ⟨htable, congrArg (List.cons _) hentries⟩
    | name text => exact ⟨htable, congrArg (List.cons _) hentries⟩
    | _ => exact ⟨htable, hentries⟩

/-- So the table has the text of a symbol under its handle. -/
theorem text?_of_mem_kindsOf (names : NameTable) (tokens : List Token) :
    ∀ entry ∈ (kindsOf names tokens).1.filterMap SymbolKind.entry?,
      (kindsOf names tokens).2.text? entry.2 = some entry.1 := by
  obtain ⟨htable, hentries⟩ := kindsOf_eq_internAll names tokens
  rw [htable, hentries]
  exact names.text?_of_mem_zip _

/-- The texts of all keywords. -/
def spellings : List String :=
  Keyword.all.map Keyword.spelling

namespace Scanner

/-- Behind the end of the text there are no more tokens. -/
theorem tokens_of_next_eq_none {scanner after : Scanner} {names names' : NameTable}
    (h : scanner.next names = (none, after, names')) : after.cursor.tokens = [] := by
  unfold next at h
  dsimp only at h
  split at h
  · next hlexeme =>
    have hcursor : after.cursor = scanner.cursor.skipGap.after := by
      cases h
      rfl
    have hrest : scanner.cursor.skipGap.after.rest = [] := by
      cases hchars : scanner.cursor.skipGap.after.rest with
      | nil => rfl
      | cons c others =>
        obtain ⟨lexeme, next, hsome, -⟩ := Cursor.lexeme?_spec hchars
        rw [hlexeme] at hsome
        cases hsome
    apply Cursor.tokens_eq_nil
    rw [hcursor, Cursor.skipGap, hrest]
    rfl
  · cases h

/-- A scanner that is only asked for symbols finds those of as many tokens as it is asked for. -/
theorem kinds_replicate (scanner : Scanner) (names : NameTable) (asked : Nat) :
    (answers (scanner, names) (List.replicate asked .next)).filterMap
        (fun answer => answer.1.map Symbol.kind)
        = (kindsOf names (scanner.cursor.tokens.take asked)).1 ∧
      (callAll (scanner, names) (List.replicate asked .next)).2
        = (kindsOf names (scanner.cursor.tokens.take asked)).2 := by
  induction asked generalizing scanner names with
  | zero => exact ⟨rfl, rfl⟩
  | succ asked ih =>
    obtain ⟨hkinds, htable⟩ := ih (scanner.next names).2.1 (scanner.next names).2.2
    have hcall : callAll (scanner, names) (List.replicate (asked + 1) .next)
        = callAll (scanner.next names).2 (List.replicate asked .next) := rfl
    rw [hcall, List.replicate_succ, answers, call]
    -- at the end of the text there is nothing more to find, however often it is asked for
    rcases hnext : scanner.next names with ⟨_ | symbol, after, names'⟩
    · obtain ⟨htokens, -, rfl⟩ := next_eq_none hnext
      rw [hnext, tokens_of_next_eq_none hnext, List.take_nil] at hkinds htable
      rw [htokens, List.take_nil]
      exact ⟨hkinds, htable⟩
    · obtain ⟨htokens, -⟩ := next_eq_some hnext
      have hkind := next_eq_ofToken hnext
      rw [hnext] at hkinds htable
      rw [htokens, List.take_succ_cons, kindsOf, ← hkind]
      exact ⟨congrArg (List.cons symbol.kind) hkinds, htable⟩

/-- **Scanners** find the symbols of their tokens, as many as they are asked for. -/
theorem kinds_callAll (names : NameTable) (text : String) (calls : List Call) :
    (answers (new text names) calls).filterMap (fun answer => answer.1.map Symbol.kind)
        = (kindsOf (names.internAll spellings).2 ((tokens text).take (calls.count .next))).1 ∧
      (callAll (new text names) calls).2
        = (kindsOf (names.internAll spellings).2 ((tokens text).take (calls.count .next))).2 := by
  obtain ⟨-, htable, hanswers⟩ := callAll_unreported (new text names) calls
  have hcursor : (new text names).1.cursor.tokens = tokens text := by
    rw [(new_spec text names).1, tokens]
  rw [htable, hanswers, ← hcursor]
  exact kinds_replicate (new text names).1 (new text names).2 (calls.count .next)

end Scanner

/-- **Readings** find the symbols of their tokens through `END`. -/
theorem kinds_readOnto (names : NameTable) (circuit : Circuit) (text : String) :
    (symbolsOf names text).map Symbol.kind
        = (kindsOf (keywordTable names) (throughEndWord (tokens text))).1 ∧
      (readOnto names circuit text).names
        = (kindsOf (keywordTable names) (throughEndWord (tokens text))).2 := by
  have h := kinds_scan names circuit text
  rw [Prod.ext_iff] at h
  exact h

end Definition

/-! ## Calls -/

namespace NameTable

open Definition

/-- What a table is asked or used for. -/
inductive Call where
  | intern (text : String)
  | internAll (texts : List String)
  | query (text : String)
  | textAt (id : NameId)
  | nameOf (id : NameId)
  | issueCodes (count : UInt64)
  /-- A scanner over a text, with all that it is asked. -/
  | scan (text : String) (asked : List Scanner.Call)
  /-- A reading of a text that is set up, but not carried out. -/
  | prepare (text : String)
  | read (circuit : Circuit) (text : String)

/-- The table after a call. -/
def call (table : NameTable) : Call → NameTable
  | .intern text => (table.intern text).2
  | .internAll texts => (table.internAll texts).2
  | .query _ | .textAt _ | .nameOf _ => table
  | .issueCodes count =>
    match table.issueCodes count with
    | .ok (_, after) => after
    | .error _ => table
  | .scan text asked => (Scanner.callAll (Scanner.new text table) asked).2
  | .prepare text => ((Scanner.new text table).2.takeCodes (UInt64.ofNat Problem.kindCount)).2
  | .read circuit text => (readOnto table circuit text).names

def callAll (table : NameTable) (calls : List Call) : NameTable :=
  calls.foldl call table

/-- The texts that a call interns. -/
def Call.texts : Call → List String
  | .intern text => [text]
  | .internAll texts => texts
  | .query _ | .textAt _ | .nameOf _ | .issueCodes _ => []
  | .scan text asked => spellings ++ ((tokens text).take (asked.count .next)).filterMap Token.text?
  | .prepare _ => spellings
  | .read _ text => spellings ++ (throughEndWord (tokens text)).filterMap Token.text?

/-- The number of codes that a call uses up. -/
def Call.codes : Call → UInt64
  | .issueCodes count => count
  | .prepare _ | .read _ _ => UInt64.ofNat Problem.kindCount
  | _ => 0

/-- The texts and handles that a call brings together, one of which was asked for and the other answered. -/
def Call.entries (table : NameTable) : Call → List (String × NameId)
  | .intern text => [(text, (table.intern text).1)]
  | .internAll texts => texts.zip (table.internAll texts).1
  | .query text => ((table.id? text).map fun id => (text, id)).toList
  | .textAt id => ((table.text? id).map fun text => (text, id)).toList
  | .nameOf id =>
    match table.textOf id with
    | .ok text => [(text, id)]
    | .error _ => []
  | .issueCodes _ | .prepare _ => []
  | .scan text asked => ((Scanner.answers (Scanner.new text table) asked).filterMap
      fun answer => answer.1.map Symbol.kind).filterMap SymbolKind.entry?
  | .read _ text => ((symbolsOf table text).map Symbol.kind).filterMap SymbolKind.entry?

/-- The entries of calls made one after the other. -/
def entries (table : NameTable) : List Call → List (String × NameId)
  | [] => []
  | first :: later => first.entries table ++ entries (table.call first) later

variable {table : NameTable}

/-- **One call** interns its texts and uses up its codes, and does nothing else. -/
theorem call_eq (table : NameTable) (call : Call) :
    (table.call call).texts = (table.internAll call.texts).2.texts ∧
      (table.call call).codesIssued = table.codesIssued + call.codes := by
  have hspellings := codesIssued_internAll table spellings
  cases call with
  | intern text =>
    exact ⟨rfl, (codesIssued_intern table text).trans (UInt64.add_zero _).symm⟩
  | internAll texts =>
    exact ⟨rfl, (codesIssued_internAll table texts).trans (UInt64.add_zero _).symm⟩
  | query text => exact ⟨rfl, (UInt64.add_zero _).symm⟩
  | textAt id => exact ⟨rfl, (UInt64.add_zero _).symm⟩
  | nameOf id => exact ⟨rfl, (UInt64.add_zero _).symm⟩
  | issueCodes count =>
    by_cases hzero : count = 0
    · subst hzero
      exact ⟨rfl, (UInt64.add_zero _).symm⟩
    · rw [NameTable.call, issueCodes, if_neg hzero]
      exact ⟨rfl, rfl⟩
  | scan text asked =>
    have hscan := (Scanner.kinds_callAll table text asked).2
    rw [(kindsOf_eq_internAll _ _).1] at hscan
    rw [NameTable.call, Call.texts, internAll_append, hscan, codesIssued_internAll, hspellings]
    exact ⟨rfl, (UInt64.add_zero _).symm⟩
  | prepare text =>
    exact ⟨rfl, congrArg (· + UInt64.ofNat Problem.kindCount) hspellings⟩
  | read circuit text =>
    have hread := (kinds_readOnto table circuit text).2
    rw [(kindsOf_eq_internAll _ _).1] at hread
    have hkeywords : (keywordTable table).texts = (table.internAll spellings).2.texts := rfl
    have htexts := (internAll_congr hkeywords ((throughEndWord (tokens text)).filterMap Token.text?)).2
    rw [NameTable.call, Call.texts, internAll_append, hread, codesIssued_internAll]
    exact ⟨htexts, congrArg (· + UInt64.ofNat Problem.kindCount) hspellings⟩

/-- A call only adds texts, so what has been answered stays right. -/
theorem grows_call (table : NameTable) (call : Call) : table.Grows (table.call call) := by
  intro id text htext
  rw [text?, (call_eq table call).1]
  exact (internAll_spec table call.texts).1 id text htext

/-- So do all calls. -/
theorem grows_callAll (table : NameTable) (calls : List Call) : table.Grows (table.callAll calls) := by
  induction calls generalizing table with
  | nil => exact .refl table
  | cons first later ih => exact (grows_call table first).trans (ih (table.call first))

/-- What has a handle in a call has it in the table then. -/
theorem text?_of_mem_call (table : NameTable) (call : Call) :
    ∀ entry ∈ call.entries table, (table.call call).text? entry.2 = some entry.1 := by
  cases call with
  | intern text => exact List.forall_mem_singleton.2 (id?_eq_some_iff.1 (id?_intern table text))
  | internAll texts => exact text?_of_mem_zip table texts
  | query text =>
    intro entry hentry
    obtain ⟨id, hid, rfl⟩ := Option.map_eq_some_iff.1 (Option.mem_toList.1 hentry)
    exact id?_eq_some_iff.1 hid
  | textAt id =>
    intro entry hentry
    obtain ⟨text, htext, rfl⟩ := Option.map_eq_some_iff.1 (Option.mem_toList.1 hentry)
    exact htext
  | nameOf id =>
    rw [Call.entries, textOf]
    cases htext : table.text? id with
    | some text => exact List.forall_mem_singleton.2 htext
    | none => exact nofun
  | issueCodes count => exact nofun
  | prepare text => exact nofun
  | scan text asked =>
    obtain ⟨hkinds, htable⟩ := Scanner.kinds_callAll table text asked
    rw [Call.entries, NameTable.call, hkinds, htable]
    exact text?_of_mem_kindsOf _ _
  | read circuit text =>
    obtain ⟨hkinds, htable⟩ := kinds_readOnto table circuit text
    rw [Call.entries, NameTable.call, hkinds, htable]
    exact text?_of_mem_kindsOf _ _

/-- What has a handle in any of the calls has it in the end. -/
theorem text?_of_mem_entries {calls : List Call} {entry : String × NameId}
    (h : entry ∈ table.entries calls) : (table.callAll calls).text? entry.2 = some entry.1 := by
  induction calls generalizing table with
  | nil => cases h
  | cons first later ih =>
    rcases List.mem_append.1 h with hfirst | hlater
    · exact grows_callAll (table.call first) later _ _ (text?_of_mem_call table first entry hfirst)
    · exact ih hlater

/-- **All calls** intern their texts, one after the other. -/
theorem texts_callAll (table : NameTable) (calls : List Call) :
    (table.callAll calls).texts = (table.internAll (calls.flatMap Call.texts)).2.texts := by
  induction calls generalizing table with
  | nil => rfl
  | cons first later ih =>
    have hlater := (internAll_congr (call_eq table first).1 (later.flatMap Call.texts)).2
    rw [List.flatMap_cons, internAll_append]
    exact (ih (table.call first)).trans hlater

end NameTable

namespace IndexedTable

variable {indexed : IndexedTable} {table : NameTable}

/-- The table after a call, by the texts that it interns and the codes that it uses up. -/
def call (indexed : IndexedTable) (call : NameTable.Call) : IndexedTable :=
  { (indexed.internAll call.texts).2 with codesIssued := indexed.codesIssued + call.codes }

def callAll (indexed : IndexedTable) (calls : List NameTable.Call) : IndexedTable :=
  calls.foldl IndexedTable.call indexed

/-- A table that is kept in both directions stays the same as the other one, call by call. -/
theorem Represents.call (h : indexed.Represents table) (call : NameTable.Call) :
    (indexed.call call).Represents (table.call call) := by
  obtain ⟨htexts, hcodes⟩ := NameTable.call_eq table call
  have hinterned := (h.internAll call.texts).2
  refine ⟨hinterned.texts.trans htexts.symm, hinterned.inverse, ?_⟩
  rw [hcodes, ← h.codesIssued]
  rfl

/-- So it does over a lifetime. -/
theorem Represents.callAll (h : indexed.Represents table) (calls : List NameTable.Call) :
    (indexed.callAll calls).Represents (table.callAll calls) := by
  induction calls generalizing indexed table with
  | nil => exact h
  | cons first later ih => exact ih (h.call first)

end IndexedTable

namespace NameTable

/-- **Handles and texts over a lifetime.** Whatever an empty table is asked and used for, call by call:

* kept in both directions, it holds the same, and its directions are inverse to each other;
* it holds the texts that have been interned, each once, in the order of first appearance, and the handles
  that have a text are the numbers below its size;
* handles that any two of the calls were about are equal exactly if their texts are, and no later call
  changes the text of a handle;
* a text has a handle if it has been interned, and not before;
* texts that are new and distinct get the next handles, one after the other;
* asking for a handle or a text changes nothing. -/
theorem handles_callAll (calls : List Call) :
    let table := empty.callAll calls
    let indexed := IndexedTable.empty.callAll calls
    let interned := calls.flatMap Call.texts
    (indexed.texts = table.texts ∧
      (∀ (text : String) (id : NameId),
        indexed.index[text]? = some id ↔ indexed.texts[id.index]? = some text) ∧
      ∀ text id, indexed.id? text = table.id? text ∧ indexed.text? id = table.text? id) ∧
    (table.texts.toList = interned.eraseDups ∧
      ∀ id, (∃ text, table.text? id = some text) ↔ id.index < table.size) ∧
    (∀ entry ∈ empty.entries calls, ∀ other ∈ empty.entries calls,
      entry.2 = other.2 ↔ entry.1 = other.1) ∧
    (∀ later, (∀ entry ∈ empty.entries calls, (table.callAll later).text? entry.2 = some entry.1) ∧
      ∀ id text, table.text? id = some text → (table.callAll later).text? id = some text) ∧
    (∀ text, (table.id? text).isSome ↔ text ∈ interned) ∧
    (∀ texts, texts.Nodup → (∀ text ∈ texts, text ∉ interned) →
      (table.internAll texts).1 = (List.range' table.size texts.length).map NameId.mk) ∧
    ∀ text id, table.call (.query text) = table ∧ table.call (.textAt id) = table ∧
      table.call (.nameOf id) = table := by
  intro table indexed interned
  have hrepresents : indexed.Represents table := IndexedTable.represents_empty.callAll calls
  have htexts : table.texts.toList = interned.eraseDups := by
    rw [← toList_internAll_empty, ← texts_callAll]
  have hmem : ∀ text, text ∈ table.texts.toList ↔ text ∈ interned := fun text => by
    rw [htexts, List.mem_eraseDups]
  have hentry : ∀ entry ∈ empty.entries calls, table.text? entry.2 = some entry.1 :=
    fun entry => text?_of_mem_entries
  refine ⟨⟨hrepresents.texts, hrepresents.inverse, fun text id =>
      ⟨hrepresents.id? text, hrepresents.text? id⟩⟩,
    ⟨htexts, fun id => ?_⟩, fun entry hentry' other hother => ?_,
    fun later => ⟨fun entry hentry' => ?_, grows_callAll table later⟩, fun text => ?_,
    fun texts hnodup hnew => ?_, fun text id => ⟨rfl, rfl, rfl⟩⟩
  · rw [← Option.isSome_iff_exists, text?, isSome_getElem?, size]
  · exact eq_iff_of_text? (hentry entry hentry') (hentry other hother)
  · exact grows_callAll table later _ _ (hentry entry hentry')
  · rw [isSome_id?_iff, hmem]
  · exact internAll_of_new hnodup fun text htext => by
      rw [hmem]
      exact hnew text htext

end NameTable

end LogicCircuit
