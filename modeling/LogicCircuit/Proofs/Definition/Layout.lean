import LogicCircuit.Proofs.Definition.Gaps
import LogicCircuit.Proofs.Definition.Relocation
import LogicCircuit.Proofs.Definition.Scanning
import Mathlib.Algebra.Order.BigOperators.Group.List
import Mathlib.Algebra.Order.Group.Nat

/-!
# Layout — reading depends on the tokens of a text

Two texts with the same tokens are read alike, however they are laid out, and all that their readings
differ in is what the excerpts of the diagnostics show.

The symbols of such texts differ in their offsets alone, since handles are issued in the order of the
tokens (`kinds_throughEnd`). Offsets increase, so the symbols of either text are what becomes of symbols
numbered from 0 when they are moved to places of their own (`eq_move_numbered`, `spread_injective`), and
moving symbols changes nothing but places (`statements_move`).
-/

namespace LogicCircuit.Definition

/-! ## Symbols of tokens -/

/-- A keyword has one spelling, so the word it has been found by is that one. -/
theorem Keyword.eq_spelling {text : String} {word : Keyword} (h : Keyword.ofSpelling? text = some word) :
    text = word.spelling := by
  have hfound := List.find?_some h
  simpa using Eq.symm (of_decide_eq_true hfound)

/-- The symbol of a token, with its text interned. -/
def SymbolKind.ofToken (names : NameTable) : Token → SymbolKind × NameTable
  | .fullStop => (fullStop, names)
  | .semicolon => (semicolon, names)
  | .keyword word =>
    let (id, names) := names.intern word.spelling
    (keyword word id, names)
  | .number digits =>
    let (id, names) := names.intern digits
    (number digits id, names)
  | .name text =>
    let (id, names) := names.intern text
    (name text id, names)
  | .invalid c => (invalid c, names)

/-- Of a word, the symbol depends on the token only: a keyword is interned with its spelling, which is the
word. -/
theorem ofLexeme_eq_ofToken (names : NameTable) (lexeme : Lexeme) :
    SymbolKind.ofLexeme names lexeme = SymbolKind.ofToken names (Token.ofLexeme lexeme) := by
  cases lexeme with
  | word text =>
    rw [SymbolKind.ofLexeme, Token.ofLexeme]
    cases hword : Keyword.ofSpelling? text with
    | none => rfl
    | some word =>
      rw [Keyword.eq_spelling hword]
      rfl
  | _ => rfl

/-- The symbols of tokens, and the table with their texts. -/
def kindsOf (names : NameTable) : List Token → List SymbolKind × NameTable
  | [] => ([], names)
  | token :: others =>
    let (kind, names) := SymbolKind.ofToken names token
    let (kinds, names) := kindsOf names others
    (kind :: kinds, names)

/-- A symbol that is found is that of its token. -/
theorem next_eq_ofToken {scanner after : Scanner} {names names' : NameTable} {symbol : Symbol}
    (h : scanner.next names = (some symbol, after, names')) :
    (symbol.kind, names') = SymbolKind.ofToken names symbol.token := by
  unfold Scanner.next at h
  dsimp only at h
  split at h
  · cases h
  · next lexeme cursor hlexeme =>
    have hkind := ofLexeme_eq_ofToken names lexeme
    -- the token does not depend on the table, which only adds the handle
    rw [← token_ofLexeme names lexeme] at hkind
    cases h
    exact hkind

/-- **Scanning** makes symbols and handles of the tokens alone. -/
theorem kinds_throughEnd (scanner : Scanner) (names : NameTable) :
    ((scanner.throughEnd names).1.map Symbol.kind, (scanner.throughEnd names).2.2)
      = kindsOf names (throughEndWord scanner.cursor.tokens) := by
  rw [Scanner.throughEnd]
  split
  · next after names' h =>
    obtain ⟨htokens, -, rfl⟩ := next_eq_none h
    rw [htokens]
    rfl
  · next symbol after names' h =>
    obtain ⟨htokens, -⟩ := next_eq_some h
    have hkind := next_eq_ofToken h
    rw [htokens]
    -- at `END` the scan and the tokens stop both, and otherwise both go on
    split
    · next hend =>
      rw [Symbol.isKeyword_iff.1 hend] at hkind ⊢
      rw [throughEndWord_endWord, kindsOf, ← hkind]
      rfl
    · next hend =>
      have hlater := kinds_throughEnd after names'
      rw [throughEndWord_cons fun h => hend (Symbol.isKeyword_iff.2 h), kindsOf, ← hkind]
      dsimp only
      rw [← hlater]
      rfl
  termination_by scanner.cursor.rest.length
  decreasing_by exact Scanner.length_next_lt (by assumption)

/-- The table that a scan starts with. -/
def keywordTable (names : NameTable) : NameTable :=
  ((names.internAll (Keyword.all.map Keyword.spelling)).2.takeCodes
    (UInt64.ofNat Problem.kindCount)).2

variable (names : NameTable) (circuit : Circuit) (text : String)

/-- The kinds of the symbols and the table of a reading are those of the tokens through `END`. -/
theorem kinds_scan : ((symbolsOf names text).map Symbol.kind, (readOnto names circuit text).names)
    = kindsOf (keywordTable names) (throughEndWord (tokens text)) := by
  have hscan := kinds_throughEnd (Scanner.new text names).1 (keywordTable names)
  rw [(new_spec text names).1] at hscan
  exact hscan

/-! ## Places -/

/-- Symbols that stand at 0, 1, 2 and so on. -/
def numbered (kinds : List SymbolKind) : List Symbol :=
  kinds.mapIdx fun index kind => ⟨kind, index⟩

/-- The places of numbered symbols, and places of their own for all further numbers. -/
def spread (offsets : List Nat) (index : Nat) : Nat :=
  offsets[index]?.getD (offsets.sum + 1 + index)

/-- Places in increasing order are all different, and the further numbers have places behind them. -/
theorem spread_injective {offsets : List Nat} (h : offsets.Pairwise (· < ·)) :
    Function.Injective (spread offsets) := by
  have hnodup : offsets.Nodup := h.imp fun hlt => Nat.ne_of_lt hlt
  have hin : ∀ index, index < offsets.length → ∃ hlt : index < offsets.length,
      spread offsets index = offsets[index] ∧ offsets[index] ≤ offsets.sum := by
    intro index hlt
    refine ⟨hlt, by rw [spread, List.getElem?_eq_getElem hlt, Option.getD_some], ?_⟩
    exact List.le_sum_of_mem (List.getElem_mem hlt)
  have hout : ∀ index, ¬ index < offsets.length → spread offsets index = offsets.sum + 1 + index := by
    intro index hge
    rw [spread, List.getElem?_eq_none (Nat.le_of_not_lt hge), Option.getD_none]
  -- all symbols stand in front of the places of the further numbers
  intro first second heq
  by_cases hfirst : first < offsets.length
  · obtain ⟨_, hplace, hle⟩ := hin first hfirst
    by_cases hsecond : second < offsets.length
    · obtain ⟨_, hplace', -⟩ := hin second hsecond
      rw [hplace, hplace'] at heq
      exact (hnodup.getElem_inj_iff).1 heq
    · rw [hplace, hout second hsecond] at heq
      omega
  · by_cases hsecond : second < offsets.length
    · obtain ⟨_, hplace', hle'⟩ := hin second hsecond
      rw [hplace', hout first hfirst] at heq
      omega
    · rw [hout first hfirst, hout second hsecond] at heq
      omega

/-- Symbols are numbered ones that have been moved to their places. -/
theorem eq_move_numbered (symbols : List Symbol) : symbols =
    (numbered (symbols.map Symbol.kind)).map (Symbol.move (spread (symbols.map Symbol.offset))) := by
  refine List.ext_getElem (by simp [numbered]) fun index hlt hlt' => ?_
  simp [numbered, Symbol.move, spread, hlt]

/-- What is read and found depends on the kinds of the symbols, and only the places are moved. -/
theorem exists_statements_eq (table : NameTable) {symbols : List Symbol} (h : Increasing symbols) :
    ∃ f, statements table circuit symbols =
      ((statements table circuit (numbered (symbols.map Symbol.kind))).1,
        (statements table circuit (numbered (symbols.map Symbol.kind))).2.map (Finding.move f)) := by
  have hplaces : (symbols.map Symbol.offset).Pairwise (· < ·) := List.pairwise_map.2 h
  refine ⟨spread (symbols.map Symbol.offset), ?_⟩
  rw [← statements_move (spread_injective hplaces), ← eq_move_numbered]

/-! ## Readings -/

/-- Diagnostics that differ in what their excerpts show, and in nothing else. -/
def Alike (diagnostic other : Diagnostic) : Prop :=
  { diagnostic with excerpt := none } = { other with excerpt := none } ∧
    diagnostic.excerpt.isSome = other.excerpt.isSome

theorem Alike.refl (diagnostic : Diagnostic) : Alike diagnostic diagnostic :=
  ⟨rfl, rfl⟩

/-- A finding is reported alike wherever it is moved, in any document. -/
theorem alike_move (codes : ErrorCodes) (doc doc' : Text.Document) (f f' : Nat → Nat)
    (finding : Finding) : Alike ((finding.move f).diagnostic codes doc)
      ((finding.move f').diagnostic codes doc') := by
  refine ⟨rfl, ?_⟩
  simp [Finding.diagnostic, Finding.move]

variable {names circuit} {first second : String}

/-- **Texts with the same tokens** are read alike. -/
theorem readOnto_of_tokens_eq (h : tokens first = tokens second) :
    (readOnto names circuit first).names = (readOnto names circuit second).names ∧
      (readOnto names circuit first).circuit = (readOnto names circuit second).circuit ∧
      (readOnto names circuit first).codes = (readOnto names circuit second).codes ∧
      List.Forall₂ Alike (readOnto names circuit first).diagnostics
        (readOnto names circuit second).diagnostics := by
  have hkinds := kinds_scan names circuit first
  rw [h, ← kinds_scan names circuit second] at hkinds
  obtain ⟨hsymbols, hnames⟩ := Prod.mk.inj hkinds
  -- both readings are moves of one reading of numbered symbols
  obtain ⟨f, hfirst⟩ := exists_statements_eq circuit (readOnto names circuit first).names
    (increasing_scan names first)
  obtain ⟨f', hsecond⟩ := exists_statements_eq circuit (readOnto names circuit second).names
    (increasing_scan names second)
  rw [hsymbols, hnames] at hfirst
  have hcircuit : (readOnto names circuit first).circuit = (readOnto names circuit second).circuit := by
    show (statements (readOnto names circuit first).names circuit (symbolsOf names first)).1
      = (statements (readOnto names circuit second).names circuit (symbolsOf names second)).1
    rw [hnames, hfirst, hsecond]
  have hcodes : (readOnto names circuit first).codes = (readOnto names circuit second).codes := rfl
  refine ⟨hnames, hcircuit, hcodes, ?_⟩
  rw [diagnostics_readOnto, diagnostics_readOnto, findingsOf, findingsOf, hnames, hfirst, hsecond,
    hcircuit, hcodes]
  -- the warnings at the end are about the circuit, and have no excerpts
  refine List.rel_append ?_ (List.forall₂_same.2 fun diagnostic _ => .refl diagnostic)
  rw [List.map_map, List.map_map, List.forall₂_map_left_iff, List.forall₂_map_right_iff]
  exact List.forall₂_same.2 fun finding _ => alike_move _ _ _ f f' finding

theorem tokens_ofList (chars : List Char) : tokens (String.ofList chars) = tokensOf chars := by
  rw [tokens, String.toList_ofList]
  rfl

/-- **Layout does not matter.**

* Texts with the same tokens are read alike: the tables, the circuits and the codes are equal, and so are
  the diagnostics, one by one, but for what their excerpts show.
* A text keeps its tokens when a closed comment in it is replaced by blanks, or by any other closed gap
  that is not empty.
* It keeps them when blanks, a closed comment or any other closed gap is put right behind a symbol. -/
theorem layout_irrelevant :
    (∀ first second, tokens first = tokens second → ∀ names circuit,
      (readOnto names circuit first).names = (readOnto names circuit second).names ∧
      (readOnto names circuit first).circuit = (readOnto names circuit second).circuit ∧
      (readOnto names circuit first).codes = (readOnto names circuit second).codes ∧
      List.Forall₂ Alike (readOnto names circuit first).diagnostics
        (readOnto names circuit second).diagnostics) ∧
    (∀ front comment gap rest, Stands (front ++ (comment ++ rest)) (comment ++ rest) →
      Comment comment → ClosedGap gap → gap ≠ [] →
      tokens (String.ofList (front ++ (gap ++ rest)))
        = tokens (String.ofList (front ++ (comment ++ rest)))) ∧
    ∀ front written gap rest, Stands (front ++ (written ++ rest)) (written ++ rest) →
      Spelled rest written → ClosedGap gap →
      tokens (String.ofList (front ++ (written ++ (gap ++ rest))))
        = tokens (String.ofList (front ++ (written ++ rest))) := by
  refine ⟨fun first second h names circuit => readOnto_of_tokens_eq h,
    fun front comment gap rest hplace hcomment hgap hne => ?_,
    fun front written gap rest hplace hspelled hgap => ?_⟩
  · rw [tokens_ofList, tokens_ofList]
    exact tokensOf_replace hplace hcomment hgap hne
  · rw [tokens_ofList, tokens_ofList]
    exact tokensOf_insert hplace hspelled hgap

/-- In `A#x#.%Q` and, on the next line, `QBAR`, the comment between the signs is replaced by a blank, and a
comment that has a sign and a semicolon in it is put behind the dot. -/
theorem layout_irrelevant_qbar :
    let rest := ['%', 'Q', '\n', 'Q', 'B', 'A', 'R']
    let text := String.ofList (['A'] ++ (['#', 'x', '#'] ++ (['.'] ++ rest)))
    let replaced := String.ofList (['A'] ++ ([' '] ++ (['.'] ++ rest)))
    let inserted := String.ofList (['A', ' '] ++ (['.'] ++ (['%', '#', ';', '\n'] ++ rest)))
    tokens replaced = tokens text ∧ tokens inserted = tokens replaced ∧
      (read inserted).names = (read text).names ∧ (read inserted).circuit = (read text).circuit ∧
      List.Forall₂ Alike (read inserted).diagnostics (read text).diagnostics := by
  intro rest text replaced inserted
  obtain ⟨hread, hreplace, hinsert⟩ := layout_irrelevant
  have hname : ∀ c others, ¬ c.isAlphanum → Spelled (c :: others) ['A'] := fun c others hc =>
    .word (by decide) (by simp) fun d hd => by cases hd; exact hc
  have hcomment : Stands (['A'] ++ (['#', 'x', '#'] ++ (['.'] ++ rest)))
      (['#', 'x', '#'] ++ (['.'] ++ rest)) :=
    .symbol .start (hname '#' _ (by decide))
  have hblank : ClosedGap [' '] := .blank (by decide) .nil
  have hdot : Stands (['A', ' '] ++ (['.'] ++ rest)) (['.'] ++ rest) := by
    have hgap : Stands (['A', ' '] ++ (['.'] ++ rest)) ([' '] ++ (['.'] ++ rest)) :=
      .symbol .start (hname ' ' _ (by decide))
    exact .gap hgap hblank
  have hline : ClosedGap ['%', '#', ';', '\n'] := .comment (.line ['#', ';'] (by decide)) .nil
  have hreplaced : tokens replaced = tokens text :=
    hreplace ['A'] _ _ _ hcomment (.block ['x'] (by decide)) hblank (List.cons_ne_nil _ _)
  have hinserted : tokens inserted = tokens replaced :=
    hinsert ['A', ' '] ['.'] _ _ hdot (.single (by decide) ⟨by decide, by decide, by decide⟩) hline
  obtain ⟨hnames, hcircuit, -, hdiagnostics⟩ :=
    hread inserted text (hinserted.trans hreplaced) .empty .empty
  exact ⟨hreplaced, hinserted, hnames, hcircuit, hdiagnostics⟩

end LogicCircuit.Definition
