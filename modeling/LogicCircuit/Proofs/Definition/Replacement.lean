import LogicCircuit.Proofs.Definition.Boundaries
import LogicCircuit.Proofs.Definition.Origins
import LogicCircuit.Proofs.Definition.Strays

/-!
# Replacement — another symbol in place of `to` costs one error and one wire

A text that is read without errors still means nearly the same when the `to` of one of its connections is
mistaken for another symbol: that statement fails, recovery stops behind its semicolon, and all the other
statements are read as before. No other statement needs the wire, which only takes an input.

* **`Scope.AcceptsAll.unwired`** — with one wire less, the same statements are accepted.
* **`connect_misses`** — the statement fails where `to` is missed. A full stop in its place may be read as a
  part of the output, and fails there just the same.
* **`statements_replaced`** — the run over all statements.
* **`exists_place`**, **`tokensOf_replaced`** — from characters to tokens: where a word stands is a place, and
  it is the neighbour of gaps, so another symbol there changes no other one.
* **`toWord_replaced`** — both together.
-/

namespace LogicCircuit.Definition

open Text (byteLength byteLength_append)

variable {scope after : Scope} {table : NameTable} {input left behind : List Symbol} {symbol : Symbol}

/-! ## One wire less -/

namespace Scope

variable {earlier later : List (Output × Pin)} {wire : Output × Pin}

/-- A statement that is accepted is accepted without some wire, and both lead to the same wires behind it. -/
theorem Accepts.unwired {statement : Statement} (h : scope.Accepts statement after)
    (hwires : scope.wires = earlier ++ wire :: later) : ∃ more,
      after.wires = earlier ++ wire :: (later ++ more) ∧
      ({ scope with wires := earlier ++ later } : Scope).Accepts statement
        { after with wires := earlier ++ (later ++ more) } := by
  cases h with
  | define hbody hnodup hnew =>
    refine ⟨[], ?_, ?_⟩
    · rw [List.append_nil]
      exact hwires
    · rw [List.append_nil]
      exact .define hbody hnodup hnew
  | @connect source target kind port hsource htarget hport hfree =>
    -- an input that no wire ends at is free with fewer wires as well
    have hfewer : ∀ other ∈ earlier ++ later, other ∈ scope.wires := by
      rw [hwires]
      exact ((List.sublist_cons_self wire later).append_left earlier).subset
    refine ⟨[(source, ⟨target.device, port⟩)], ?_, ?_⟩
    · show scope.wires ++ _ = _
      rw [hwires, List.append_assoc, List.cons_append]
    · rw [← List.append_assoc]
      exact .connect hsource htarget hport fun other hother => hfree other (hfewer other hother)
  | monitor houtputs hnodup hnew =>
    refine ⟨[], ?_, ?_⟩
    · rw [List.append_nil]
      exact hwires
    · rw [List.append_nil]
      exact .monitor houtputs hnodup hnew

/-- So are all statements of a program. -/
theorem AcceptsAll.unwired {program : List Statement} (h : scope.AcceptsAll program after)
    (hwires : scope.wires = earlier ++ wire :: later) : ∃ more,
      after.wires = earlier ++ wire :: (later ++ more) ∧
      ({ scope with wires := earlier ++ later } : Scope).AcceptsAll program
        { after with wires := earlier ++ (later ++ more) } := by
  induction h generalizing later with
  | nil scope =>
    refine ⟨[], ?_, ?_⟩
    · rw [List.append_nil, hwires]
    · rw [List.append_nil]
      exact .nil _
  | cons hfirst _ ih =>
    -- wires are only added behind, so the one that is left out stays where it is
    obtain ⟨more, hmiddle, haccepts⟩ := hfirst.unwired hwires
    obtain ⟨more', hafter, hothers⟩ := ih hmiddle
    rw [List.append_assoc] at hafter hothers
    exact ⟨more ++ more', hafter, .cons haccepts hothers⟩

end Scope

/-! ## A connection without its word -/

/-- **Where `to` is missed**, the connection fails, and nothing is wired. -/
theorem connect_misses {source : Output} (hlegal : scope.Legal) (hknown : scope.KnownTo table)
    (hinput : Known table input) (houtput : scope.HasOutput source)
    (hspell : Reads input source.spell (symbol :: behind)) (hsymbol : symbol.token ≠ .keyword .toWord) :
    ∃ failure, Raised failure ∧ failure.rest = symbol :: behind ∧
      connect table (scope.network table) input = (scope.network table, .error failure) := by
  have hdistinct := Scope.distinct_network hlegal hknown
  have hmem := (Scope.ref_mem_outputs_network_iff hlegal hknown).2 houtput
  suffices hwire : ∃ failure, Raised failure ∧ failure.rest = symbol :: behind ∧
      readWire (scope.network table) input = .error failure by
    -- a wire that cannot be read is not drawn
    obtain ⟨failure, hraised, hrest, hfailed⟩ := hwire
    refine ⟨failure, hraised, hrest, ?_⟩
    rw [connect, hfailed]
  by_cases hdot : source.port = .main ∧ AtDot (symbol :: behind)
  · -- the full stop is taken for the one in front of a port
    obtain ⟨hmain, hdot⟩ := hdot
    obtain ⟨offset, hcons⟩ := reads_fullStop.1 hdot
    obtain ⟨device, hdevice, hport⟩ := (ref_mem_outputs_iff hdistinct).1 hmem
    have hkind : device.kind ≠ .dtype := fun h => hport.2 h hmain
    rw [Output.spell, hmain] at hspell
    have hread : Mistake.isRead .unexpectedDot := rfl
    refine ⟨_, .mistake hread (symbol :: behind), rfl, ?_⟩
    apply bind_eq_error
    rw [readOutput, deviceAt_of_reads hinput hdevice hspell]
    dsimp only
    rw [← reads_tail hspell, hcons]
    simp only [hkind, if_false]
  · have hleads : source.Leads input (symbol :: behind) :=
      ⟨hspell, fun hmain hatDot => hdot ⟨hmain, hatDot⟩⟩
    have hread := readOutput_of_leads hdistinct hinput hleads hmem
    refine ⟨_, .wanted (.keyword .toWord) (symbol :: behind), Failure.rest_wanted .., ?_⟩
    rw [readWire, bind_of_eq_ok hread]
    apply bind_eq_error
    have hword : ¬ atKeyword .toWord (symbol :: behind) := by
      intro hat
      exact hsymbol (Symbol.isKeyword_iff.1 hat)
    rw [readKeyword, if_neg hword]

/-- **Recovery** from a failure at a symbol that may be passed over, up to the semicolon. -/
theorem resume_of_raised {failure : Failure} {offset : Nat} (hraised : Raised failure)
    (hrest : failure.rest = symbol :: behind) (hsemicolon : symbol.kind ≠ .semicolon)
    (hresumes : symbol.resumes = false) (hpasses : Passes behind (⟨.semicolon, offset⟩ :: left)) :
    resume (.error failure) = ([⟨failure.problem, some failure.place⟩], left) := by
  obtain ⟨passed, hplain, hcut⟩ := cut_of_passes hpasses
  have hplace : failure.place = .atOffset symbol.offset := by
    rw [hraised.place_eq, hrest]
    rfl
  have hsegment : cut failure.rest = (symbol :: (passed ++ [⟨.semicolon, offset⟩]), left) := by
    rw [hrest, cut, if_neg hsemicolon, hresumes, hcut]
    rfl
  -- only the symbol that is blamed can be stray
  have hstrays : strays (symbol :: (passed ++ [⟨.semicolon, offset⟩])) = strays [symbol] := by
    rw [← List.singleton_append, strays_append, strays_append, strays_of_plain hplain]
    exact List.append_nil _
  have hnone : ((strays [symbol]).filter fun finding => finding.place ≠ some failure.place) = [] := by
    rw [List.filter_eq_nil_iff]
    intro finding hmem
    obtain ⟨other, hother, -, hat, -⟩ := exists_of_mem_strays hmem
    rw [List.mem_singleton.1 hother] at hat
    simp [hat, hplace]
  rw [resume, recover_eq, hsegment, ← strays, hstrays, hnone]

/-! ## All statements -/

/-- A token that is no `to`, and that recovery passes over. -/
def Token.Misplaced (token : Token) : Prop :=
  token ≠ .semicolon ∧ ∀ word, token = .keyword word → word.startsStatement = false ∧ word ≠ .toWord

/-- Recovery passes over such a symbol, and it is not the word. -/
theorem Token.Misplaced.skipped (h : symbol.token.Misplaced) : symbol.kind ≠ .semicolon ∧
    symbol.resumes = false ∧ symbol.token ≠ .keyword .toWord := by
  obtain ⟨hsemicolon, hword⟩ := h
  refine ⟨?_, ?_, fun htoken => (hword _ htoken).2 rfl⟩
  · intro hkind
    apply hsemicolon
    rw [Symbol.token, hkind, SymbolKind.token]
  · obtain ⟨kind, offset⟩ := symbol
    cases kind with
    | keyword word id => exact (hword word rfl).1
    | _ => rfl

/-- Whether readers may pass over the symbol of a token. -/
def Token.plain : Token → Bool
  | .fullStop | .number _ | .name _ => true
  | .keyword word => !word.startsStatement
  | .semicolon | .invalid _ => false

theorem Token.plain_token (symbol : Symbol) : symbol.token.plain = symbol.plain := by
  obtain ⟨kind, offset⟩ := symbol
  cases kind <;> rfl

/-- Readers may pass over tokens that are all plain. -/
theorem passes_of_reads {tokens : List Token} (h : Reads input tokens left)
    (hplain : ∀ token ∈ tokens, token.plain) : Passes input left := by
  obtain ⟨front, rfl, rfl⟩ := h
  refine ⟨front, fun symbol hsymbol => ?_, rfl⟩
  rw [← Token.plain_token]
  exact hplain symbol.token (List.mem_map_of_mem hsymbol)

/-- Readers may pass over the input of a connection. -/
theorem Input.plain_spell (target : Input) : ∀ token ∈ target.spell, token.plain := by
  obtain ⟨device, port⟩ := target
  cases port <;> simp [Input.spell, PortName.token, Token.plain, Keyword.startsStatement]

/-- **One statement** with another token in place of its `to`. One thing is found, nothing is wired, and
reading goes on behind the statement. -/
theorem statements_misses {source : Output} {target : Input} {token : Token} (hlegal : scope.Legal)
    (hknown : scope.KnownTo table) (hinput : Known table input) (houtput : scope.HasOutput source)
    (htoken : token.Misplaced)
    (hreads : Reads input
      (.keyword .connect :: source.spell ++ token :: target.spell ++ [.semicolon]) left) :
    ∃ finding, statements table (scope.circuit table) input =
      ((statements table (scope.circuit table) left).1,
        finding :: (statements table (scope.circuit table) left).2) := by
  rw [List.append_assoc, List.cons_append, List.cons_append] at hreads
  obtain ⟨rest, hconnect, hwire⟩ := reads_cons.1 hreads
  obtain ⟨id, offset, rfl⟩ := reads_keyword.1 hconnect
  obtain ⟨middle, hsource, hbehind⟩ := reads_append.1 hwire
  obtain ⟨behind, hsymbol, htargetClosed⟩ := reads_cons.1 hbehind
  obtain ⟨symbol, rfl, rfl⟩ := reads_singleton.1 hsymbol
  obtain ⟨closing, htarget, hclosing⟩ := reads_append.1 htargetClosed
  obtain ⟨⟨kind, closed⟩, rfl, hclosed⟩ := reads_singleton.1 hclosing
  obtain rfl : kind = .semicolon := by
    cases kind with
    | semicolon => rfl
    | _ => cases hclosed
  obtain ⟨hsemicolon, hresumes, hword⟩ := htoken.skipped
  obtain ⟨failure, hraised, hunread, hfailed⟩ :=
    connect_misses hlegal hknown (hinput.of_reads hconnect) houtput hsource hword
  have hstatement : statement table (scope.circuit table) ⟨.keyword .connect id, offset⟩ rest
      = (scope.circuit table, .error failure) := by
    show (Circuit.mk (connect table (scope.network table) rest).1 _,
      (connect table (scope.network table) rest).2) = _
    rw [hfailed]
    rfl
  -- the unread symbol is passed over by recovery, and so is the input behind it
  have hresume := resume_of_raised hraised hunread hsemicolon hresumes
    (passes_of_reads htarget target.plain_spell)
  have hend : ¬ (⟨.keyword .connect id, offset⟩ : Symbol).isKeyword .endWord := Bool.false_ne_true
  refine ⟨⟨failure.problem, some failure.place⟩, ?_⟩
  rw [statements_cons hend, hstatement]
  dsimp only
  rw [hresume]
  rfl

/-- **The run over all statements**, one of which has another token in place of its `to`. It finds one
thing and leaves the circuit without the one wire. -/
theorem statements_replaced {before program : List Statement} {source : Output} {target : Input}
    {token : Token} (haccepts : scope.AcceptsAll (before ++ .connect source target :: program) after)
    (hlegal : scope.Legal) (hknown : scope.KnownTo table) (hinput : Known table input)
    (htoken : token.Misplaced)
    (hreads : Reads input (before.flatMap Statement.spell ++
      ((.keyword .connect :: source.spell ++ token :: target.spell ++ [.semicolon]) ++
        (program.flatMap Statement.spell ++ [.keyword .endWord]))) left) :
    ∃ earlier later kind port finding, after.wires = earlier ++ (source, ⟨target.device, port⟩) :: later ∧
      (target.device, kind) ∈ after.devices ∧ target.port.Means kind port ∧
      let unwired : Scope := { after with wires := earlier ++ later }
      unwired.Legal ∧ unwired.KnownTo table ∧
        statements table (scope.circuit table) input = (unwired.circuit table, [finding]) := by
  obtain ⟨middle, hbefore, hrest⟩ := Scope.acceptsAll_append.1 haccepts
  have hmiddle := hbefore.legal hlegal
  have hmiddleKnown := hbefore.knownTo hknown hinput hreads
  obtain ⟨rest, hspell, hreads'⟩ := reads_append.1 hreads
  obtain ⟨rest', hconnection, hprogram⟩ := reads_append.1 hreads'
  have hrestKnown := hinput.of_reads hspell
  have hrestKnown' := hrestKnown.of_reads hconnection
  cases hrest with
  | cons hfirst hothers =>
    cases hfirst with
    | @connect source target kind port houtput hdevice hport hfree =>
      -- the statements behind it do not need the wire
      have hwired : (middle.wire source ⟨target.device, port⟩).wires
          = middle.wires ++ (source, ⟨target.device, port⟩) :: [] := rfl
      obtain ⟨more, hwires, hunwired⟩ := hothers.unwired hwired
      rw [List.append_nil] at hunwired
      have hlater : middle.AcceptsAll program { after with wires := middle.wires ++ more } := hunwired
      obtain ⟨finding, hmisses⟩ :=
        statements_misses hmiddle hmiddleKnown hrestKnown houtput htoken hconnection
      refine ⟨middle.wires, more, kind, port, finding, hwires, hothers.devices_subset hdevice, hport,
        hlater.legal hmiddle, hlater.knownTo hmiddleKnown hrestKnown' hprogram, ?_⟩
      rw [statements_accepted hbefore hlegal hknown hinput hspell, hmisses,
        statements_complete hlater hmiddle hmiddleKnown hrestKnown' hprogram]

/-! ## The word among the tokens -/

/-- Only connections are spelled with `to`, and with one. -/
theorem Statement.exists_connect {statement : Statement} {front back : List Token}
    (h : statement.spell = front ++ .keyword .toWord :: back) :
    ∃ source target, statement = .connect source target ∧ front = .keyword .connect :: source.spell ∧
      back = target.spell ++ [.semicolon] := by
  have hmem : .keyword .toWord ∈ statement.spell := by
    rw [h]
    exact List.mem_append_right _ List.mem_cons_self
  -- outputs are made of names, dots and the words of their ports
  have houtput : ∀ output : Output, Token.keyword .toWord ∉ output.spell := by
    rintro ⟨device, port⟩
    cases port <;> simp [Output.spell]
  cases statement with
  | define first others body =>
    cases body with
    | gate op hop digits => cases op <;> simp [Statement.spell, Body.spell, gateWord] at hmem
    | _ => simp [Statement.spell, Body.spell, Stretch.spell] at hmem
  | monitor first others => simp [Statement.spell, houtput] at hmem
  | connect source target =>
    have hsource : Token.keyword .toWord ∉ Token.keyword .connect :: source.spell := by
      simp [houtput]
    have htarget : Token.keyword .toWord ∉ target.spell ++ [Token.semicolon] := by
      obtain ⟨device, port⟩ := target
      cases port <;> simp [Input.spell, PortName.token]
    have hspell : (Statement.connect source target).spell = (.keyword .connect :: source.spell)
        ++ .keyword .toWord :: (target.spell ++ [.semicolon]) := by simp [Statement.spell]
    rw [hspell, List.append_cons_inj_of_notMem hsource htarget] at h
    exact ⟨source, target, rfl, h.1.symm, h.2.2.symm⟩

/-- In a program it stands in one of the connections. -/
theorem exists_connect_of_spell {program : List Statement} {front back : List Token}
    (h : program.flatMap Statement.spell = front ++ .keyword .toWord :: back) :
    ∃ before source target others, program = before ++ .connect source target :: others ∧
      front = before.flatMap Statement.spell ++ .keyword .connect :: source.spell ∧
      back = target.spell ++ .semicolon :: others.flatMap Statement.spell := by
  induction program generalizing front with
  | nil => exact absurd h (by simp)
  | cons statement program ih =>
    rw [List.flatMap_cons, List.append_eq_append_iff] at h
    -- the word is in a later statement, or in this one
    rcases h with ⟨more, rfl, hlater⟩ | ⟨more, hhere, hback⟩
    · obtain ⟨before, source, target, others, rfl, rfl, rfl⟩ := ih hlater
      refine ⟨statement :: before, source, target, others, rfl, ?_, rfl⟩
      rw [List.flatMap_cons, List.append_assoc]
    · cases more with
      | nil =>
        -- a statement does not begin with the word
        obtain ⟨before, source, target, others, -, hnil, -⟩ := @ih [] hback.symm
        simp at hnil
      | cons token more =>
        rw [List.cons_append, List.cons.injEq] at hback
        obtain ⟨rfl, rfl⟩ := hback
        obtain ⟨source, target, rfl, rfl, rfl⟩ := statement.exists_connect hhere
        refine ⟨[], source, target, program, rfl, rfl, ?_⟩
        rw [List.append_assoc]
        rfl

/-! ## The word among the characters -/

/-- A symbol that stands somewhere is spelled in front of what follows. -/
theorem SymbolKind.StandsBetween.spelled {front back : List Char} {kind : SymbolKind}
    (h : kind.StandsBetween front back) : Spelled back kind.written := by
  have hword : ∀ {written : List Char}, Maximal IsWord front written back → Spelled back written := by
    intro written hmaximal
    obtain ⟨⟨c, hc, hletter⟩, hall⟩ := hmaximal.1
    obtain ⟨body, rfl⟩ := List.head?_eq_some_iff.1 hc
    exact .word hletter (fun d hd => hall d (List.mem_cons_of_mem c hd)) hmaximal.word_end
  cases kind with
  | fullStop => exact .single (by decide) ⟨by decide, by decide, by decide⟩
  | semicolon => exact .single (by decide) ⟨by decide, by decide, by decide⟩
  | keyword word id => exact hword h
  | name text id => exact hword h.1
  | number digits id =>
    obtain ⟨hne, hall⟩ := h.1
    obtain ⟨c, body, hcons⟩ := List.exists_cons_of_ne_nil hne
    rw [SymbolKind.written, hcons]
    rw [hcons] at hall
    obtain ⟨hc, hbody⟩ := List.forall_mem_cons.1 hall
    exact .number hc hbody h.number_end
  | invalid c => exact .single h.2.2.1 h.2.2.2

/-- A symbol among the characters of a text, and among the tokens of a cursor in it: what is in front of the
symbol and behind it, and which tokens come earlier. -/
structure Placed (text : List Char) (tokens : List Token) (symbol : Symbol) (before back : List Char)
    (earlier : List Token) : Prop where
  split : text = before ++ (symbol.kind.written ++ back)
  offset : byteLength before = symbol.offset
  stands : Stands text (symbol.kind.written ++ back)
  spelled : Spelled back symbol.kind.written
  among : tokens = earlier ++ tokensOf (symbol.kind.written ++ back)
  before_end : .keyword .endWord ∉ earlier

/-- One more token is read in front of a symbol. -/
theorem Placed.cons {text before back : List Char} {tokens earlier : List Token} {token : Token}
    (h : Placed text tokens symbol before back earlier) (htoken : token ≠ .keyword .endWord) :
    Placed text (token :: tokens) symbol before back (token :: earlier) := by
  refine ⟨h.split, h.offset, h.stands, h.spelled, ?_, ?_⟩
  · rw [h.among, List.cons_append]
  · rw [List.mem_cons, not_or]
    exact ⟨htoken.symm, h.before_end⟩

/-- **Symbols that are read stand at places** between symbols, by induction on the symbols in front of them.
None of these is an `END`, since it would be the last that is read. -/
theorem exists_place {text front : List Char} {scanner : Scanner} {names : NameTable}
    (h : Scanned text scanner front) (hstands : Stands text scanner.cursor.rest)
    (hmem : symbol ∈ (scanner.throughEnd names).1) :
    ∃ before back earlier, Placed text scanner.cursor.tokens symbol before back earlier := by
  rw [Scanner.throughEnd] at hmem
  split at hmem
  · cases hmem
  · next first after names' hnext =>
    obtain ⟨gap, rest, more, hfinds⟩ := h.finds hnext
    have hspelled := hfinds.stands.spelled
    rw [hfinds.split] at hstands
    have hfirst : Placed text scanner.cursor.tokens first (front ++ gap) rest [] := by
      -- the text in front of the gap and the symbol is what has been read
      refine ⟨?_, hfinds.offset, .gap hstands hfinds.closed, hspelled, ?_, List.not_mem_nil⟩
      · rw [List.append_assoc, ← hfinds.split, h.split]
      · have htokens : scanner.cursor.tokens = tokensOf scanner.cursor.rest := tokens_eq_of_afterGap_eq rfl
        rw [htokens, hfinds.split, tokensOf_gap hfinds.closed, List.nil_append]
    split at hmem
    · rw [List.mem_singleton.1 hmem]
      exact ⟨_, rest, [], hfirst⟩
    · next hend =>
      have hshorter := Scanner.length_next_lt hnext
      rcases List.mem_cons.1 hmem with rfl | hlater
      · exact ⟨_, rest, [], hfirst⟩
      · have hbehind : Stands text after.cursor.rest := by
          rw [hfinds.cursor]
          exact .symbol hfirst.stands hspelled
        obtain ⟨before, back, earlier, hplaced⟩ := exists_place (h.of_finds hfinds) hbehind hlater
        rw [(next_eq_some hnext).1]
        exact ⟨before, back, _, hplaced.cons fun htoken => hend (Symbol.isKeyword_iff.2 htoken)⟩
  termination_by scanner.cursor.rest.length

/-- In front of what begins like a word or a number is a gap, or a number, or a character that is a symbol
by itself. So the tokens in front stay as they are if the last one is no number, whatever follows. -/
theorem Stands.tokensOf_any {text rest : List Char} (h : Stands text rest)
    (hrun : ∃ c ∈ rest.head?, c.isAlphanum) :
    ∃ front tokens, text = front ++ rest ∧ tokensOf text = tokens ++ tokensOf rest ∧
      ((∃ digits, tokens.getLast? = some (.number digits)) ∨
        ∀ rest', tokensOf (front ++ rest') = tokens ++ tokensOf rest') := by
  induction h with
  -- with nothing in front there is nothing to change
  | start => exact ⟨[], [], rfl, rfl, .inr fun _ => rfl⟩
  | @gap gap rest hstands hgap ih =>
    by_cases hne : gap = []
    · subst hne
      exact ih hrun
    · obtain ⟨front, tokens, rfl, htokens⟩ := hstands.exists_tokens
      have hany : ∀ rest', tokensOf (front ++ gap ++ rest') = tokens ++ tokensOf rest' := by
        intro rest'
        have hsame : Unextended (gap ++ rest) (gap ++ rest') := by
          obtain ⟨c, others, rfl⟩ := List.exists_cons_of_ne_nil hne
          exact .inl rfl
        rw [List.append_assoc, htokens _ hsame, tokensOf_gap hgap]
      refine ⟨front ++ gap, tokens, (List.append_assoc ..).symm, ?_, .inr hany⟩
      rw [← List.append_assoc, hany]
  | @symbol written rest hstands hspelled ih =>
    obtain ⟨front, tokens, rfl, htokens⟩ := hstands.exists_tokens
    cases hspelled with
    | word hc hbody hend =>
      -- what begins like a word would be a part of it
      obtain ⟨c, hmem, halphanum⟩ := hrun
      exact absurd halphanum (hend c hmem)
    | @number c body hc hbody hend =>
      have hsolid := solid_of_isAlphanum (isAlphanum_of_isDigit hc)
      have hnumber := tokensOf_eq_cons (afterGap_of_solid hsolid (body ++ rest))
        (lexemeOf_number hc hbody hend)
      refine ⟨front ++ c :: body, tokens ++ [.number (String.ofList (c :: body))],
        (List.append_assoc ..).symm, ?_, .inl ⟨_, List.getLast?_concat⟩⟩
      rw [htokens _ (.inl rfl), List.cons_append, hnumber, List.append_assoc]
      rfl
    | @single c hc hsolid =>
      obtain ⟨lexeme, hlexeme⟩ := lexemeOf_single hc
      have hany : ∀ rest', tokensOf (front ++ [c] ++ rest')
          = tokens ++ [Token.ofLexeme lexeme] ++ tokensOf rest' := by
        intro rest'
        have hsame : Unextended ([c] ++ rest) (c :: rest') := .inl rfl
        rw [List.append_assoc, List.singleton_append, htokens _ hsame,
          tokensOf_eq_cons (afterGap_of_solid hsolid rest') (hlexeme rest'), List.append_assoc]
        rfl
      refine ⟨front ++ [c], tokens ++ [Token.ofLexeme lexeme], (List.append_assoc ..).symm, ?_, .inr hany⟩
      rw [← List.append_assoc, hany]

/-- What is spelled by itself is one token in front of what does not extend it, and the token tells how a
semicolon or a keyword was written. -/
theorem exists_token {written rest : List Char} (h : Spelled [] written)
    (hrest : ∀ d ∈ rest.head?, ¬ d.isAlphanum) :
    ∃ token, tokensOf (written ++ rest) = token :: tokensOf rest ∧
      (token = .semicolon → written = [';']) ∧
      ∀ word, token = .keyword word → written = word.spelling.toList := by
  obtain ⟨lexeme, hlexeme⟩ := lexemeOf_spelled h
  obtain ⟨hgap, hread⟩ := hlexeme rest (.inr hrest)
  have hwritten : written = lexeme.written := by
    have hne : written ≠ [] := by
      rintro rfl
      cases h
    obtain ⟨c, others, rfl⟩ := List.exists_cons_of_ne_nil hne
    obtain ⟨found, next, hfound, hsplit, -⟩ := @Cursor.lexeme?_spec ⟨c :: (others ++ rest), 0⟩ c _ rfl
    rw [List.cons_append, lexemeOf?, hfound] at hread
    cases hread
    exact List.append_cancel_right hsplit
  refine ⟨Token.ofLexeme lexeme, tokensOf_eq_cons hgap hread, ?_, ?_⟩
  · intro hsemicolon
    cases lexeme with
    | semicolon => exact hwritten
    | word text =>
      rw [Token.ofLexeme] at hsemicolon
      split at hsemicolon <;> cases hsemicolon
    | _ => cases hsemicolon
  · intro word hkeyword
    cases lexeme with
    | word text =>
      rw [Token.ofLexeme] at hkeyword
      split at hkeyword
      · next hfound =>
        cases hkeyword
        rw [hwritten, Lexeme.written, Keyword.eq_spelling hfound]
      · cases hkeyword
    | _ => cases hkeyword

/-- The word is one token in front of what does not extend it. -/
theorem tokensOf_toWord {back : List Char} (h : ∀ d ∈ back.head?, ¬ d.isAlphanum) :
    tokensOf (Keyword.toWord.spelling.toList ++ back) = .keyword .toWord :: tokensOf back := by
  have hbody : ∀ d ∈ ['o'], d.isAlphanum := List.forall_mem_singleton.2 (by decide)
  have hword := @lexemeOf_word 't' ['o'] back (by decide) hbody h
  have hsolid : Solid 't' := solid_of_isAlphanum (by decide)
  exact tokensOf_eq_cons (afterGap_of_solid hsolid _) hword

/-- **Another symbol instead of the word** is one other token, and all the others stay as they are. -/
theorem tokensOf_replaced {front back written : List Char} {earlier : List Token}
    (hstands : Stands (front ++ (Keyword.toWord.spelling.toList ++ back))
      (Keyword.toWord.spelling.toList ++ back))
    (hback : ∀ d ∈ back.head?, ¬ d.isAlphanum)
    (htokens : tokensOf (front ++ (Keyword.toWord.spelling.toList ++ back))
      = earlier ++ .keyword .toWord :: tokensOf back)
    (hlast : ∀ digits, earlier.getLast? ≠ some (.number digits)) (hwritten : Spelled [] written)
    (hother : String.ofList written ∉ [";", "define", "connect", "monitor", "END", "to"]) :
    tokensOf front = earlier ∧ ∃ token : Token, token.Misplaced ∧
      tokensOf (front ++ (written ++ back)) = earlier ++ token :: tokensOf back := by
  obtain ⟨front', tokens, hsplit, hsame, hany⟩ := hstands.tokensOf_any ⟨'t', rfl, by decide⟩
  obtain rfl := List.append_cancel_right hsplit
  obtain rfl : earlier = tokens := by
    rw [htokens, tokensOf_toWord hback] at hsame
    exact List.append_cancel_right hsame
  -- an output in front of the word does not end in a number
  have hany' := hany.resolve_left fun ⟨digits, hdigits⟩ => hlast digits hdigits
  have hfront := hany' []
  rw [List.append_nil] at hfront
  have hnone : tokensOf [] = [] := Cursor.tokens_eq_nil rfl
  obtain ⟨token, htoken, hsemicolon, hkeyword⟩ := exists_token hwritten hback
  refine ⟨hfront.trans (by rw [hnone, List.append_nil]), token, ⟨?_, ?_⟩, ?_⟩
  · intro heq
    rw [hsemicolon heq] at hother
    exact hother (by decide)
  · -- the words that are excluded are those that recovery stops at
    intro word heq
    rw [hkeyword word heq] at hother
    cases word <;> first | exact ⟨rfl, by decide⟩ | exact absurd (by decide) hother
  · rw [hany', htoken]

/-! ## Readings -/

/-- What a reading has built is the circuit of a scope, under the handles of its own table. -/
structure Reading.Holds (reading : Reading) (scope : Scope) : Prop where
  circuit : reading.circuit = scope.circuit reading.names
  devices : (reading.circuit.network.devices.map fun device => (device.name, device.kind)) = scope.devices
  named : ∀ device ∈ reading.circuit.network.devices, reading.names.text? device.id = some device.name
  connections : ∀ connection, connection ∈ reading.circuit.network.connections ↔
    connection ∈ scope.wires.map (Scope.connection reading.names)
  points : reading.circuit.monitors.points = scope.watched.map (Output.ref reading.names)

/-- A circuit of a scope holds it. -/
theorem Reading.holds {reading : Reading} (hlegal : scope.Legal) (hknown : scope.KnownTo reading.names)
    (h : reading.circuit = scope.circuit reading.names) : reading.Holds scope := by
  refine ⟨h, ?_, ?_, ?_, ?_⟩
  · rw [h]
    exact Scope.devices_network
  · rw [h]
    exact fun device => Scope.text?_id_network hknown
  · rw [h]
    exact fun connection => Scope.mem_connections_network hlegal
  · rw [h]
    exact Scope.points_monitors

/-- A text that is read without errors has its circuit from the scope that it declares. -/
theorem exists_declares {text : String} (h : (read text).isOk = true) :
    ∃ scope, Declares text scope ∧ scope.Legal ∧ (read text).Holds scope := by
  have hcount : (read text).errorCount = 0 := of_decide_eq_true h
  rw [read, errorCount_readOnto, List.length_eq_zero_iff] at hcount
  have hinput : Known (read text).names (symbolsOf .empty text) := known_symbolsOf .empty .empty text
  obtain ⟨program, scope, left, haccepts, hreads, hcircuit⟩ := statements_sound Scope.legal_empty
    Scope.knownTo_empty hinput (Prod.ext rfl hcount)
  have htokens := map_token_symbolsOf .empty text
  rw [hreads.map_token] at htokens
  obtain ⟨hend, hspell⟩ := (throughEndWord_eq_iff (endWord_notMem_program program)).1 ⟨_, htokens.symm⟩
  have hlegal := haccepts.legal Scope.legal_empty
  exact ⟨scope, ⟨hend, program, haccepts, hspell⟩, hlegal,
    Reading.holds hlegal (haccepts.knownTo Scope.knownTo_empty hinput hreads) hcircuit⟩

/-! ## One text and the other -/

/-- An output does not end in a number. -/
theorem Output.getLast?_spell (output : Output) (front : List Token) (digits : String) :
    (front ++ output.spell).getLast? ≠ some (.number digits) := by
  obtain ⟨device, port⟩ := output
  cases port <;> simp [Output.spell]

/-- **The word in a text that declares a scope** is the one of a connection. -/
theorem Declares.exists_connect {text : String} {earlier rest : List Token} (h : Declares text scope)
    (htokens : tokens text = earlier ++ .keyword .toWord :: rest) (hearlier : .keyword .endWord ∉ earlier) :
    ∃ before source target others, Scope.empty.AcceptsAll (before ++ .connect source target :: others) scope ∧
      earlier = before.flatMap Statement.spell ++ .keyword .connect :: source.spell ∧
      .keyword .endWord ∈ rest ∧ rest.takeWhile (· ≠ .keyword .endWord) =
        target.spell ++ .semicolon :: others.flatMap Statement.spell := by
  obtain ⟨hend, program, haccepts, hspell⟩ := h
  -- the word that ends the text is behind the connection
  have hrest : .keyword .endWord ∈ rest := by
    rw [htokens, List.mem_append, List.mem_cons] at hend
    exact (hend.resolve_left hearlier).resolve_left (by decide)
  rw [htokens, takeWhile_append_of_notMem hearlier, List.takeWhile_cons_of_pos (by decide)] at hspell
  obtain ⟨before, source, target, others, rfl, hbefore, hothers⟩ := exists_connect_of_spell hspell.symm
  exact ⟨before, source, target, others, haccepts, hbefore, hrest, hothers⟩

/-- **The changed text** is read with one error, and all its circuit lacks is the wire of the connection. -/
theorem read_replaced {text : String} {before others : List Statement} {source : Output} {target : Input}
    {token : Token} {rest : List Token}
    (haccepts : Scope.empty.AcceptsAll (before ++ .connect source target :: others) scope)
    (htokens : tokens text =
      (before.flatMap Statement.spell ++ .keyword .connect :: source.spell) ++ token :: rest)
    (hearlier : .keyword .endWord ∉ before.flatMap Statement.spell ++ .keyword .connect :: source.spell)
    (htoken : token.Misplaced) (hend : .keyword .endWord ∈ rest)
    (hrest : rest.takeWhile (· ≠ .keyword .endWord) =
      target.spell ++ .semicolon :: others.flatMap Statement.spell) :
    ∃ earlier later kind port, scope.wires = earlier ++ (source, ⟨target.device, port⟩) :: later ∧
      (target.device, kind) ∈ scope.devices ∧ target.port.Means kind port ∧
      (read text).Holds { scope with wires := earlier ++ later } ∧ (read text).errorCount = 1 := by
  have hinput : Known (read text).names (symbolsOf .empty text) := known_symbolsOf .empty .empty text
  have hsymbols := map_token_symbolsOf .empty text
  have hplain : token ≠ .keyword .endWord := fun heq => absurd (htoken.2 _ heq).1 (by decide)
  have hspell : (symbolsOf .empty text).map Symbol.token = (before.flatMap Statement.spell ++
      ((.keyword .connect :: source.spell ++ token :: target.spell ++ [.semicolon]) ++
        (others.flatMap Statement.spell ++ [.keyword .endWord]))) ++ [] := by
    rw [hsymbols, htokens, throughEndWord_append hearlier, throughEndWord_cons hplain, throughEndWord,
      if_pos hend, hrest]
    simp only [List.append_assoc, List.cons_append, List.nil_append, List.append_nil]
  obtain ⟨left, hreads, -⟩ := reads_of_map_token hspell
  obtain ⟨earlier, later, kind, port, finding, hwires, hdevice, hport, hlegal, hknown, hstatements⟩ :=
    statements_replaced haccepts Scope.legal_empty Scope.knownTo_empty hinput htoken hreads
  refine ⟨earlier, later, kind, port, hwires, hdevice, hport, Reading.holds hlegal hknown ?_, ?_⟩
  · exact congrArg Prod.fst hstatements
  · rw [read, errorCount_readOnto]
    exact congrArg (fun result => result.2.length) hstatements

/-- **Another symbol in place of `to`**, in any connection of any text that is read without errors. The
symbol is a name, a number or a word, or one character that is none of them, but no semicolon and no word
that starts a statement. Then exactly one error is reported, and what has been built is the same but for the
one wire that the connection had made: the devices in their order, the connections and the points that are
monitored in their order. -/
theorem toWord_replaced (text : String) {front back written : List Char} {id : NameId}
    (hok : (read text).isOk = true)
    (htext : text.toList = front ++ (Keyword.toWord.spelling.toList ++ back))
    (hsymbol : ⟨.keyword .toWord id, byteLength front⟩ ∈ symbolsOf .empty text)
    (hwritten : Spelled [] written)
    (hother : String.ofList written ∉ [";", "define", "connect", "monitor", "END", "to"]) :
    let replaced := read (String.ofList (front ++ (written ++ back)))
    ∃ (scope : Scope) (before : List Statement) (source : Output) (target : Input) (others : List Token)
      (kind : DeviceKind) (port : InputPort) (earlier later : List (Output × Pin)),
      tokensOf front = before.flatMap Statement.spell ++ .keyword .connect :: source.spell ∧
      tokensOf back = target.spell ++ .semicolon :: others ∧
      (target.device, kind) ∈ scope.devices ∧ target.port.Means kind port ∧
      scope.wires = earlier ++ (source, ⟨target.device, port⟩) :: later ∧
      (source, ⟨target.device, port⟩) ∉ earlier ++ later ∧
      (read text).Holds scope ∧ replaced.Holds { scope with wires := earlier ++ later } ∧
      replaced.errorCount = 1 := by
  intro replaced
  obtain ⟨scope, hdeclares, hlegal, hholds⟩ := exists_declares hok
  obtain ⟨front', back', earlier, hsplit, hoffset, hstands, hspelled, htokens, hearlier⟩ :=
    exists_place (scanned_new text .empty) .start hsymbol
  -- the place of the symbol is the one that is given
  have hsame : front ++ (Keyword.toWord.spelling.toList ++ back) =
      front' ++ (Keyword.toWord.spelling.toList ++ back') := htext.symm.trans hsplit
  obtain rfl := eq_of_byteLength_eq hsame hoffset.symm
  obtain rfl := List.append_cancel_left (List.append_cancel_left hsame)
  -- the word ends where it stands, so nothing extends the symbol in its place either
  have hback : ∀ d ∈ back.head?, ¬ d.isAlphanum := by
    cases hspelled with
    | word _ _ hend => exact hend
    | number hdigit _ _ => exact absurd hdigit (by decide)
  rw [htext] at hstands
  change tokensOf text.toList = earlier ++ tokensOf (Keyword.toWord.spelling.toList ++ back) at htokens
  rw [tokensOf_toWord hback] at htokens
  obtain ⟨before, source, target, others, haccepts, rfl, hend, hrest⟩ :=
    hdeclares.exists_connect htokens hearlier
  have hlast := source.getLast?_spell (before.flatMap Statement.spell ++ [.keyword .connect])
  rw [List.append_assoc, List.singleton_append] at hlast
  rw [htext] at htokens
  obtain ⟨hfront, token, htoken, hreplaced⟩ :=
    tokensOf_replaced hstands hback htokens hlast hwritten hother
  rw [← tokens_ofList] at hreplaced
  obtain ⟨earlier, later, kind, port, hwires, hdevice, hport, hheld, hcount⟩ :=
    read_replaced haccepts hreplaced hearlier htoken hend hrest
  obtain ⟨more, hbehind⟩ : _ <+: tokensOf back := List.takeWhile_prefix (· ≠ .keyword .endWord)
  rw [hrest, List.append_assoc, List.cons_append] at hbehind
  -- no two wires end at one input, so there is no other like this one
  have hnew : (source, ⟨target.device, port⟩) ∉ earlier ++ later := by
    have hnodup := List.Nodup.of_map _ hlegal.nodup_pins
    rw [hwires, List.nodup_middle, List.nodup_cons] at hnodup
    exact hnodup.1
  exact ⟨scope, before, source, target, _, kind, port, earlier, later, hfront, hbehind.symm, hdevice, hport,
    hwires, hnew, hholds, hheld, hcount⟩

/-- A full stop in place of the word is taken for the one in front of a port, which a switch has not. It
costs one error, and neither device. -/
theorem toWord_replaced_fullStop :
    let text := "define S as SWITCH 1 state; define G as XOR; connect S to G.I1; monitor G; END"
    let replaced := read "define S as SWITCH 1 state; define G as XOR; connect S . G.I1; monitor G; END"
    (read text).isOk = true ∧
      ⟨.keyword .toWord ⟨20⟩, 55⟩ ∈ symbolsOf .empty text ∧
      replaced.errorCount = 1 ∧
      (replaced.circuit.network.devices.map fun device => (device.name, device.kind)) =
        (read text).circuit.network.devices.map fun device => (device.name, device.kind) := by
  intro text replaced
  have hok : (read text).isOk = true := by decide +kernel
  have hsymbol : ⟨.keyword .toWord ⟨20⟩, 55⟩ ∈ symbolsOf .empty text := by decide +kernel
  have hstop : Spelled [] ['.'] := .single (by decide) ⟨by decide, by decide, by decide⟩
  obtain ⟨_, _, _, _, _, _, _, _, _, -, -, -, -, -, -, hholds, hreplaced, hcount⟩ :=
    @toWord_replaced text "define S as SWITCH 1 state; define G as XOR; connect S ".toList
      " G.I1; monitor G; END".toList ['.'] ⟨20⟩ hok (by decide) hsymbol hstop (by decide)
  exact ⟨hok, hsymbol, hcount, hreplaced.devices.trans hholds.devices.symm⟩

end LogicCircuit.Definition
