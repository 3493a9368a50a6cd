import LogicCircuit.Proofs.Definition.Readers
import LogicCircuit.Definition.Statement

/-!
# Orderly readers — what is passed over, and what is blamed

Reading resumes from where a statement was left, and only the place of its failure tells which symbols
have been reported. Both are safe because every reader is `Orderly`:

* it passes over `plain` symbols only, so a semicolon, a word that starts a statement or a stray
  character is still unread when it stops, whether it succeeds or fails (`Passes`);
* it blames its first unread symbol or one that is no stray character (`Blames`). A stray character that
  is blamed is reported as such, but for one case: `Blames.hidden` is a stray character where the dot
  of a flip-flop's output is missed.

Being orderly is hereditary (`Orderly.hereditary`), so it goes over to every reader of the grammar.
`statement_orderly` is the result for whole statements.
-/

namespace LogicCircuit.Definition

/-! ## Symbols -/

/-- What there is to report about a symbol if it is a character that no lexeme has. -/
def Symbol.stray? (symbol : Symbol) : Option Finding :=
  match symbol.kind with
  | .invalid c => some ⟨.invalidCharacter c, some (.atOffset symbol.offset)⟩
  | _ => none

/-- A plain symbol is no stray character. -/
theorem Symbol.stray?_eq_none {symbol : Symbol} (hsymbol : symbol.plain) : symbol.stray? = none := by
  obtain ⟨kind, offset⟩ := symbol
  cases kind with
  | invalid c => cases hsymbol
  | _ => rfl

/-- What is reported of a symbol is the character that it is. -/
theorem Symbol.stray?_eq_some {symbol : Symbol} {finding : Finding}
    (h : symbol.stray? = some finding) : ∃ c, symbol.kind = .invalid c ∧
      finding = ⟨.invalidCharacter c, some (.atOffset symbol.offset)⟩ := by
  obtain ⟨kind, offset⟩ := symbol
  cases kind with
  | invalid c =>
    cases h
    exact ⟨c, rfl, rfl⟩
  | _ => cases h

/-! ## Passing over symbols -/

/-- What is left of the input has only plain symbols in front of it. -/
def Passes (input left : List Symbol) : Prop :=
  ∃ passed, (∀ symbol ∈ passed, symbol.plain) ∧ passed ++ left = input

namespace Passes

variable {symbol : Symbol} {input middle left : List Symbol}

theorem refl (input : List Symbol) : Passes input input :=
  ⟨[], by simp, rfl⟩

theorem trans (h : Passes input middle) (h' : Passes middle left) : Passes input left := by
  obtain ⟨passed, hplain, rfl⟩ := h
  obtain ⟨passed', hplain', rfl⟩ := h'
  exact ⟨passed ++ passed', List.forall_mem_append.2 ⟨hplain, hplain'⟩, List.append_assoc ..⟩

theorem cons (hsymbol : symbol.plain) (h : Passes input left) : Passes (symbol :: input) left := by
  obtain ⟨passed, hplain, rfl⟩ := h
  exact ⟨symbol :: passed, List.forall_mem_cons.2 ⟨hsymbol, hplain⟩, rfl⟩

/-- One symbol is passed over. -/
theorem tail (hsymbol : symbol.plain) : Passes (symbol :: left) left :=
  cons hsymbol (refl left)

theorem suffix (h : Passes input left) : left <:+ input := by
  obtain ⟨passed, -, rfl⟩ := h
  exact List.suffix_append passed left

end Passes

/-! ## Blaming symbols -/

/-- What a failure blames, while symbols are read. -/
inductive Blames (symbols : List Symbol) : Failure → Prop
  /-- A stray character is reported as what it is. -/
  | stray (c : Char) (offset : Nat) (rest : List Symbol) :
      Blames symbols ⟨.invalidCharacter c, .atOffset offset, ⟨.invalid c, offset⟩ :: rest⟩
  /-- A stray character stands where the dot of a flip-flop's output is missed. -/
  | hidden (name : String) (c : Char) (offset : Nat) (rest : List Symbol) :
      Blames symbols
        ⟨.mistake (.missingOutputPort name), .atOffset offset, ⟨.invalid c, offset⟩ :: rest⟩
  /-- The end of the text is blamed, where a symbol is missed. -/
  | textEnd (problem : Problem) (rest : List Symbol) (hproblem : problem.category ≠ .lexical) :
      Blames symbols ⟨problem, .textEnd, rest⟩
  /-- A symbol is blamed that is no stray character. -/
  | sound (problem : Problem) (symbol : Symbol) (rest : List Symbol)
      (hproblem : problem.category ≠ .lexical) (hmem : symbol ∈ symbols)
      (hsymbol : symbol.stray? = none) :
      Blames symbols ⟨problem, .atOffset symbol.offset, rest⟩

namespace Blames

variable {input symbols : List Symbol} {failure : Failure}

/-- What may be blamed in some symbols may be blamed in more. -/
theorem mono (h : Blames input failure) (hsubset : input ⊆ symbols) : Blames symbols failure := by
  cases h with
  | stray c offset rest => exact .stray c offset rest
  | hidden name c offset rest => exact .hidden name c offset rest
  | textEnd problem rest hproblem => exact .textEnd problem rest hproblem
  | sound problem symbol rest hproblem hmem hsymbol =>
    exact .sound problem symbol rest hproblem (hsubset hmem) hsymbol

/-- A symbol that is wanted is missed where another one stands, or at the end of the text. -/
theorem wanted (what : Wanted) (input : List Symbol) : Blames input (.wanted what input) := by
  cases input with
  | nil => exact .textEnd _ _ (by simp [Problem.category])
  | cons symbol rest =>
    obtain ⟨kind, offset⟩ := symbol
    cases kind with
    | invalid c => exact .stray c offset rest
    | _ => exact .sound _ _ _ (by simp [Problem.category]) List.mem_cons_self rfl

/-- A mistake is blamed on the symbol that it is found at. -/
theorem mistake (what : Mistake) {symbol : Symbol} {rest : List Symbol}
    (hsymbol : symbol.stray? = none) :
    Blames (symbol :: rest) (.mistake what (symbol :: rest)) :=
  .sound _ symbol _ (by simp [Problem.category]) List.mem_cons_self hsymbol

/-- The one mistake that is found at a symbol of which nothing is known. -/
theorem missingOutputPort (name : String) (input : List Symbol) :
    Blames input (.mistake (.missingOutputPort name) input) := by
  cases input with
  | nil => exact .textEnd _ _ (by simp [Problem.category])
  | cons symbol rest =>
    -- a stray character at this place is not reported as one
    cases hkind : symbol.stray? with
    | none => exact mistake _ hkind
    | some finding =>
      obtain ⟨kind, offset⟩ := symbol
      cases kind with
      | invalid c => exact .hidden name c offset rest
      | _ => cases hkind

end Blames

/-! ## Readers -/

/-- What an orderly reader makes of an input. -/
def Orderly {α : Type} (input : List Symbol) : Except Failure (α × List Symbol) → Prop
  | .ok (_, left) => Passes input left
  | .error failure => Passes input failure.rest ∧ Blames input failure

namespace Orderly

variable {α β : Type} {symbol : Symbol} {input inner : List Symbol}

/-- What is orderly behind some plain symbols is orderly from in front of them. -/
theorem mono {outcome : Except Failure (α × List Symbol)} (h : Orderly inner outcome)
    (hpasses : Passes input inner) : Orderly input outcome := by
  match outcome, h with
  | .ok _, h => exact hpasses.trans h
  | .error _, h => exact ⟨hpasses.trans h.1, h.2.mono hpasses.suffix.subset⟩

/-- A reader that wants something else has passed over nothing. -/
theorem wanted (what : Wanted) (input : List Symbol) :
    Orderly input (.error (.wanted what input) : Except Failure (α × List Symbol)) := by
  refine ⟨?_, .wanted what input⟩
  rw [Failure.rest_wanted]
  exact .refl input

/-- Nor has a reader that finds a mistake. -/
theorem mistake (what : Mistake) {rest : List Symbol} (hsymbol : symbol.stray? = none) :
    Orderly (symbol :: rest)
      (.error (.mistake what (symbol :: rest)) : Except Failure (α × List Symbol)) :=
  ⟨.refl _, .mistake what hsymbol⟩

/-- An outcome that is taken over keeps its failure. -/
theorem of_eq_error {outcome : Except Failure (α × List Symbol)} {failure : Failure}
    (h : Orderly input outcome) (heq : outcome = .error failure) :
    Orderly input (.error failure : Except Failure (β × List Symbol)) := by
  rw [heq] at h
  exact h

/-- An outcome that is taken over has passed over what is gone. -/
theorem of_eq_ok {outcome : Except Failure (α × List Symbol)} {a : α} {left : List Symbol}
    (h : Orderly input outcome) (heq : outcome = .ok (a, left)) : Passes input left := by
  rw [heq] at h
  exact h

/-- **Readers are orderly.** -/
theorem hereditary : Hereditary fun _ reader => ∀ input, Orderly input (reader input) where
  pure _ input := .refl input
  bind {α β first next} hfirst hnext input := by
    rw [bind_apply]
    cases hrun : first input with
    | error failure => exact (hfirst input).of_eq_error hrun
    | ok outcome => exact (hnext outcome.1 outcome.2).mono ((hfirst input).of_eq_ok hrun)
  readSymbol what pick hpick input := by
    unfold readSymbol
    split
    · exact .wanted what []
    · next symbol rest =>
      split
      · next hfound => exact Passes.tail (hpick.plain symbol (by rw [hfound]; rfl))
      · next hfound =>
        exact .mistake _ (Symbol.stray?_eq_none (hpick.plain symbol (by rw [hfound]; rfl)))
      · exact .wanted what _
  trySymbol default pick hpick input := by
    unfold trySymbol
    split
    · exact .refl []
    · next symbol rest =>
      split
      · next hfound => exact Passes.tail (hpick.plain symbol (by rw [hfound]; rfl))
      · next hfound =>
        exact .mistake _ (Symbol.stray?_eq_none (hpick.plain symbol (by rw [hfound]; rfl)))
      · exact .refl _
  readPortDot text input := by
    unfold readPortDot
    split
    · exact Passes.tail rfl
    · exact ⟨.refl input, .missingOutputPort text input⟩
  loop {σ α turn reader} hturn hshorter heq := by
    intro state input
    -- the induction is on the length of what is left to read
    induction hlength : input.length using Nat.strongRecOn generalizing state input with
    | _ length ih =>
      subst hlength
      rw [heq, bind_apply]
      cases hrun : turn state input with
      | error failure => exact (hturn state input).of_eq_error hrun
      | ok outcome =>
        obtain ⟨next, left⟩ := outcome
        have hpasses := (hturn state input).of_eq_ok hrun
        cases next with
        | inl next => exact (ih _ (hshorter _ _ _ _ hrun) next left rfl).mono hpasses
        | inr a => exact hpasses

end Orderly

/-! ### References -/

section References

variable {net : Network} {input left : List Symbol}

/-- A reference starts with the name of a device. -/
theorem deviceAt_ok {text : String} {device : Device} (h : deviceAt net input = .ok (text, device)) :
    ∃ id offset rest, input = ⟨.name text id, offset⟩ :: rest := by
  unfold deviceAt at h
  split at h
  · next found id offset rest =>
    split at h
    · cases h
      exact ⟨id, offset, rest, rfl⟩
    · cases h
  · cases h

/-- An output starts with the name of its device. -/
theorem deviceAt_of_readOutput {output : OutputRef} (h : readOutput net input = .ok (output, left)) :
    ∃ text id offset rest, input = ⟨.name text id, offset⟩ :: rest := by
  cases hdevice : deviceAt net input with
  | error failure =>
    simp only [readOutput, hdevice] at h
    cases h
  | ok found => exact ⟨found.1, deviceAt_ok hdevice⟩

/-- So does an input. -/
theorem deviceAt_of_readInput {target : InputRef} (h : readInput net input = .ok (target, left)) :
    ∃ text id offset rest, input = ⟨.name text id, offset⟩ :: rest := by
  cases hdevice : deviceAt net input with
  | error failure =>
    simp only [readInput, hdevice] at h
    cases h
  | ok found => exact ⟨found.1, deviceAt_ok hdevice⟩

end References

/-! ## Statements -/

/-- What the rest of a statement makes of an input: it ends behind a semicolon, or it fails in front of
any. -/
def Closes (first : Symbol) (input : List Symbol) : Except Failure (Unit × List Symbol) → Prop
  | .ok (_, left) => ∃ offset, Passes input (⟨.semicolon, offset⟩ :: left)
  | .error failure => Passes input failure.rest ∧ Blames (first :: input) failure

section Statements

variable {net : Network} {table : NameTable} {first : Symbol} {input left : List Symbol}

/-- A reader that fails ends the statement in front of its semicolon. -/
theorem Closes.of_orderly {α : Type} {outcome : Except Failure (α × List Symbol)} {failure : Failure}
    (h : Orderly input outcome) (heq : outcome = .error failure) :
    Closes first input (.error failure) := by
  rw [heq] at h
  exact ⟨h.1, h.2.mono (List.subset_cons_self ..)⟩

/-- A statement ends with a semicolon, or fails for want of one. -/
theorem closes_readSemicolon (h : Passes input left) : Closes first input (readSemicolon left) := by
  unfold readSemicolon
  split
  · next offset rest => exact ⟨offset, h⟩
  · have hwanted : Orderly left (.error (.wanted .semicolon left) :
        Except Failure (Unit × List Symbol)) := .wanted .semicolon left
    exact .of_orderly (hwanted.mono h) rfl

/-- A failure that the circuit makes blames a symbol that has been read. -/
theorem closes_refused (h : Passes input left) {symbol : Symbol} (hmem : symbol ∈ first :: input)
    (hsymbol : symbol.stray? = none) (fault : Fault) :
    Closes first input (.error ⟨.mistake (.ofFault fault), .atOffset symbol.offset, left⟩) :=
  ⟨h, .sound _ symbol left (by simp [Problem.category]) hmem hsymbol⟩

/-- A definition closes: it is blamed at its first symbol if its devices are refused. -/
theorem closes_define (hfirst : first.stray? = none) (net : Network) (input : List Symbol) :
    Closes first input (define net (.atOffset first.offset) input).2 := by
  have hdevices : Orderly input (readDevices net input) := Orderly.hereditary.readDevices net input
  unfold define
  split
  · next failure h => exact .of_orderly hdevices h
  · next listed kind rest h =>
    split
    · exact closes_readSemicolon (hdevices.of_eq_ok h)
    · exact closes_refused (hdevices.of_eq_ok h) List.mem_cons_self hfirst _

/-- The place that a wire ends at is that of the name of its device. -/
theorem place_of_readWire {source : OutputRef} {target : InputRef} {place : Place}
    (h : readWire net input = .ok ((source, target, place), left)) :
    ∃ symbol ∈ input, symbol.stray? = none ∧ place = .atOffset symbol.offset := by
  obtain ⟨middle, behind, hsource, hword, htarget, rfl⟩ := readWire_parts.1 h
  have hread : readKeyword .toWord middle = .ok ((), behind) := readKeyword_eq_ok.2 hword
  have hpasses : Passes input behind :=
    ((Orderly.hereditary.readOutput net input).of_eq_ok hsource).trans
      ((Orderly.hereditary.readKeyword rfl middle).of_eq_ok hread)
  obtain ⟨text, id, offset, rest, hmiddle⟩ := deviceAt_of_readInput htarget
  rw [hmiddle] at hpasses ⊢
  exact ⟨_, hpasses.suffix.subset List.mem_cons_self, rfl, rfl⟩

/-- A connection closes: it is blamed at its input if its wire is refused. -/
theorem closes_connect (table : NameTable) (net : Network) (input : List Symbol) :
    Closes first input (connect table net input).2 := by
  have hwire : Orderly input (readWire net input) :=
    Orderly.hereditary.readWire (fun input => .refl input) net input
  unfold connect
  split
  · next failure h => exact .of_orderly hwire h
  · next source target place rest h =>
    split
    · exact closes_readSemicolon (hwire.of_eq_ok h)
    · obtain ⟨symbol, hmem, hsymbol, rfl⟩ := place_of_readWire h
      exact closes_refused (hwire.of_eq_ok h) (List.mem_cons_of_mem _ hmem) hsymbol _

/-- Monitors close: they are blamed at the output that is refused. -/
theorem closes_monitor (table : NameTable) (net : Network) {monitors : Monitors}
    {inner : List Symbol} (hpasses : Passes input inner) :
    Closes first input (monitor table net monitors inner).2 := by
  have houtput := (Orderly.hereditary.readOutput net inner).mono hpasses
  rw [monitor]
  split
  · next failure h => exact .of_orderly houtput h
  · next point rest h =>
    have hrest := houtput.of_eq_ok h
    split
    · obtain ⟨text, id, offset, rest', rfl⟩ := deviceAt_of_readOutput h
      have hmem : ⟨.name text id, offset⟩ ∈ first :: input :=
        List.mem_cons_of_mem _ (hpasses.suffix.subset List.mem_cons_self)
      exact closes_refused hrest hmem rfl _
    · split
      · exact closes_monitor table net hrest
      · exact closes_readSemicolon hrest
  termination_by inner.length
  decreasing_by exact length_readOutput_lt (by assumption)

/-- **A statement is orderly.** One that starts with its word is read up to its semicolon, or fails
in front of it; anything else fails at once. -/
theorem statement_orderly (hend : first.isKeyword .endWord = false) (table : NameTable)
    (circuit : Circuit) (input : List Symbol) :
    (first.resumes ∧ Closes first input (statement table circuit first input).2) ∨
    (first.resumes = false ∧
      (statement table circuit first input).2 = .error (.wanted .statement (first :: input))) := by
  -- a word that starts a statement is no stray character
  have hkeyword : ∀ word, first.isKeyword word → first.stray? = none ∧
      first.resumes = word.startsStatement := by
    intro word hword
    obtain ⟨kind, offset⟩ := first
    cases kind with
    | keyword found id =>
      have hfound : found = word := by
        simpa [Symbol.isKeyword, SymbolKind.isKeyword] using hword
      rw [hfound]
      exact ⟨rfl, rfl⟩
    | _ => cases hword
  unfold statement
  split
  · next h => exact .inl ⟨(hkeyword _ h).2, closes_define (hkeyword _ h).1 ..⟩
  · next hdefine =>
    split
    · next h => exact .inl ⟨(hkeyword _ h).2, closes_connect ..⟩
    · next hconnect =>
      split
      · next h => exact .inl ⟨(hkeyword _ h).2, closes_monitor table _ (.refl input)⟩
      · next hmonitor =>
        refine .inr ⟨?_, rfl⟩
        obtain ⟨kind, offset⟩ := first
        cases kind with
        | keyword word id =>
          cases word <;>
            simp_all [Symbol.isKeyword, SymbolKind.isKeyword, Symbol.resumes,
              Keyword.startsStatement]
        | _ => rfl

end Statements

end LogicCircuit.Definition
