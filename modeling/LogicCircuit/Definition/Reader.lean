import LogicCircuit.Definition.Problem
import LogicCircuit.Definition.Symbol
import LogicCircuit.Level
import LogicCircuit.Text.Decimal

/-!
# Readers

A reader takes what it needs from the front of a list of symbols, or fails at a symbol. Readers are
put together with `do`: what one leaves is the input of the next.

* `Failure` says what is wrong, at which place, and what was still unread then. Reading resumes from
  there.
* `Hereditary` properties are those that go over from readers of single symbols to what is put together
  of them. The readers of the grammar are, so each has one lemma, beside its definition, which says that
  it has every hereditary property.
* `StaysWithin` is the first of these properties: whatever the outcome, what is left unread is a tail of
  the input. The loops of the grammar end because of it.
-/

namespace LogicCircuit.Definition

/-- A place in a definition. -/
inductive Place where
  /-- At the symbol with a given offset. -/
  | atOffset (offset : Nat)
  /-- Where the text ends. -/
  | textEnd
  deriving DecidableEq, Repr

/-- The place of the first symbol that is left to read. -/
def Place.ofInput : List Symbol → Place
  | [] => .textEnd
  | symbol :: _ => .atOffset symbol.offset

/-- Why reading failed: the problem, its place, and what was unread when it was found. -/
structure Failure where
  problem : Problem
  place : Place
  rest : List Symbol
  deriving DecidableEq, Repr

namespace Failure

/-- The first symbol makes no sense where it stands. -/
def mistake (what : Mistake) (input : List Symbol) : Failure :=
  ⟨.mistake what, .ofInput input, input⟩

/-- The first symbol is not what the grammar wants. If it is a character that no symbol has, that is
the problem. -/
def wanted (what : Wanted) (input : List Symbol) : Failure :=
  match input with
  | ⟨.invalid c, _⟩ :: _ => ⟨.invalidCharacter c, .ofInput input, input⟩
  | _ => ⟨.wanted what, .ofInput input, input⟩

@[simp] theorem rest_mistake (what : Mistake) (input : List Symbol) :
    (mistake what input).rest = input := rfl

@[simp] theorem rest_wanted (what : Wanted) (input : List Symbol) :
    (wanted what input).rest = input := by
  unfold wanted
  split <;> rfl

end Failure

/-- A reader of symbols. -/
abbrev Reader (α : Type) : Type :=
  StateT (List Symbol) (Except Failure) α

/-! ## What is left unread -/

/-- What is left after an outcome, or unread at a failure, is a tail of the input. -/
def StaysWithin {α : Type} (input : List Symbol) : Except Failure (α × List Symbol) → Prop
  | .ok (_, left) => left <:+ input
  | .error failure => failure.rest <:+ input

namespace StaysWithin

variable {α β : Type} {input : List Symbol}

theorem mono {inner : List Symbol} {outcome : Except Failure (α × List Symbol)}
    (h : StaysWithin inner outcome) (hsub : inner <:+ input) : StaysWithin input outcome := by
  match outcome, h with
  | .ok _, h => exact List.IsSuffix.trans h hsub
  | .error _, h => exact List.IsSuffix.trans h hsub

theorem pure (a : α) : StaysWithin input ((Pure.pure a : Reader α) input) :=
  List.suffix_refl input

/-- A failure with everything unread. -/
theorem error {failure : Failure} (h : failure.rest = input) :
    StaysWithin input (.error failure : Except Failure (α × List Symbol)) := by
  subst h
  exact List.suffix_refl failure.rest

theorem wanted (what : Wanted) :
    StaysWithin input (.error (.wanted what input) : Except Failure (α × List Symbol)) :=
  .error (Failure.rest_wanted what input)

theorem mistake (what : Mistake) :
    StaysWithin input (.error (.mistake what input) : Except Failure (α × List Symbol)) :=
  .error (Failure.rest_mistake what input)

/-- A reader that leaves a tail, followed by readers that leave tails, leaves a tail. -/
theorem bind {first : Reader α} {next : α → Reader β} (hfirst : StaysWithin input (first input))
    (hnext : ∀ a left, StaysWithin left (next a left)) :
    StaysWithin input ((first >>= next) input) := by
  have hbind : (first >>= next) input =
      match first input with
      | .ok (a, left) => next a left
      | .error failure => .error failure := by
    simp only [Bind.bind, StateT.bind, Except.bind]
    cases first input <;> rfl
  rw [hbind]
  match hrun : first input, hfirst with
  | .ok (a, left), hfirst => exact (hnext a left).mono hfirst
  | .error _, hfirst => exact hfirst

end StaysWithin

/-! ## Single symbols -/

/-- Passes over the next symbol. -/
def skip : Reader Unit := fun input =>
  .ok ((), input.tail)

/-- The place of the next symbol. -/
def currentPlace : Reader Place := fun input =>
  .ok (.ofInput input, input)

/-- Fails at the next symbol. -/
def reject {α : Type} (what : Mistake) : Reader α := fun input =>
  .error (.mistake what input)

/-- Whether the next symbol is a given keyword. -/
def atKeyword (word : Keyword) : List Symbol → Bool
  | symbol :: _ => symbol.isKeyword word
  | [] => false

/-- Reads a keyword. -/
def readKeyword (word : Keyword) : Reader Unit := fun input =>
  if atKeyword word input then .ok ((), input.tail) else .error (.wanted (.keyword word) input)

/-- Reads the semicolon at the end of a statement. -/
def readSemicolon : Reader Unit := fun input =>
  match input with
  | ⟨.semicolon, _⟩ :: rest => .ok ((), rest)
  | _ => .error (.wanted .semicolon input)

/-- The count that the next symbol writes. The symbol is left in place, so that a count out of range
can be blamed on it. -/
def peekCount : Reader Nat := fun input =>
  match input with
  | ⟨.number digits _, _⟩ :: _ => .ok (Decimal.count digits.toList, input)
  | _ => .error (.wanted .number input)

/-- Reads a level, written 0 or 1. -/
def readLevel (what : Wanted) : Reader Level := fun input =>
  match input with
  | ⟨.number digits _, _⟩ :: rest =>
    match Level.ofLiteral? digits with
    | some level => .ok (level, rest)
    | none => .error (.wanted what input)
  | _ => .error (.wanted what input)

/-! ## Readers put together -/

/-- Whether readers may pass over a symbol. -/
def Symbol.plain (symbol : Symbol) : Bool :=
  match symbol.kind with
  | .fullStop | .number _ _ | .name _ _ => true
  | .keyword word _ => !word.startsStatement
  | .semicolon | .invalid _ => false

/-- Whether a mistake is one that readers find. -/
def Mistake.isRead : Mistake → Bool
  | floatingInputs _ | refused _ => false
  | _ => true

/-- What a symbol is taken for, or what is wrong with it, if it is looked for at all. -/
abbrev Pick (α : Type) : Type :=
  SymbolKind → Option (Except Mistake α)

/-- Only plain symbols are looked for, and what is wrong with one is found by reading. -/
structure Pick.Sound {α : Type} (pick : Pick α) : Prop where
  plain : ∀ symbol : Symbol, (pick symbol.kind).isSome → symbol.plain
  isRead : ∀ kind mistake, pick kind = some (.error mistake) → mistake.isRead

/-- Reads a symbol. -/
def readSymbol {α : Type} (what : Wanted) (pick : Pick α) : Reader α := fun input =>
  match input with
  | [] => .error (.wanted what [])
  | symbol :: rest =>
    match pick symbol.kind with
    | some (.ok a) => .ok (a, rest)
    | some (.error mistake) => .error (.mistake mistake (symbol :: rest))
    | none => .error (.wanted what (symbol :: rest))

/-- Reads a symbol if it is one of those looked for. -/
def trySymbol {α : Type} (default : α) (pick : Pick α) : Reader α := fun input =>
  match input with
  | [] => .ok (default, [])
  | symbol :: rest =>
    match pick symbol.kind with
    | some (.ok a) => .ok (a, rest)
    | some (.error mistake) => .error (.mistake mistake (symbol :: rest))
    | none => .ok (default, symbol :: rest)

/-- Reads the dot of a flip-flop's output. What stands in its place is blamed, whatever it is. -/
def readPortDot (text : String) : Reader Unit := fun input =>
  match input with
  | ⟨.fullStop, _⟩ :: rest => .ok ((), rest)
  | _ => .error (.mistake (.missingOutputPort text) input)

/-- A property that goes over from readers to what is put together of them. -/
structure Hereditary (P : ∀ α : Type, Reader α → Prop) : Prop where
  pure : ∀ {α : Type} (a : α), P α (Pure.pure a)
  bind : ∀ {α β : Type} {first : Reader α} {next : α → Reader β},
    P α first → (∀ a, P β (next a)) → P β (first >>= next)
  readSymbol : ∀ {α : Type} (what : Wanted) {pick : Pick α}, pick.Sound → P α (readSymbol what pick)
  trySymbol : ∀ {α : Type} (default : α) {pick : Pick α}, pick.Sound → P α (trySymbol default pick)
  readPortDot : ∀ text, P Unit (readPortDot text)
  /-- A loop that takes symbols in each of its turns. -/
  loop : ∀ {σ α : Type} {turn : σ → Reader (σ ⊕ α)} {reader : σ → Reader α},
    (∀ state, P (σ ⊕ α) (turn state)) →
    (∀ state input next left, turn state input = .ok (next, left) → left.length < input.length) →
    (∀ state, reader state = turn state >>= Sum.elim reader Pure.pure) →
    ∀ state, P α (reader state)

theorem bind_apply {α β : Type} (first : Reader α) (next : α → Reader β) (input : List Symbol) :
    (first >>= next) input =
      match first input with
      | .ok (a, left) => next a left
      | .error failure => .error failure := by
  simp only [Bind.bind, StateT.bind, Except.bind]
  cases first input <;> rfl

/-- A symbol that is read is taken from the input. -/
theorem length_readSymbol_lt {α : Type} {what : Wanted} {pick : Pick α} {input left : List Symbol} {a : α}
    (h : readSymbol what pick input = .ok (a, left)) : left.length < input.length := by
  unfold readSymbol at h
  split at h
  · cases h
  · split at h
    · cases h
      exact Nat.lt_succ_self _
    · cases h
    · cases h

theorem length_trySymbol_le {α : Type} {default : α} {pick : Pick α} {input left : List Symbol} {a : α}
    (h : trySymbol default pick input = .ok (a, left)) : left.length ≤ input.length := by
  unfold trySymbol at h
  split at h
  · cases h
    exact Nat.le_refl _
  · split at h
    · cases h
      exact Nat.le_succ _
    · cases h
    · cases h
      exact Nat.le_refl _

/-! ### Keywords, levels and counts -/

def pickKeyword (word : Keyword) : Pick Unit
  | .keyword found _ => if found = word then some (.ok ()) else none
  | _ => none

theorem pickKeyword_sound {word : Keyword} (hword : word.startsStatement = false) :
    (pickKeyword word).Sound := by
  constructor
  · rintro ⟨kind, offset⟩ h
    cases kind with
    | keyword found id =>
      by_cases hfound : found = word
      · subst hfound
        simp [Symbol.plain, hword]
      · simp [pickKeyword, hfound] at h
    | _ => cases h
  · intro kind mistake h
    cases kind with
    | keyword found id =>
      by_cases hfound : found = word <;> simp [pickKeyword, hfound] at h
    | _ => cases h

theorem readKeyword_eq (word : Keyword) :
    readKeyword word = readSymbol (.keyword word) (pickKeyword word) := by
  funext input
  rcases input with _ | ⟨⟨kind, offset⟩, rest⟩
  · rfl
  · cases kind with
    | keyword found id =>
      by_cases hfound : found = word <;>
        simp [readKeyword, atKeyword, Symbol.isKeyword, SymbolKind.isKeyword, readSymbol, pickKeyword,
          hfound]
    | _ => rfl

def pickLevel : Pick Level
  | .number digits _ => (Level.ofLiteral? digits).map .ok
  | _ => none

theorem pickLevel_sound : pickLevel.Sound := by
  constructor
  · rintro ⟨kind, offset⟩ h
    cases kind <;> first | rfl | cases h
  · intro kind mistake h
    cases kind with
    | number digits id => simp [pickLevel] at h
    | _ => cases h

theorem readLevel_eq (what : Wanted) : readLevel what = readSymbol what pickLevel := by
  funext input
  rcases input with _ | ⟨⟨kind, offset⟩, rest⟩
  · rfl
  · cases kind with
    | number digits id =>
      simp only [readLevel, readSymbol, pickLevel]
      cases Level.ofLiteral? digits <;> rfl
    | _ => rfl

/-- A count that is out of range is a mistake. -/
def pickCount (bad : Nat → Prop) [DecidablePred bad] (mistake : Mistake) : Pick Nat
  | .number digits _ =>
    some (if bad (Decimal.count digits.toList) then .error mistake else .ok (Decimal.count digits.toList))
  | _ => none

theorem pickCount_sound {bad : Nat → Prop} [DecidablePred bad] {mistake : Mistake}
    (hmistake : mistake.isRead) : (pickCount bad mistake).Sound := by
  constructor
  · rintro ⟨kind, offset⟩ h
    cases kind <;> first | rfl | cases h
  · intro kind found h
    cases kind with
    | number digits id =>
      rw [pickCount, Option.some.injEq] at h
      split at h
      · cases h
        exact hmistake
      · cases h
    | _ => cases h

theorem count_eq {α : Type} {bad : Nat → Prop} [DecidablePred bad] (mistake : Mistake)
    (next : Nat → Reader α) :
    (do let count ← peekCount
        if bad count then reject mistake else do skip; next count)
      = readSymbol .number (pickCount bad mistake) >>= next := by
  funext input
  rw [bind_apply, bind_apply]
  rcases input with _ | ⟨⟨kind, offset⟩, rest⟩
  · rfl
  · cases kind with
    | number digits id =>
      dsimp only [peekCount, readSymbol, pickCount]
      split <;> rfl
    | _ => rfl

namespace Hereditary

variable {P : ∀ α : Type, Reader α → Prop} {word : Keyword}

theorem readKeyword (h : Hereditary P) (hword : word.startsStatement = false) :
    P Unit (readKeyword word) := by
  rw [readKeyword_eq]
  exact h.readSymbol _ (pickKeyword_sound hword)

theorem readLevel (h : Hereditary P) (what : Wanted) : P Level (readLevel what) := by
  rw [readLevel_eq]
  exact h.readSymbol what pickLevel_sound

/-- A count is read, or blamed for being out of range. -/
theorem count (h : Hereditary P) {α : Type} {bad : Nat → Prop} [DecidablePred bad] {mistake : Mistake}
    {next : Nat → Reader α} (hmistake : mistake.isRead) (hnext : ∀ count, P α (next count)) :
    P α (do let count ← peekCount
            if bad count then reject mistake else do skip; next count) := by
  rw [count_eq]
  exact h.bind (h.readSymbol _ (pickCount_sound hmistake)) hnext

end Hereditary

/-! ## Tails -/

/-- **Readers stay within their input.** -/
theorem StaysWithin.hereditary : Hereditary fun _ reader => ∀ input, StaysWithin input (reader input) where
  pure a input := .pure a
  bind hfirst hnext input := .bind (hfirst input) hnext
  readSymbol what pick _ input := by
    unfold Definition.readSymbol
    split
    · exact .wanted what
    · split
      · exact List.suffix_cons ..
      · exact .mistake _
      · exact .wanted what
  trySymbol default pick _ input := by
    unfold Definition.trySymbol
    split
    · exact .pure default
    · split
      · exact List.suffix_cons ..
      · exact .mistake _
      · exact .pure default
  readPortDot text input := by
    unfold Definition.readPortDot
    split
    · exact List.suffix_cons ..
    · exact .mistake _
  loop {σ α turn reader} hturn hshorter heq := by
    intro state input
    -- the induction is on the length of what is left to read
    induction hlength : input.length using Nat.strongRecOn generalizing state input with
    | _ length ih =>
      subst hlength
      have hfirst := hturn state input
      rw [heq, bind_apply]
      cases hrun : turn state input with
      | error failure =>
        rw [hrun] at hfirst
        exact hfirst
      | ok outcome =>
        obtain ⟨next, left⟩ := outcome
        rw [hrun] at hfirst
        cases next with
        | inl next => exact (ih _ (hshorter _ _ _ _ hrun) next left rfl).mono hfirst
        | inr a => exact hfirst

theorem readSemicolon_staysWithin (input : List Symbol) :
    StaysWithin input (readSemicolon input) := by
  unfold readSemicolon
  split
  · exact List.suffix_cons ..
  · exact .wanted _

/-- A level takes one symbol. -/
theorem length_readLevel_lt {what : Wanted} {input left : List Symbol} {l : Level}
    (h : readLevel what input = .ok (l, left)) : left.length < input.length := by
  unfold readLevel at h
  split at h
  · split at h
    · cases h; simp
    · cases h
  · cases h

end LogicCircuit.Definition
