import LogicCircuit.Proofs.Definition.Readers
import Mathlib.Logic.Function.Basic

/-!
# Relocation — where symbols stand does not matter

Offsets are carried along to say where a mistake is. Nothing else is decided by them but one thing: what
is reported while the rest of a faulty statement is passed over depends on whether a stray character
stands where the failure has been blamed already, so symbols must not be moved to one place.

* **`Placeless`** — a reader that does the same to symbols that have been moved, and blames the moved
  places. This is hereditary (`Placeless.hereditary`).
* **`statement_move`**, **`statements_move`** — so do statements and runs over them. Here the places have
  to stay apart (`recover_move`).
-/

namespace LogicCircuit.Definition

/-! ## Moving -/

section Move

variable (f : Nat → Nat)

def Symbol.move (symbol : Symbol) : Symbol :=
  { symbol with offset := f symbol.offset }

def Place.move : Place → Place
  | atOffset offset => atOffset (f offset)
  | textEnd => textEnd

/-- The problem stays, and the place and what is left are moved. -/
def Failure.move (failure : Failure) : Failure :=
  ⟨failure.problem, failure.place.move f, failure.rest.map (Symbol.move f)⟩

def Finding.move (finding : Finding) : Finding :=
  ⟨finding.problem, finding.place.map (Place.move f)⟩

/-- What comes of moved symbols when the same is read. -/
def moveOutcome {α : Type} :
    Except Failure (α × List Symbol) → Except Failure (α × List Symbol)
  | .ok (a, left) => .ok (a, left.map (Symbol.move f))
  | .error failure => .error (failure.move f)

end Move

variable {f : Nat → Nat} {net : Network} {table : NameTable} {circuit : Circuit} {α β : Type}
  {input : List Symbol}

/-- The place of an input is that of its first symbol, or the end of the text, which does not move. -/
theorem place_ofInput_move : Place.ofInput (input.map (Symbol.move f)) = (Place.ofInput input).move f := by
  cases input <;> rfl

/-- Whether a stray character or a missing symbol is reported is decided by the kind of the next symbol. -/
theorem wanted_move (what : Wanted) (input : List Symbol) :
    Failure.wanted what (input.map (Symbol.move f)) = (Failure.wanted what input).move f := by
  rcases input with _ | ⟨⟨kind, offset⟩, rest⟩
  · rfl
  · cases kind <;> rfl

theorem atName_move : atName (input.map (Symbol.move f)) = atName input := by
  rcases input with _ | ⟨⟨kind, offset⟩, rest⟩
  · rfl
  · cases kind <;> rfl

/-! ## Readers -/

/-- A reader that does not look where symbols stand. -/
def Placeless (f : Nat → Nat) (reader : Reader α) : Prop :=
  ∀ input, reader (input.map (Symbol.move f)) = moveOutcome f (reader input)

/-- **Readers** do not look where symbols stand. -/
theorem Placeless.hereditary (f : Nat → Nat) : Hereditary fun _ reader => Placeless f reader where
  pure _ _ := rfl
  bind {α β first next} hfirst hnext input := by
    rw [bind_apply, bind_apply, hfirst input]
    cases first input with
    | error failure => rfl
    | ok read => exact hnext read.1 read.2
  readSymbol what pick _ input := by
    cases input with
    | nil => rfl
    | cons symbol rest =>
      have hkind : (symbol.move f).kind = symbol.kind := rfl
      have hwanted := wanted_move (f := f) what (symbol :: rest)
      rw [List.map_cons] at hwanted ⊢
      simp only [readSymbol, hkind, hwanted]
      rcases pick symbol.kind with _ | _ | _ <;> rfl
  trySymbol default pick _ input := by
    cases input with
    | nil => rfl
    | cons symbol rest =>
      have hkind : (symbol.move f).kind = symbol.kind := rfl
      simp only [List.map_cons, trySymbol, hkind]
      rcases pick symbol.kind with _ | _ | _ <;> rfl
  readPortDot text input := by
    rcases input with _ | ⟨⟨kind, offset⟩, rest⟩
    · rfl
    · cases kind <;> rfl
  loop {σ α turn reader} hturn hshorter heq := by
    intro state input
    -- the induction is on the length of what is left to read
    induction hlength : input.length using Nat.strongRecOn generalizing state input with
    | _ length ih =>
      subst hlength
      rw [heq, bind_apply, bind_apply, hturn state input]
      cases hrun : turn state input with
      | error failure => rfl
      | ok outcome =>
        obtain ⟨next, left⟩ := outcome
        cases next with
        | inl next => exact ih _ (hshorter _ _ _ _ hrun) next left rfl
        | inr a => rfl

/-- A semicolon that is missing is blamed on what stands there instead. -/
theorem readSemicolon_placeless : Placeless f readSemicolon := by
  rintro (_ | ⟨⟨kind, offset⟩, rest⟩)
  · rfl
  · cases kind <;> rfl

/-! ## Statements -/

/-- A definition does the same, wherever it starts. -/
theorem define_move (start : Place) (input : List Symbol) :
    define net (start.move f) (input.map (Symbol.move f))
      = ((define net start input).1, moveOutcome f (define net start input).2) := by
  rw [define, define, (Placeless.hereditary f).readDevices net input]
  cases readDevices net input with
  | error failure => rfl
  | ok read =>
    obtain ⟨⟨listed, kind⟩, rest⟩ := read
    simp only [moveOutcome]
    -- a device that is refused is blamed on the start, which is moved with the symbols
    rcases addDevices net kind listed with ⟨added, _ | _⟩
    · rfl
    · exact congrArg (Prod.mk added) (readSemicolon_placeless rest)

/-- The place of the input of a wire is moved with the symbols. -/
theorem readWire_move (input : List Symbol) : readWire net (input.map (Symbol.move f)) =
    match readWire net input with
    | .error failure => .error (failure.move f)
    | .ok ((source, target, place), rest) =>
      .ok ((source, target, place.move f), rest.map (Symbol.move f)) := by
  have hreaders := Placeless.hereditary f
  have hto : Placeless f (readKeyword .toWord) := hreaders.readKeyword rfl
  simp only [readWire, bind_apply, hreaders.readOutput net input]
  cases readOutput net input with
  | error failure => rfl
  | ok read =>
    obtain ⟨source, middle⟩ := read
    simp only [moveOutcome, hto middle]
    cases readKeyword .toWord middle with
    | error failure => rfl
    | ok read =>
      obtain ⟨-, middle'⟩ := read
      simp only [moveOutcome, currentPlace, place_ofInput_move, hreaders.readInput net middle']
      cases readInput net middle' <;> rfl

/-- A connection does the same, and blames the moved place of its input. -/
theorem connect_move (input : List Symbol) :
    connect table net (input.map (Symbol.move f))
      = ((connect table net input).1, moveOutcome f (connect table net input).2) := by
  rw [connect, connect, readWire_move]
  cases readWire net input with
  | error failure => rfl
  | ok read =>
    obtain ⟨⟨source, target, place⟩, rest⟩ := read
    dsimp only
    cases net.connect table source target with
    | error fault => rfl
    | ok after => exact congrArg (Prod.mk after) (readSemicolon_placeless rest)

/-- One turn of the loop over the outputs of a `monitor`. -/
theorem monitor_eq (monitors : Monitors) (input : List Symbol) : monitor table net monitors input =
    match readOutput net input with
    | .error failure => (monitors, .error failure)
    | .ok (point, rest) =>
      match monitors.add table net point 0 with
      | .error fault => (monitors, .error ⟨.mistake (.ofFault fault), .ofInput input, rest⟩)
      | .ok added =>
        if atName rest then monitor table net added rest else (added, readSemicolon rest) := by
  rw [monitor]
  split
  · next h => exact h ▸ rfl
  · next h => exact h ▸ rfl

/-- Outputs are monitored alike, output by output, by induction on what is left to read. -/
theorem monitor_move (monitors : Monitors) (input : List Symbol) :
    monitor table net monitors (input.map (Symbol.move f)) =
      ((monitor table net monitors input).1, moveOutcome f (monitor table net monitors input).2) := by
  rw [monitor_eq, monitor_eq monitors input, (Placeless.hereditary f).readOutput net input]
  cases hread : readOutput net input with
  | error failure => rfl
  | ok read =>
    obtain ⟨point, rest⟩ := read
    simp only [moveOutcome, atName_move, place_ofInput_move]
    cases monitors.add table net point 0 with
    | error fault => rfl
    | ok added =>
      dsimp only
      split
      · exact monitor_move added rest
      · exact congrArg (Prod.mk added) (readSemicolon_placeless rest)
  termination_by input.length
  decreasing_by exact length_readOutput_lt hread

/-- **A statement** does the same wherever its symbols stand, and blames the moved places. -/
theorem statement_move (first : Symbol) (rest : List Symbol) :
    statement table circuit (first.move f) (rest.map (Symbol.move f)) =
      ((statement table circuit first rest).1,
        moveOutcome f (statement table circuit first rest).2) := by
  have hword : ∀ word, (first.move f).isKeyword word = first.isKeyword word := fun _ => rfl
  have hstart : Place.atOffset (first.move f).offset = (Place.atOffset first.offset).move f := rfl
  have hwanted : Failure.wanted .statement (first.move f :: rest.map (Symbol.move f))
      = (Failure.wanted .statement (first :: rest)).move f := wanted_move .statement (first :: rest)
  simp only [statement, hword, hstart, define_move, connect_move, monitor_move, hwanted]
  split
  · rfl
  · split
    · rfl
    · split <;> rfl

/-! ## Recovery -/

/-- What is passed over after a failure is the same if no two places are moved to one. -/
theorem recover_move (hf : Function.Injective f) (failedAt : Place) (input : List Symbol) :
    recover (failedAt.move f) (input.map (Symbol.move f)) =
      ((recover failedAt input).1.map (Finding.move f),
        (recover failedAt input).2.map (Symbol.move f)) := by
  -- a symbol is at the place of the failure after the move only if it was there before
  have hplace : ∀ offset, (.atOffset (f offset) = failedAt.move f) = (.atOffset offset = failedAt) := by
    intro offset
    cases failedAt with
    | atOffset other => simp [Place.move, hf.eq_iff]
    | textEnd => simp [Place.move]
  induction input with
  | nil => rfl
  | cons symbol rest ih =>
    obtain ⟨kind, offset⟩ := symbol
    have hresumes : (Symbol.move f ⟨kind, offset⟩).resumes = Symbol.resumes ⟨kind, offset⟩ := rfl
    rw [List.map_cons, recover, recover, ih, hresumes]
    simp only [Symbol.move, hplace]
    by_cases hsemicolon : kind = .semicolon
    · rw [if_pos hsemicolon, if_pos hsemicolon]
      rfl
    · rw [if_neg hsemicolon, if_neg hsemicolon]
      by_cases hstops : Symbol.resumes ⟨kind, offset⟩
      · rw [if_pos hstops, if_pos hstops]
        rfl
      · rw [if_neg hstops, if_neg hstops]
        cases kind with
        | invalid c =>
          -- stray characters are reported, but not one that the failure has blamed
          by_cases hblamed : Place.atOffset offset = failedAt
          · simp only [if_pos hblamed]
          · simp only [if_neg hblamed]
            rfl
        | _ => rfl

/-- What a statement leaves is gone on with at the moved places. -/
theorem resume_move (hf : Function.Injective f) (outcome : Except Failure (Unit × List Symbol)) :
    resume (moveOutcome f outcome) =
      ((resume outcome).1.map (Finding.move f), (resume outcome).2.map (Symbol.move f)) := by
  cases outcome with
  | ok read => rfl
  | error failure =>
    simp only [moveOutcome, resume, Failure.move, recover_move hf]
    rfl

/-- **All statements** do the same wherever their symbols stand, and find the same at the moved places. -/
theorem statements_move (hf : Function.Injective f) (circuit : Circuit) (input : List Symbol) :
    statements table circuit (input.map (Symbol.move f)) =
      ((statements table circuit input).1, (statements table circuit input).2.map (Finding.move f)) := by
  rcases input with _ | ⟨first, rest⟩
  · rw [List.map_nil, statements]
    rfl
  · by_cases hend : first.isKeyword .endWord
    · have hend' : (first.move f).isKeyword .endWord := hend
      rw [List.map_cons, statements, dif_pos hend', statements, dif_pos hend]
      rfl
    · have hend' : ¬ (first.move f).isKeyword .endWord := hend
      have hshorter : (resume (statement table circuit first rest).2).2.length < rest.length + 1 :=
        Nat.lt_succ_of_le (resume_statement_suffix (Bool.eq_false_iff.2 hend)).length_le
      have hlater := statements_move hf (statement table circuit first rest).1
        (resume (statement table circuit first rest).2).2
      rw [List.map_cons, statements, dif_neg hend', statements, dif_neg hend]
      simp only [statement_move, resume_move hf, hlater, List.map_append]
  termination_by input.length

end LogicCircuit.Definition
