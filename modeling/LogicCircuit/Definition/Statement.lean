import LogicCircuit.Definition.Body
import LogicCircuit.Definition.Reference
import LogicCircuit.Monitors

/-!
# Statements

A definition is a sequence of statements that ends with `END`. Each statement builds on the circuit
that the statements before it have left:

* `define` names `as` body `;` adds devices,
* `connect` output `to` input `;` adds a wire,
* `monitor` outputs `;` adds monitors.

What a statement has been found to mean takes effect at once, also when a mistake follows it in the
same statement. After a mistake reading resumes behind the next semicolon, or at the next word that
starts a statement, whichever comes first.
-/

namespace LogicCircuit.Definition

/-- What definitions build. -/
structure Circuit where
  network : Network
  monitors : Monitors
  deriving DecidableEq, Repr

def Circuit.empty : Circuit :=
  { network := .empty, monitors := .empty }

/-- A problem found in a definition. -/
structure Finding where
  problem : Problem
  /-- The place to be shown, if the problem has one. -/
  place : Option Place
  deriving DecidableEq, Repr

/-- The mistake of writing what the circuit refuses. -/
def Mistake.ofFault : Fault → Mistake
  | .devicePresent name => duplicateDevice name
  | .deviceAbsent name => unknownDevice name
  | .portAbsent device port => portAbsent device port
  | .inputConnected input => inputConnected input
  | .monitorPresent signal => duplicateMonitor signal
  | fault => refused fault.message

/-! ## Devices -/

/-- Reads the names of a definition up to the word `as`, after those already listed. A name may
neither be in use nor be listed twice. -/
def readNames (net : Network) (listed : List (NameId × String)) (input : List Symbol) :
    Except Failure (List (NameId × String) × List Symbol) :=
  match input with
  | ⟨.name text id, _⟩ :: rest =>
    if (net.device? id).isSome || listed.any (fun entry => entry.1 = id) then
      .error (.mistake (.duplicateDevice text) input)
    else if atKeyword .as rest then .ok (listed ++ [(id, text)], rest.tail)
    else readNames net (listed ++ [(id, text)]) rest
  | _ => .error (.wanted (if listed.isEmpty then .name else .keyword .as) input)

variable {P : ∀ α : Type, Reader α → Prop}

/-- A name that is neither in use nor listed. -/
def pickName (net : Network) (listed : List (NameId × String)) : Pick (NameId × String)
  | .name text id =>
    some (if (net.device? id).isSome || listed.any (fun entry => entry.1 = id) then
      .error (.duplicateDevice text) else .ok (id, text))
  | _ => none

theorem pickName_sound (net : Network) (listed : List (NameId × String)) :
    (pickName net listed).Sound := by
  constructor
  · rintro ⟨kind, offset⟩ h
    cases kind <;> first | rfl | cases h
  · intro kind mistake h
    cases kind with
    | name text id =>
      rw [pickName, Option.some.injEq] at h
      split at h
      · cases h
        rfl
      · cases h
    | _ => cases h

/-- The word that ends a list of names. -/
def pickAs {σ α : Type} (a : α) : Pick (σ ⊕ α)
  | .keyword .as _ => some (.ok (.inr a))
  | _ => none

theorem pickAs_sound {σ α : Type} (a : α) : (pickAs a : Pick (σ ⊕ α)).Sound := by
  constructor
  · rintro ⟨kind, offset⟩ h
    cases kind with
    | keyword word id => cases word <;> first | rfl | cases h
    | _ => cases h
  · intro kind mistake h
    cases kind with
    | keyword word id => cases word <;> cases h
    | _ => cases h

theorem trySymbol_pickAs {σ α : Type} (more : σ) (a : α) (input : List Symbol) :
    trySymbol (.inl more) (pickAs a) input =
      if atKeyword .as input then .ok (.inr a, input.tail) else .ok (.inl more, input) := by
  rcases input with _ | ⟨⟨kind, offset⟩, rest⟩
  · rfl
  · cases kind with
    | keyword word id => cases word <;> rfl
    | _ => rfl

/-- One name of a definition, and the word `as` if this was the last one. -/
def namesTurn (net : Network) (listed : List (NameId × String)) :
    Reader (List (NameId × String) ⊕ List (NameId × String)) := do
  let entry ← readSymbol (if listed.isEmpty then .name else .keyword .as) (pickName net listed)
  trySymbol (.inl (listed ++ [entry])) (pickAs (listed ++ [entry]))

theorem readNames_eq (net : Network) (listed : List (NameId × String)) :
    readNames net listed = namesTurn net listed >>= Sum.elim (readNames net) pure := by
  funext input
  rw [namesTurn, bind_assoc, bind_apply]
  rcases input with _ | ⟨⟨kind, offset⟩, rest⟩
  · rfl
  · cases kind with
    | name text id =>
      rw [readNames]
      dsimp only [readSymbol, pickName]
      split
      · rfl
      · dsimp only
        rw [bind_apply, trySymbol_pickAs]
        by_cases has : atKeyword .as rest
        · rw [if_pos has, if_pos has]
          rfl
        · rw [if_neg has, if_neg has]
          rfl
    | _ => rfl

theorem Hereditary.readNames (h : Hereditary P) (net : Network) (listed : List (NameId × String)) :
    P (List (NameId × String)) (readNames net listed) := by
  refine h.loop (fun listed => ?_) (fun listed input next left hturn => ?_) (readNames_eq net) listed
  · exact h.bind (h.readSymbol _ (pickName_sound net listed)) fun entry => h.trySymbol _ (pickAs_sound _)
  · rw [namesTurn, bind_apply] at hturn
    split at hturn
    · next hentry => exact Nat.lt_of_le_of_lt (length_trySymbol_le hturn) (length_readSymbol_lt hentry)
    · cases hturn

/-- Reads the names of a definition and its body. -/
def readDevices (net : Network) : Reader (List (NameId × String) × DeviceKind) := do
  let listed ← readNames net []
  let kind ← readBody
  return (listed, kind)

theorem Hereditary.readDevices (h : Hereditary P) (net : Network) :
    P (List (NameId × String) × DeviceKind) (readDevices net) :=
  h.bind (h.readNames net []) fun _ => h.bind h.readBody fun _ => h.pure _

/-- Adds devices of one kind, stopping at the first that the network refuses. -/
def addDevices (net : Network) (kind : DeviceKind) :
    List (NameId × String) → Network × Except Fault Unit
  | [] => (net, .ok ())
  | (id, name) :: rest =>
    match net.addDevice id name kind with
    | .ok net => addDevices net kind rest
    | .error fault => (net, .error fault)

/-- Reads a definition of devices, after its first word, which stands at `start`. -/
def define (net : Network) (start : Place) (input : List Symbol) :
    Network × Except Failure (Unit × List Symbol) :=
  match readDevices net input with
  | .error failure => (net, .error failure)
  | .ok ((listed, kind), rest) =>
    match addDevices net kind listed with
    | (net, .ok ()) => (net, readSemicolon rest)
    | (net, .error fault) => (net, .error ⟨.mistake (.ofFault fault), start, rest⟩)

/-! ## Wires -/

/-- Reads the output and the input that a wire is to connect, and the place of the input. -/
def readWire (net : Network) : Reader (OutputRef × InputRef × Place) := do
  let source ← readOutput net
  readKeyword .toWord
  let place ← currentPlace
  let target ← readInput net
  return (source, target, place)

theorem Hereditary.readWire (h : Hereditary P) (hplace : P Place currentPlace) (net : Network) :
    P (OutputRef × InputRef × Place) (readWire net) :=
  h.bind (h.readOutput net) fun _ => h.bind (h.readKeyword rfl) fun _ =>
    h.bind hplace fun _ => h.bind (h.readInput net) fun _ => h.pure _

/-- Reads a connection, after its first word. -/
def connect (table : NameTable) (net : Network) (input : List Symbol) :
    Network × Except Failure (Unit × List Symbol) :=
  match readWire net input with
  | .error failure => (net, .error failure)
  | .ok ((source, target, place), rest) =>
    match net.connect table source target with
    | .ok net => (net, readSemicolon rest)
    | .error fault => (net, .error ⟨.mistake (.ofFault fault), place, rest⟩)

/-! ## Monitors -/

/-- Whether the next symbol is a name. -/
def atName : List Symbol → Bool
  | ⟨.name _ _, _⟩ :: _ => true
  | _ => false

/-- Reads monitored outputs up to the semicolon, after the first word of the statement. -/
def monitor (table : NameTable) (net : Network) (monitors : Monitors) (input : List Symbol) :
    Monitors × Except Failure (Unit × List Symbol) :=
  match _h : readOutput net input with
  | .error failure => (monitors, .error failure)
  | .ok (point, rest) =>
    match monitors.add table net point 0 with
    | .error fault => (monitors, .error ⟨.mistake (.ofFault fault), .ofInput input, rest⟩)
    | .ok monitors =>
      if atName rest then monitor table net monitors rest else (monitors, readSemicolon rest)
  termination_by input.length
  decreasing_by exact length_readOutput_lt _h

/-! ## Statements -/

/-- Reads the statement that starts with a given symbol, followed by `rest`. -/
def statement (table : NameTable) (circuit : Circuit) (first : Symbol) (rest : List Symbol) :
    Circuit × Except Failure (Unit × List Symbol) :=
  if first.isKeyword .define then
    let (network, outcome) := define circuit.network (.atOffset first.offset) rest
    ({ circuit with network }, outcome)
  else if first.isKeyword .connect then
    let (network, outcome) := connect table circuit.network rest
    ({ circuit with network }, outcome)
  else if first.isKeyword .monitor then
    let (monitors, outcome) := monitor table circuit.network circuit.monitors rest
    ({ circuit with monitors }, outcome)
  else
    (circuit, .error (.wanted .statement (first :: rest)))

/-- Whether reading resumes at a symbol. -/
def Symbol.resumes (symbol : Symbol) : Bool :=
  match symbol.kind with
  | .keyword word _ => word.startsStatement
  | _ => false

/-- Passes over the rest of a faulty statement. Characters that no symbol has are reported on the
way, except the one at the place of the failure, which has been reported already. -/
def recover (failedAt : Place) : List Symbol → List Finding × List Symbol
  | [] => ([], [])
  | symbol :: rest =>
    if symbol.kind = .semicolon then ([], rest)
    else if symbol.resumes then ([], symbol :: rest)
    else
      let (findings, left) := recover failedAt rest
      match symbol.kind with
      | .invalid c =>
        let here := Place.atOffset symbol.offset
        if here = failedAt then (findings, left)
        else (⟨.invalidCharacter c, some here⟩ :: findings, left)
      | _ => (findings, left)

/-- What is found after a statement has been read or has failed, and where reading goes on. -/
def resume : Except Failure (Unit × List Symbol) → List Finding × List Symbol
  | .ok (_, rest) => ([], rest)
  | .error failure =>
    let (findings, left) := recover failure.place failure.rest
    (⟨failure.problem, some failure.place⟩ :: findings, left)

/-! ### Progress -/

theorem recover_suffix (failedAt : Place) (input : List Symbol) :
    (recover failedAt input).2 <:+ input := by
  induction input with
  | nil => exact List.suffix_refl []
  | cons symbol rest ih =>
    have hrest := List.suffix_cons symbol rest
    unfold recover
    split
    · exact hrest
    · split
      · exact List.suffix_refl _
      · dsimp only
        split
        · split
          · exact ih.trans hrest
          · exact ih.trans hrest
        · exact ih.trans hrest

/-- Recovery passes over a symbol at which reading does not resume. -/
theorem recover_cons_suffix {failedAt : Place} {symbol : Symbol} {rest : List Symbol}
    (h : symbol.resumes = false) : (recover failedAt (symbol :: rest)).2 <:+ rest := by
  unfold recover
  split
  · exact List.suffix_refl _
  · simp only [h, Bool.false_eq_true, if_false]
    split
    · split
      · exact recover_suffix ..
      · exact recover_suffix ..
    · exact recover_suffix ..

theorem resume_suffix {input : List Symbol} {outcome : Except Failure (Unit × List Symbol)}
    (h : StaysWithin input outcome) : (resume outcome).2 <:+ input := by
  match outcome, h with
  | .ok (_, _), h => exact h
  | .error failure, h => exact (recover_suffix failure.place failure.rest).trans h

theorem readDevices_staysWithin (net : Network) (input : List Symbol) :
    StaysWithin input (readDevices net input) :=
  StaysWithin.hereditary.readDevices net input

theorem define_staysWithin (net : Network) (start : Place) (input : List Symbol) :
    StaysWithin input (define net start input).2 := by
  have hdevices := readDevices_staysWithin net input
  unfold define
  split
  · next failure h =>
    rw [h] at hdevices
    exact hdevices
  · next listed kind rest h =>
    rw [h] at hdevices
    split
    · exact (readSemicolon_staysWithin rest).mono hdevices
    · exact hdevices

theorem readWire_staysWithin (net : Network) (input : List Symbol) :
    StaysWithin input (readWire net input) :=
  StaysWithin.hereditary.readWire (fun input => List.suffix_refl input) net input

theorem connect_staysWithin (table : NameTable) (net : Network) (input : List Symbol) :
    StaysWithin input (connect table net input).2 := by
  have hwire := readWire_staysWithin net input
  unfold connect
  split
  · next failure h =>
    rw [h] at hwire
    exact hwire
  · next source target place rest h =>
    rw [h] at hwire
    split
    · exact (readSemicolon_staysWithin rest).mono hwire
    · exact hwire

theorem monitor_staysWithin (table : NameTable) (net : Network) (monitors : Monitors)
    (input : List Symbol) : StaysWithin input (monitor table net monitors input).2 := by
  have houtput := readOutput_staysWithin net input
  rw [monitor]
  split
  · next failure h =>
    rw [h] at houtput
    exact houtput
  · next point rest h =>
    rw [h] at houtput
    split
    · exact houtput
    · split
      · exact (monitor_staysWithin table net _ _).mono houtput
      · exact (readSemicolon_staysWithin _).mono houtput
  termination_by input.length
  decreasing_by exact length_readOutput_lt (by assumption)

/-- However a statement ends, reading goes on behind its first symbol. -/
theorem resume_statement_suffix {table : NameTable} {circuit : Circuit} {first : Symbol}
    {rest : List Symbol} (hend : first.isKeyword .endWord = false) :
    (resume (statement table circuit first rest).2).2 <:+ rest := by
  unfold statement
  split
  · exact resume_suffix (define_staysWithin ..)
  · next hdefine =>
    split
    · exact resume_suffix (connect_staysWithin ..)
    · next hconnect =>
      split
      · exact resume_suffix (monitor_staysWithin ..)
      · next hmonitor =>
        simp only [resume, Failure.rest_wanted]
        refine recover_cons_suffix ?_
        obtain ⟨kind, offset⟩ := first
        cases kind with
        | keyword word id =>
          cases word <;>
            simp_all [Symbol.isKeyword, SymbolKind.isKeyword, Symbol.resumes,
              Keyword.startsStatement]
        | _ => rfl

/-- Reads statements up to `END` or to the end of the input, where `END` is missed. -/
def statements (table : NameTable) (circuit : Circuit) (input : List Symbol) :
    Circuit × List Finding :=
  match input with
  | [] => (circuit, [⟨.wanted .finalEnd, none⟩])
  | first :: rest =>
    if _h : first.isKeyword .endWord then (circuit, [])
    else
      let after := statement table circuit first rest
      let resumed := resume after.2
      let later := statements table after.1 resumed.2
      (later.1, resumed.1 ++ later.2)
  termination_by input.length
  decreasing_by
    exact Nat.lt_succ_of_le (List.IsSuffix.length_le (resume_statement_suffix (by simpa using _h)))

end LogicCircuit.Definition
