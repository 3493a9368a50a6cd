import LogicCircuit.Proofs.Definition.Requests

/-!
# Interruption — statements that are cut off by what follows

A statement that is not finished is cut off by the next word that starts a statement, or by `END`. It
does not matter which of these words that is: no reader passes over one of them, and none tells them
apart. What a statement does and what is found wrong with it is settled by the symbols in front of the
word.

* **`Parallel`** — outcomes on two inputs that begin alike and go on with different words of this kind.
* **`Interruptible`** — a reader that has parallel outcomes. This is hereditary
  (`Interruptible.hereditary`).
* **`cutsAlike_statement`** — so it is for whole statements, and `resume_of_parallel` is about what is
  passed over after one of them.
* **`statements_table`** — nor does it matter what the table holds: it is only asked about devices that
  do not exist, and readers let none of those through.
* **`statements_append`** — symbols in front of such a word are read with no regard to what follows, and
  what follows is read on top of what they have built.
-/

namespace LogicCircuit.Definition

/-- The input starts with a word that starts a statement, or with `END`. -/
def Opens (input : List Symbol) : Prop :=
  ∃ word id offset rest, input = ⟨.keyword word id, offset⟩ :: rest ∧ word.startsStatement

/-- Outcomes on two inputs that begin alike, where one goes on with `tail` and the other with `tail'`.
The same has been read, and the same is left in front of the tails. -/
inductive Parallel {α : Type} (tail tail' : List Symbol) :
    Except Failure (α × List Symbol) → Except Failure (α × List Symbol) → Prop where
  | ok (a : α) (front : List Symbol) :
      Parallel tail tail' (.ok (a, front ++ tail)) (.ok (a, front ++ tail'))
  /-- The tails are not what was wanted, and both are blamed where they stand. -/
  | cutOff (problem : Problem) (place place' : Place) :
      Parallel tail tail' (.error ⟨problem, place, tail⟩) (.error ⟨problem, place', tail'⟩)
  | error (problem : Problem) (place : Place) (front : List Symbol) :
      Parallel tail tail' (.error ⟨problem, place, front ++ tail⟩)
        (.error ⟨problem, place, front ++ tail'⟩)

/-- A reader that does the same whichever word cuts its input off. -/
def Interruptible {α : Type} (reader : Reader α) : Prop :=
  ∀ ⦃tail tail' : List Symbol⦄, Opens tail → Opens tail' → ∀ front,
    Parallel tail tail' (reader (front ++ tail)) (reader (front ++ tail'))

variable {α β : Type} {net : Network} {table : NameTable} {circuit : Circuit}
  {word : Keyword} {front tail tail' : List Symbol}

/-! ## Looking ahead -/

/-- Looking for a name stops at the word that cuts the input off. -/
theorem atName_append (h : Opens tail) : atName (front ++ tail) = atName front := by
  obtain ⟨found, id, offset, rest, rfl, -⟩ := h
  rcases front with _ | ⟨⟨kind, offset⟩, others⟩
  · rfl
  · cases kind <;> rfl

/-! ## Outcomes -/

namespace Parallel

/-- Where something else is wanted, the failure is at the same symbol, or at the words that cut the inputs
off. -/
theorem wanted (h : Opens tail) (h' : Opens tail') (what : Wanted) (front : List Symbol) :
    Parallel tail tail' (.error (.wanted what (front ++ tail)) : Except Failure (α × List Symbol))
      (.error (.wanted what (front ++ tail'))) := by
  rcases front with _ | ⟨⟨kind, offset⟩, others⟩
  · obtain ⟨word, id, offset, rest, rfl, -⟩ := h
    obtain ⟨word', id', offset', rest', rfl, -⟩ := h'
    exact .cutOff _ _ _
  · cases kind with
    | invalid c => exact .error _ _ (⟨.invalid c, offset⟩ :: others)
    | _ => exact .error _ _ (_ :: others)

end Parallel

/-- A reader that wants something else than a tail fails at once on any of them, which leaves the inputs
that have a symbol in front of it. -/
theorem Interruptible.of_wanted {reader : Reader α} (what : Wanted)
    (hwanted : ∀ tail, Opens tail → reader tail = .error (.wanted what tail))
    (hcons : ∀ ⦃tail tail' : List Symbol⦄, Opens tail → Opens tail' → ∀ symbol others,
      Parallel tail tail' (reader (symbol :: others ++ tail)) (reader (symbol :: others ++ tail'))) :
    Interruptible reader := by
  intro tail tail' h h' front
  cases front with
  | nil =>
    rw [List.nil_append, List.nil_append, hwanted tail h, hwanted tail' h']
    exact .wanted h h' what []
  | cons symbol others => exact hcons h h' symbol others

/-! ## Single symbols -/

section Pick

variable {pick : Pick α} {id : NameId}

/-- No word that cuts off an input is looked for. -/
theorem Pick.Sound.eq_none (hpick : pick.Sound) (hword : word.startsStatement) :
    pick (.keyword word id) = none := by
  cases hfound : pick (.keyword word id) with
  | none => rfl
  | some found =>
    have hplain := hpick.plain ⟨.keyword word id, 0⟩ (by rw [hfound]; rfl)
    simp [Symbol.plain, hword] at hplain

/-- What reads one symbol fails at a word that cuts the input off. -/
theorem readSymbol_of_opens (hpick : pick.Sound) (what : Wanted) (h : Opens tail) :
    readSymbol what pick tail = .error (.wanted what tail) := by
  obtain ⟨word, id, offset, rest, rfl, hword⟩ := h
  have hnone : pick (.keyword word id) = none := hpick.eq_none hword
  rw [readSymbol, hnone]

/-- What reads one symbol if it can takes nothing of it. -/
theorem trySymbol_of_opens (hpick : pick.Sound) (default : α) (h : Opens tail) :
    trySymbol default pick tail = .ok (default, tail) := by
  obtain ⟨word, id, offset, rest, rfl, hword⟩ := h
  have hnone : pick (.keyword word id) = none := hpick.eq_none hword
  rw [trySymbol, hnone]

end Pick

/-- **Readers** do the same whichever word cuts their input off. -/
theorem Interruptible.hereditary : Hereditary fun _ reader => Interruptible reader where
  pure a _ _ _ _ front := .ok a front
  bind {α β first next} hfirst hnext := by
    -- what is left behind the first reader goes on with the tails again
    intro tail tail' h h' front
    have hparallel := hfirst h h' front
    rw [bind_apply, bind_apply]
    generalize first (front ++ tail) = outcome at hparallel ⊢
    generalize first (front ++ tail') = outcome' at hparallel ⊢
    cases hparallel with
    | ok a left => exact hnext a h h' left
    | cutOff problem place place' => exact .cutOff problem place place'
    | error problem place left => exact .error problem place left
  readSymbol what pick hpick := by
    refine .of_wanted what (fun tail h => readSymbol_of_opens hpick what h)
      fun tail tail' h h' symbol others => ?_
    simp only [List.cons_append, readSymbol]
    rcases pick symbol.kind with _ | _ | _
    · exact .wanted h h' what (symbol :: others)
    · exact .error _ _ (symbol :: others)
    · exact .ok _ others
  trySymbol default pick hpick := by
    intro tail tail' h h' front
    cases front with
    | nil =>
      rw [List.nil_append, List.nil_append, trySymbol_of_opens hpick default h,
        trySymbol_of_opens hpick default h']
      exact .ok default []
    | cons symbol others =>
      simp only [List.cons_append, trySymbol]
      rcases pick symbol.kind with _ | _ | _
      · exact .ok default (symbol :: others)
      · exact .error _ _ (symbol :: others)
      · exact .ok _ others
  readPortDot text := by
    rintro tail tail' ⟨word, id, offset, rest, rfl, -⟩ ⟨word', id', offset', rest', rfl, -⟩ front
    rcases front with _ | ⟨⟨kind, offset⟩, others⟩
    · exact .cutOff _ _ _
    · cases kind with
      | fullStop => exact .ok () others
      | _ => exact .error _ _ (_ :: others)
  loop {σ α turn reader} hturn hshorter heq := by
    intro state tail tail' h h' front
    -- the induction is on the length of what is left in front of the tails
    induction hlength : front.length using Nat.strongRecOn generalizing state front with
    | _ length ih =>
      subst hlength
      have hparallel := hturn state h h' front
      rw [heq, bind_apply, bind_apply]
      generalize hrun : turn state (front ++ tail) = outcome at hparallel ⊢
      generalize turn state (front ++ tail') = outcome' at hparallel ⊢
      cases hparallel with
      | ok next left =>
        cases next with
        | inl next =>
          have hlt := hshorter _ _ _ _ hrun
          rw [List.length_append, List.length_append] at hlt
          exact ih left.length (by omega) next left rfl
        | inr a => exact .ok a left
      | cutOff problem place place' => exact .cutOff problem place place'
      | error problem place left => exact .error problem place left

/-- A semicolon is read or missed alike. -/
theorem interruptible_readSemicolon : Interruptible readSemicolon := by
  refine .of_wanted .semicolon ?_ ?_
  · rintro _ ⟨word, id, offset, rest, rfl, -⟩
    rfl
  · rintro tail tail' h h' ⟨kind, offset⟩ others
    cases kind with
    | semicolon => exact .ok () others
    | _ => exact .wanted h h' .semicolon (_ :: others)

/-! ## Statements -/

/-- Readers of references fail at once where no name stands. -/
theorem readInput_of_opens (h : Opens tail) :
    readInput net tail = .error (.wanted .name tail) := by
  obtain ⟨word, id, offset, rest, rfl, -⟩ := h
  rfl

/-- The place of an input is looked at only where a name follows. -/
theorem interruptible_readWire (net : Network) : Interruptible (readWire net) := by
  have hreaders := Interruptible.hereditary
  refine hreaders.bind (hreaders.readOutput net) fun source =>
    hreaders.bind (hreaders.readKeyword rfl) fun _ => .of_wanted .name (fun tail h => ?_) ?_
  · simp only [bind_apply, currentPlace, readInput_of_opens h]
  · intro tail tail' h h' symbol others
    have hinput := hreaders.bind (hreaders.readInput net) fun target =>
      hreaders.pure (source, target, Place.atOffset symbol.offset)
    exact hinput h h' (symbol :: others)

/-- A statement that does the same whichever word cuts its input off. -/
def CutsAlike {α : Type} (read : List Symbol → α × Except Failure (Unit × List Symbol)) : Prop :=
  ∀ ⦃tail tail' : List Symbol⦄, Opens tail → Opens tail' → ∀ front,
    (read (front ++ tail)).1 = (read (front ++ tail')).1 ∧
      Parallel tail tail' (read (front ++ tail)).2 (read (front ++ tail')).2

/-- A definition does the same whichever word cuts it off. -/
theorem cutsAlike_define (net : Network) (start : Place) : CutsAlike (define net start) := by
  intro tail tail' h h' front
  have hdevices := Interruptible.hereditary.readDevices net h h' front
  simp only [define]
  generalize readDevices net (front ++ tail) = outcome at hdevices ⊢
  generalize readDevices net (front ++ tail') = outcome' at hdevices ⊢
  cases hdevices with
  | ok read left =>
    obtain ⟨listed, kind⟩ := read
    dsimp only
    rcases addDevices net kind listed with ⟨added, _ | _⟩
    · exact ⟨rfl, .error _ _ left⟩
    · exact ⟨rfl, interruptible_readSemicolon h h' left⟩
  | cutOff problem place place' => exact ⟨rfl, .cutOff problem place place'⟩
  | error problem place left => exact ⟨rfl, .error problem place left⟩

/-- A connection does the same whichever word cuts it off. -/
theorem cutsAlike_connect (table : NameTable) (net : Network) : CutsAlike (connect table net) := by
  intro tail tail' h h' front
  have hwire := interruptible_readWire net h h' front
  simp only [connect]
  generalize readWire net (front ++ tail) = outcome at hwire ⊢
  generalize readWire net (front ++ tail') = outcome' at hwire ⊢
  cases hwire with
  | ok read left =>
    obtain ⟨source, target, place⟩ := read
    dsimp only
    cases net.connect table source target with
    | error fault => exact ⟨rfl, .error _ place left⟩
    | ok after => exact ⟨rfl, interruptible_readSemicolon h h' left⟩
  | cutOff problem place place' => exact ⟨rfl, .cutOff problem place place'⟩
  | error problem place left => exact ⟨rfl, .error problem place left⟩

/-- Monitors are added alike whichever word cuts them off. -/
theorem cutsAlike_monitor (table : NameTable) (net : Network) (monitors : Monitors) :
    CutsAlike (monitor table net monitors) := by
  intro tail tail' h h' front
  have hpoint := Interruptible.hereditary.readOutput net h h' front
  rw [monitor_eq, monitor_eq monitors (front ++ tail')]
  generalize hread : readOutput net (front ++ tail) = outcome at hpoint ⊢
  generalize readOutput net (front ++ tail') = outcome' at hpoint ⊢
  cases hpoint with
  | ok point left =>
    have hshorter : left.length < front.length := by
      have hlt := length_readOutput_lt hread
      rw [List.length_append, List.length_append] at hlt
      omega
    dsimp only
    cases monitors.add table net point 0 with
    | error fault =>
      -- an output that has been read stands in front of the tails, so the place is the same
      cases front with
      | nil => exact absurd hshorter (Nat.not_lt_zero _)
      | cons symbol others => exact ⟨rfl, .error _ _ left⟩
    | ok added =>
      dsimp only
      rw [atName_append h, atName_append h']
      split
      · exact cutsAlike_monitor table net added h h' left
      · exact ⟨rfl, interruptible_readSemicolon h h' left⟩
  | cutOff problem place place' => exact ⟨rfl, .cutOff problem place place'⟩
  | error problem place left => exact ⟨rfl, .error problem place left⟩
  termination_by _ _ _ _ front => front.length

/-- **A statement** does the same whichever word cuts it off. -/
theorem cutsAlike_statement (table : NameTable) (circuit : Circuit) (first : Symbol) :
    CutsAlike (statement table circuit first) := by
  intro tail tail' h h' front
  simp only [statement]
  split
  · obtain ⟨hnet, hleft⟩ := cutsAlike_define circuit.network (.atOffset first.offset) h h' front
    exact ⟨congrArg (fun network => { circuit with network }) hnet, hleft⟩
  · split
    · obtain ⟨hnet, hleft⟩ := cutsAlike_connect table circuit.network h h' front
      exact ⟨congrArg (fun network => { circuit with network }) hnet, hleft⟩
    · split
      · obtain ⟨hmonitors, hleft⟩ :=
          cutsAlike_monitor table circuit.network circuit.monitors h h' front
        exact ⟨congrArg (fun monitors => { circuit with monitors }) hmonitors, hleft⟩
      · exact ⟨rfl, .wanted h h' .statement (first :: front)⟩

/-! ## Tables -/

/-- The table is only asked for the names of devices that do not exist, and no wire is read that ends at
one of them. -/
theorem connect_table (table table' : NameTable) (net : Network) (input : List Symbol) :
    connect table net input = connect table' net input := by
  unfold connect
  cases hread : readWire net input with
  | error failure => rfl
  | ok read =>
    obtain ⟨⟨source, target, place⟩, left⟩ := read
    obtain ⟨device, hconnect⟩ := exists_connect_eq hread
    simp only [hconnect]

/-- The table is only asked for outputs that do not exist, and none of those is read. -/
theorem monitor_table (table table' : NameTable) (net : Network) (monitors : Monitors)
    (input : List Symbol) : monitor table net monitors input = monitor table' net monitors input := by
  rw [monitor_eq, monitor_eq]
  cases hread : readOutput net input with
  | error failure => rfl
  | ok read =>
    obtain ⟨point, left⟩ := read
    obtain ⟨signal, hadd⟩ := exists_add_eq hread
    simp only [hadd, monitor_table table table' net _ left]
  termination_by input.length
  decreasing_by exact length_readOutput_lt hread

/-- A statement does the same whatever the table holds. -/
theorem statement_table (table table' : NameTable) (circuit : Circuit) (first : Symbol)
    (rest : List Symbol) :
    statement table circuit first rest = statement table' circuit first rest := by
  simp only [statement, connect_table table table', monitor_table table table']

/-- **Statements** do the same whatever the table holds. -/
theorem statements_table (table table' : NameTable) (circuit : Circuit) (input : List Symbol) :
    statements table circuit input = statements table' circuit input := by
  rcases input with _ | ⟨first, rest⟩
  · rw [statements, statements]
  · by_cases hend : first.isKeyword .endWord
    · rw [statements, dif_pos hend, statements, dif_pos hend]
    · have hshorter : (resume (statement table' circuit first rest).2).2.length < rest.length + 1 :=
        Nat.lt_succ_of_le (resume_statement_suffix (Bool.eq_false_iff.2 hend)).length_le
      rw [statements, dif_neg hend, statements, dif_neg hend, statement_table table table']
      dsimp only
      rw [statements_table table table']
  termination_by input.length

/-! ## Runs -/

/-- What a finding says, and whether it has a place to show. -/
def Finding.gist (finding : Finding) : Problem × Bool :=
  (finding.problem, finding.place.isSome)

/-- A statement that is not closed ends where the tail starts. -/
theorem cut_append_of_opens (h : Opens tail) (front : List Symbol) :
    cut (front ++ tail) = ((cut front).1, (cut front).2 ++ tail) := by
  induction front with
  | nil =>
    obtain ⟨word, id, offset, rest, rfl, hword⟩ := h
    have hresumes : Symbol.resumes ⟨.keyword word id, offset⟩ := hword
    simp only [List.nil_append, cut, hresumes, reduceCtorEq, if_false, if_true]
  | cons symbol others ih =>
    rw [List.cons_append, cut, cut, ih]
    split
    · rfl
    · split <;> rfl

/-- Reading goes on at the same symbol, and the same has been reported. -/
theorem resume_of_parallel (h : Opens tail) (h' : Opens tail')
    {outcome outcome' : Except Failure (Unit × List Symbol)}
    (hparallel : Parallel tail tail' outcome outcome') :
    ∃ left, (resume outcome).2 = left ++ tail ∧ (resume outcome').2 = left ++ tail' ∧
      (resume outcome).1.map Finding.gist = (resume outcome').1.map Finding.gist := by
  cases hparallel with
  | ok read left => exact ⟨left, rfl, rfl, rfl⟩
  | cutOff problem place place' =>
    have hcut := cut_append_of_opens h []
    have hcut' := cut_append_of_opens h' []
    rw [List.nil_append] at hcut hcut'
    -- nothing is left in front of the tails, so no stray character is there either
    simp only [resume, recover_eq, hcut, hcut']
    exact ⟨[], rfl, rfl, rfl⟩
  | error problem place left =>
    simp only [resume, recover_eq, cut_append_of_opens h, cut_append_of_opens h']
    exact ⟨(cut left).2, rfl, rfl, trivial⟩

/-- Reading `front ++ tail` comes to reading the tail onto the circuit `after`, and finding the gists in
front of it. -/
def ReadsOn (table : NameTable) (circuit : Circuit) (front tail : List Symbol) (after : Circuit)
    (gists : List (Problem × Bool)) : Prop :=
  (statements table circuit (front ++ tail)).1 = (statements table after tail).1 ∧
    (statements table circuit (front ++ tail)).2.map Finding.gist
      = gists ++ (statements table after tail).2.map Finding.gist

/-- A statement more is read in front. -/
theorem ReadsOn.cons {first : Symbol} {rest left : List Symbol} {after : Circuit}
    {gists : List (Problem × Bool)} (hfirst : first.isKeyword .endWord = false)
    (hleft : (resume (statement table circuit first (rest ++ tail)).2).2 = left ++ tail)
    (h : ReadsOn table (statement table circuit first (rest ++ tail)).1 left tail after gists) :
    ReadsOn table circuit (first :: rest) tail after
      ((resume (statement table circuit first (rest ++ tail)).2).1.map Finding.gist ++ gists) := by
  obtain ⟨hafter, hfound⟩ := h
  rw [← hleft] at hafter hfound
  unfold ReadsOn
  simp only [List.cons_append, statements_cons (Bool.eq_false_iff.1 hfirst), List.map_append, hfound,
    List.append_assoc]
  exact ⟨hafter, trivial⟩

/-- **Runs.** Symbols without `END` leave the same circuit, and the same is found among them, whichever
word stands behind them. -/
theorem statements_append (h : Opens tail) (h' : Opens tail') (table : NameTable) (circuit : Circuit)
    (front : List Symbol) (hend : ∀ symbol ∈ front, symbol.isKeyword .endWord = false) :
    ∃ after gists, ReadsOn table circuit front tail after gists ∧
      ReadsOn table circuit front tail' after gists := by
  match front, hend with
  | [], _ => exact ⟨circuit, [], ⟨rfl, rfl⟩, ⟨rfl, rfl⟩⟩
  | first :: rest, hend =>
    obtain ⟨hfirst, hrest⟩ := List.forall_mem_cons.1 hend
    obtain ⟨hcircuit, hparallel⟩ := cutsAlike_statement table circuit first h h' rest
    obtain ⟨left, hleft, hleft', hgists⟩ := resume_of_parallel h h' hparallel
    -- what is left of the front is a part of it, so it is shorter and has no `END` either
    have hsuffix : left <:+ rest := by
      have hwithin : (resume (statement table circuit first (rest ++ tail)).2).2 <:+ rest ++ tail :=
        resume_statement_suffix hfirst
      rw [hleft] at hwithin
      obtain ⟨passed, hpassed⟩ := hwithin
      rw [← List.append_assoc] at hpassed
      exact ⟨passed, List.append_cancel_right hpassed⟩
    obtain ⟨after, gists, hreads, hreads'⟩ :=
      statements_append h h' table (statement table circuit first (rest ++ tail)).1 left
        fun symbol hmem => hrest symbol (hsuffix.subset hmem)
    rw [hcircuit] at hreads'
    refine ⟨after, _, .cons hfirst hleft hreads, ?_⟩
    rw [hgists]
    exact .cons hfirst hleft' hreads'
  termination_by front.length
  decreasing_by exact Nat.lt_succ_of_le hsuffix.length_le

end LogicCircuit.Definition
