import LogicCircuit.Definition.Reading

/-!
# Failures — what goes wrong while reading is an error

A reader fails with what the grammar wants, or with a mistake that can be told from the symbols and the
devices there are (`Raised`), and always at the first symbol that it has not read. Two mistakes are none of
its own: that a circuit refuses something for a reason of its own, and the one warning, which is about
inputs that nothing drives and is given for a circuit as a whole. So everything found while reading
statements is an error (`severity_statements`).
-/

namespace LogicCircuit.Definition

/-! ## Readers -/

/-- What a reader fails with. -/
inductive Raised : Failure → Prop where
  | wanted (what : Wanted) (input : List Symbol) : Raised (.wanted what input)
  | mistake {what : Mistake} (hwhat : what.isRead) (input : List Symbol) : Raised (.mistake what input)

namespace Raised

variable {failure : Failure}

/-- It is blamed on the first symbol that is unread. -/
theorem place_eq (h : Raised failure) : failure.place = .ofInput failure.rest := by
  cases h with
  | wanted what input =>
    unfold Failure.wanted
    split <;> rfl
  | mistake hwhat input => rfl

/-- It is an error. -/
theorem severity_eq (h : Raised failure) : failure.problem.severity = .error := by
  cases h with
  | wanted what input =>
    unfold Failure.wanted
    split <;> rfl
  | @mistake what hwhat input => cases what <;> first | rfl | cases hwhat

/-- It is not what a circuit refuses for a reason of its own. -/
theorem ne_refused (h : Raised failure) (message : String) :
    failure.problem ≠ .mistake (.refused message) := by
  cases h with
  | wanted what input =>
    unfold Failure.wanted
    split <;> nofun
  | mistake hwhat input =>
    rintro ⟨⟩
    cases hwhat

end Raised

/-- A failure, if any, is one of a reader. -/
def Raises {α : Type} : Except Failure α → Prop
  | .ok _ => True
  | .error failure => Raised failure

namespace Raises

variable {α β : Type} {input : List Symbol}

theorem wanted (what : Wanted) : Raises (.error (.wanted what input) : Except Failure α) :=
  Raised.wanted what input

theorem mistake {what : Mistake} (hwhat : what.isRead) :
    Raises (.error (.mistake what input) : Except Failure α) :=
  Raised.mistake hwhat input

/-- An outcome that is taken over keeps its failure. -/
theorem of_eq_error {outcome : Except Failure α} {failure : Failure} (h : Raises outcome)
    (heq : outcome = .error failure) : Raises (.error failure : Except Failure β) := by
  rw [heq] at h
  exact h

end Raises

/-- **Readers** fail with what they want, or with a mistake of the symbol that they stop at. -/
theorem Raises.hereditary : Hereditary fun _ reader => ∀ input, Raises (reader input) where
  pure _ _ := trivial
  bind {α β first next} hfirst hnext input := by
    rw [bind_apply]
    cases hrun : first input with
    | error failure => exact (hfirst input).of_eq_error hrun
    | ok outcome => exact hnext outcome.1 outcome.2
  readSymbol what pick hpick input := by
    unfold readSymbol
    split
    · exact .wanted what
    · next symbol rest =>
      split
      · trivial
      · next mistake hmistake => exact .mistake (hpick.isRead _ _ hmistake)
      · exact .wanted what
  trySymbol default pick hpick input := by
    unfold trySymbol
    split
    · trivial
    · next symbol rest =>
      split
      · trivial
      · next mistake hmistake => exact .mistake (hpick.isRead _ _ hmistake)
      · trivial
  readPortDot text input := by
    unfold readPortDot
    split
    · trivial
    · exact .mistake rfl
  loop {σ α turn reader} hturn hshorter heq := by
    intro state input
    -- the induction is on the length of what is left to read
    induction hlength : input.length using Nat.strongRecOn generalizing state input with
    | _ length ih =>
      subst hlength
      rw [heq, bind_apply]
      cases hrun : turn state input with
      | error failure => exact (hturn state input).of_eq_error hrun
      | ok outcome =>
        obtain ⟨next, left⟩ := outcome
        cases next with
        | inl next => exact ih _ (hshorter _ _ _ _ hrun) next left rfl
        | inr a => trivial

theorem raises_readSemicolon (input : List Symbol) : Raises (readSemicolon input) := by
  unfold readSemicolon
  split
  · trivial
  · exact .wanted _

theorem raises_readOutput (net : Network) (input : List Symbol) : Raises (readOutput net input) :=
  Raises.hereditary.readOutput net input

theorem raises_readDevices (net : Network) (input : List Symbol) : Raises (readDevices net input) :=
  Raises.hereditary.readDevices net input

theorem raises_readWire (net : Network) (input : List Symbol) : Raises (readWire net input) :=
  Raises.hereditary.readWire (fun _ => trivial) net input

/-! ## Statements -/

/-- A failure, if any, is an error. -/
def Grave {α : Type} : Except Failure α → Prop
  | .ok _ => True
  | .error failure => failure.problem.severity = .error

/-- What readers fail with is an error. -/
theorem Raises.grave {α : Type} {outcome : Except Failure α} (h : Raises outcome) : Grave outcome := by
  cases outcome with
  | ok read => trivial
  | error failure => exact Raised.severity_eq h

/-- What a circuit refuses is an error. -/
theorem severity_ofFault (fault : Fault) : (Mistake.ofFault fault).severity = .error := by
  cases fault <;> rfl

/-- A definition that fails is an error. -/
theorem grave_define (net : Network) (start : Place) (input : List Symbol) :
    Grave (define net start input).2 := by
  unfold define
  split
  · next failure h => exact ((raises_readDevices net input).of_eq_error h).grave
  · split
    · exact (raises_readSemicolon _).grave
    · exact severity_ofFault _

/-- A connection that fails is an error. -/
theorem grave_connect (table : NameTable) (net : Network) (input : List Symbol) :
    Grave (connect table net input).2 := by
  unfold connect
  split
  · next failure h => exact ((raises_readWire net input).of_eq_error h).grave
  · split
    · exact (raises_readSemicolon _).grave
    · exact severity_ofFault _

/-- Monitors that fail are errors. -/
theorem grave_monitor (table : NameTable) (net : Network) (monitors : Monitors)
    (input : List Symbol) : Grave (monitor table net monitors input).2 := by
  rw [monitor]
  split
  · next failure h => exact ((raises_readOutput net input).of_eq_error h).grave
  · next point rest h =>
    split
    · exact severity_ofFault _
    · split
      · exact grave_monitor table net _ rest
      · exact (raises_readSemicolon rest).grave
  termination_by input.length
  decreasing_by exact length_readOutput_lt (by assumption)

/-- A statement that fails is an error. -/
theorem grave_statement (table : NameTable) (circuit : Circuit) (first : Symbol)
    (rest : List Symbol) : Grave (statement table circuit first rest).2 := by
  unfold statement
  split
  · exact grave_define ..
  · split
    · exact grave_connect ..
    · split
      · exact grave_monitor ..
      · exact (Raises.wanted .statement).grave

/-! ## Findings -/

/-- The characters that recovery reports are errors. -/
theorem severity_recover (failedAt : Place) (input : List Symbol) :
    ∀ finding ∈ (recover failedAt input).1, finding.problem.severity = .error := by
  induction input with
  | nil =>
    intro finding h
    cases h
  | cons symbol rest ih =>
    unfold recover
    split
    · intro finding h
      cases h
    · split
      · intro finding h
        cases h
      · dsimp only
        split
        · split
          · exact ih
          · exact List.forall_mem_cons.2 ⟨rfl, ih⟩
        · exact ih

/-- The failure and what recovery reports are errors. -/
theorem severity_resume {outcome : Except Failure (Unit × List Symbol)} (h : Grave outcome) :
    ∀ finding ∈ (resume outcome).1, finding.problem.severity = .error := by
  cases outcome with
  | ok read =>
    intro finding hmem
    cases hmem
  | error failure => exact List.forall_mem_cons.2 ⟨h, severity_recover _ _⟩

/-- **Everything found while reading statements is an error.** -/
theorem severity_statements (table : NameTable) (circuit : Circuit) (input : List Symbol) :
    ∀ finding ∈ (statements table circuit input).2, finding.problem.severity = .error := by
  rw [statements.eq_def]
  split
  · exact List.forall_mem_singleton.2 rfl
  · next first rest =>
    split
    · intro finding h
      cases h
    · next hend =>
      have hshorter : (resume (statement table circuit first rest).2).2.length < rest.length + 1 :=
        Nat.lt_succ_of_le (resume_statement_suffix (Bool.eq_false_iff.2 hend)).length_le
      -- what is found in one statement stands in front of what is found in those behind it
      exact List.forall_mem_append.2 ⟨severity_resume (grave_statement table circuit first rest),
        severity_statements table _ _⟩
  termination_by input.length

end LogicCircuit.Definition
