import LogicCircuit.CommandLine.Command
import LogicCircuit.Panel
import LogicCircuit.Proofs.Operations
import LogicCircuit.Proofs.Texts

/-!
# Fronts — panels and the command

Both put a session to use and add nothing to what it does. A panel keeps the session that its operations lead
to, with the wording of the last fault. The command sets its switches and runs the session, and its exit code
tells whether all of that succeeded.

* **`Panel.performAll_append`** — a panel after any operations, and what it says about the last one.
* **`CommandLine.simulate_spec`** — exit code, traces and report of a simulation.
* **`CommandLine.run_code_eq_zero_iff`** — when the command succeeds.
* **`CommandLine.Arguments.read_words`** — arguments are read as they are written.
-/

namespace LogicCircuit

open Session (Operation)

namespace Session

/-- All of the operations succeed, one after the other. -/
def Succeeds (session : Session) : List Operation → Prop
  | [] => True
  | operation :: others =>
    (session.perform operation).2 = .ok () ∧ (session.perform operation).1.Succeeds others

/-- Operations in two parts succeed if the first part does, and then the second one. -/
theorem succeeds_append {session : Session} (operations others : List Operation) :
    session.Succeeds (operations ++ others) ↔
      session.Succeeds operations ∧ (session.performAll operations).Succeeds others := by
  induction operations generalizing session with
  | nil => simp [Succeeds]
  | cons operation operations ih =>
    rw [List.cons_append, Succeeds, Succeeds, performAll_cons, ih, and_assoc]

/-- A definition without errors gives a session, and any other is refused. -/
theorem ofDefinition_eq (text : String) : ofDefinition text =
    if (Definition.read text).isOk then .ok (load text none).1
    else .error (.parseFailed (Definition.read text).errorCount) := by
  simp only [Definition.Reading.isOk, decide_eq_true_eq]
  rfl

end Session

/-! ## Panels -/

namespace Panel

/-- The panel after an operation, and whether the operation succeeded. -/
def perform (panel : Panel) : Operation → Panel × Bool
  | .run cycles => panel.run cycles
  | .continueRun cycles => panel.continueRun cycles
  | .setSwitch name level => panel.setSwitch name level
  | .addMonitor signal => panel.addMonitor signal
  | .removeMonitor signal => panel.removeMonitor signal

def performAll (panel : Panel) (operations : List Operation) : Panel :=
  operations.foldl (fun panel operation => (panel.perform operation).1) panel

theorem accept_eq (panel : Panel) (result : Except Fault Session) :
    panel.accept result = conclude (panel.session.accept result) := by
  cases result <;> rfl

/-- **An operation** does to the session what it does without a panel. -/
theorem perform_eq (panel : Panel) (operation : Operation) :
    panel.perform operation = conclude (panel.session.perform operation) := by
  cases operation with
  | run cycles => rfl
  | continueRun cycles => rfl
  | setSwitch name level => exact accept_eq panel _
  | addMonitor signal => exact accept_eq panel _
  | removeMonitor signal => exact accept_eq panel _

/-- The session, the answer and the wording of what a panel has been told. -/
theorem conclude_spec (result : Session × Except Fault Unit) :
    (conclude result).1.session = result.1 ∧ ((conclude result).2 = true ↔ result.2 = .ok ()) ∧
      ∀ message, (conclude result).1.lastError = some message ↔
        ∃ fault, result.2 = .error fault ∧ message = fault.message := by
  obtain ⟨session, _ | _⟩ := result
  · simp [conclude, eq_comm]
  · simp [conclude]

/-- A panel holds the session that its operations lead to. -/
theorem session_performAll (panel : Panel) (operations : List Operation) :
    (panel.performAll operations).session = panel.session.performAll operations := by
  induction operations generalizing panel with
  | nil => rfl
  | cons operation others ih =>
    rw [performAll, List.foldl_cons, Session.performAll_cons, ← (conclude_spec _).1, ← perform_eq]
    exact ih _

/-- **A panel** holds the session that its operations lead to. It answers whether the last one succeeded, and
keeps the wording of its fault if it did not. -/
theorem performAll_append (panel : Panel) (operations : List Operation) (last : Operation) :
    let before := panel.session.performAll operations
    let after := (panel.performAll operations).perform last
    after.1 = panel.performAll (operations ++ [last]) ∧
    after.1.session = (before.perform last).1 ∧
    (after.2 = true ↔ (before.perform last).2 = .ok ()) ∧
    ∀ message, after.1.lastError = some message ↔
      ∃ fault, (before.perform last).2 = .error fault ∧ message = fault.message := by
  intro before after
  have hafter : after = conclude (before.perform last) := by
    have hperform := perform_eq (panel.performAll operations) last
    rwa [session_performAll] at hperform
  refine ⟨?_, ?_⟩
  · rw [performAll, List.foldl_append]
    rfl
  · rw [hafter]
    exact conclude_spec _

end Panel

/-! ## The command -/

namespace CommandLine

variable {arguments : Arguments} {definition : String}

/-- The switches that the arguments set. -/
def Arguments.settings (arguments : Arguments) : List Operation :=
  arguments.switches.map fun (name, level) => .setSwitch name level

/-- What the command does to the session of its definition. -/
def Arguments.operations (arguments : Arguments) : List Operation :=
  arguments.settings ++ [.run arguments.cycles]

/-- Switches are set up to the first that is refused. -/
theorem setSwitches_eq (session : Session) (switches : List (String × Level)) :
    let operations : List Operation := switches.map fun (name, level) => .setSwitch name level
    (session.Succeeds operations ∧ setSwitches session switches = .ok (session.performAll operations)) ∨
      (¬ session.Succeeds operations ∧ ∃ fault, setSwitches session switches = .error fault) := by
  induction switches generalizing session with
  | nil => exact .inl ⟨trivial, rfl⟩
  | cons switch others ih =>
    obtain ⟨name, level⟩ := switch
    have hperform : session.perform (.setSwitch name level)
        = session.accept (session.setSwitch name level) := rfl
    dsimp only
    rw [List.map_cons, Session.Succeeds, Session.performAll_cons, hperform, setSwitches]
    cases session.setSwitch name level with
    | error fault => exact .inr ⟨nofun, fault, rfl⟩
    | ok after =>
      rcases ih after with ⟨hrest, heq⟩ | ⟨hrest, hfault⟩
      · exact .inl ⟨⟨rfl, hrest⟩, heq⟩
      · exact .inr ⟨fun h => hrest h.2, hfault⟩

/-- The diagnostics of a definition, one after the other. -/
def report (definition : String) : String :=
  String.join ((Definition.read definition).diagnostics.map fun diagnostic => diagnostic.render ++ "\n")

@[simp] theorem code_success (stdout stderr : String) : (Outcome.success stdout stderr).code = 0 := rfl

@[simp] theorem code_failure (stdout stderr : String) (failure : Failure) :
    (Outcome.failure stdout stderr failure).code = 1 := rfl

/-- A fault is reported behind the diagnostics. -/
theorem exists_stderr_failure (stdout stderr : String) (failure : Failure) :
    ∃ fault, (Outcome.failure stdout stderr failure).stderr = stderr ++ fault :=
  ⟨"Error: " ++ failure.label ++ "\n", by simp [Outcome.failure, String.append_assoc]⟩

/-- **How a simulation ends**: at the errors of its definition, at a switch, or with its run. -/
theorem simulate_cases (arguments : Arguments) (definition : String) :
    let session := (Session.load definition none).1
    let after := session.performAll arguments.operations
    let outcome := simulate arguments definition
    ((Definition.read definition).isOk = false ∧
      outcome = .failure "" (report definition)
        (.circuit (.parseFailed (Definition.read definition).errorCount))) ∨
    ((Definition.read definition).isOk ∧
      ((¬ session.Succeeds arguments.settings ∧
          ∃ fault, outcome = .failure "" (report definition) (.circuit fault)) ∨
        (session.Succeeds arguments.operations ∧
          outcome = .success after.render (report definition)) ∨
        (session.Succeeds arguments.settings ∧ ¬ session.Succeeds arguments.operations ∧
          ∃ fault, outcome = .failure after.render (report definition) (.circuit fault)))) := by
  intro session after outcome
  have hsimulate : outcome = simulate arguments definition := rfl
  have hload : Session.load definition none = (session, (Definition.read definition).diagnostics) := rfl
  have hcount : Diagnostic.errorCount (Definition.read definition).diagnostics
      = (Definition.read definition).errorCount := rfl
  have hreport : String.join ((Definition.read definition).diagnostics.map
      fun diagnostic => diagnostic.render ++ "\n") = report definition := rfl
  rw [simulate, hload] at hsimulate
  dsimp only at hsimulate
  rw [hcount, hreport] at hsimulate
  rw [Definition.Reading.isOk, decide_eq_true_eq, decide_eq_false_iff_not]
  by_cases herrors : (Definition.read definition).errorCount = 0
  · rw [if_neg (not_not.2 herrors)] at hsimulate
    refine .inr ⟨herrors, ?_⟩
    rcases setSwitches_eq session arguments.switches with ⟨hset, heq⟩ | ⟨hset, fault, heq⟩
    · -- all switches are set, so the run decides
      have hset' : setSwitches session arguments.switches
          = .ok (session.performAll arguments.settings) := heq
      rw [hset'] at hsimulate
      -- the run is the last of the operations
      have hlast : after = ((session.performAll arguments.settings).run arguments.cycles).1 :=
        List.foldl_append
      have hsucceeds : session.Succeeds arguments.operations ↔
          ((session.performAll arguments.settings).run arguments.cycles).2 = .ok () := by
        rw [Arguments.operations, Session.succeeds_append]
        exact ⟨fun h => h.2.1, fun h => ⟨hset, h, trivial⟩⟩
      rw [hlast, hsucceeds]
      dsimp only at hsimulate
      rcases hrun : (session.performAll arguments.settings).run arguments.cycles with ⟨left, fault | _⟩
      · rw [hrun] at hsimulate
        refine .inr (.inr ⟨hset, fun h => ?_, fault, hsimulate⟩)
        cases h
      · rw [hrun] at hsimulate
        exact .inr (.inl ⟨rfl, hsimulate⟩)
    · rw [heq] at hsimulate
      exact .inl ⟨hset, fault, hsimulate⟩
  · rw [if_pos herrors] at hsimulate
    exact .inl ⟨herrors, hsimulate⟩

/-- **A simulation** succeeds if the definition has no errors and all that is done to its session does.
The traces are those of the session after its run, also if that has been cut short. The diagnostics come first in
the error output. -/
theorem simulate_spec (arguments : Arguments) (definition : String) :
    let session := (Session.load definition none).1
    let outcome := simulate arguments definition
    (outcome.code = 0 ↔ (Definition.read definition).isOk ∧ session.Succeeds arguments.operations) ∧
    (outcome.code = 0 ∨ outcome.code = 1) ∧
    ((Definition.read definition).isOk → session.Succeeds arguments.settings →
      outcome.stdout = (session.performAll arguments.operations).render) ∧
    ∃ fault, outcome.stderr = report definition ++ fault := by
  intro session outcome
  have hsettings : session.Succeeds arguments.operations → session.Succeeds arguments.settings :=
    fun h => ((Session.succeeds_append _ _).1 h).1
  -- nothing is shown of a session whose switches are not set, and every other outcome shows its traces
  rcases simulate_cases arguments definition with
    ⟨herrors, heq⟩ | ⟨hok, ⟨hset, fault, heq⟩ | ⟨hall, heq⟩ | ⟨hset, hall, fault, heq⟩⟩ <;>
    have hout : outcome = _ := heq
  · rw [hout, herrors]
    exact ⟨by simp, .inr rfl, nofun, exists_stderr_failure ..⟩
  · rw [hout]
    refine ⟨⟨fun h => ?_, fun h => absurd (hsettings h.2) hset⟩, .inr rfl, fun _ h => absurd h hset,
      exists_stderr_failure ..⟩
    cases h
  · rw [hout]
    exact ⟨⟨fun _ => ⟨hok, hall⟩, fun _ => rfl⟩, .inl rfl, fun _ _ => rfl, "", String.append_empty.symm⟩
  · rw [hout]
    refine ⟨⟨fun h => ?_, fun h => absurd h.2 hall⟩, .inr rfl, fun _ _ => rfl,
      exists_stderr_failure ..⟩
    cases h

/-- **The command succeeds** if its arguments are understood, the file holds a text, and the simulation of that
text succeeds. It has not looked for a file if the arguments are not understood. -/
theorem run_code_eq_zero_iff {words : List String} {file : String → FileContent} :
    (run words file).code = 0 ↔ ∃ arguments definition, Arguments.read words = .ok arguments ∧
      (file arguments.path).text = .ok definition ∧ (Definition.read definition).isOk ∧
      (Session.load definition none).1.Succeeds arguments.operations := by
  unfold run
  cases Arguments.read words with
  | error error => exact ⟨nofun, nofun⟩
  | ok arguments =>
    dsimp only
    cases htext : (file arguments.path).text with
    | error fault =>
      refine ⟨nofun, ?_⟩
      rintro ⟨found, definition, ⟨⟩, hfile, -⟩
      rw [htext] at hfile
      cases hfile
    | ok definition =>
      dsimp only
      rw [(simulate_spec arguments definition).1]
      constructor
      · intro h
        exact ⟨arguments, definition, rfl, htext, h⟩
      · rintro ⟨found, definition', ⟨⟩, hfile, h⟩
        rw [htext] at hfile
        cases hfile
        exact h

/-! ## Arguments -/

/-- The digit of a level. -/
def digit : Level → String
  | .low => "0"
  | .high => "1"

/-- Arguments as they are written, with each value behind its option. -/
def Arguments.words (arguments : Arguments) : List String :=
  arguments.path :: ("--cycles=" ++ toString arguments.cycles) ::
    arguments.switches.map fun (name, level) => "--switch=" ++ (name ++ "=" ++ digit level)

/-- The word of an option with its value. -/
theorem ofArgument_cycles (value : String) :
    Word.ofArgument ("--cycles=" ++ value) = .setting .cycles value := by
  have hchars : ("--cycles=" ++ value).toList = "--cycles=".toList ++ value.toList := String.toList_append
  rw [Word.ofArgument, hchars]
  have hvalue : Word.setting .cycles (String.ofList value.toList) = .setting .cycles value := by
    rw [String.ofList_toList]
  exact hvalue

/-- The word of a switch with its level. -/
theorem ofArgument_switch (value : String) :
    Word.ofArgument ("--switch=" ++ value) = .setting .switch value := by
  have hchars : ("--switch=" ++ value).toList = "--switch=".toList ++ value.toList := String.toList_append
  rw [Word.ofArgument, hchars]
  have hvalue : Word.setting .switch (String.ofList value.toList) = .setting .switch value := by
    rw [String.ofList_toList]
  exact hvalue

/-- A switch is read up to the first equals sign, which is not part of its name. -/
theorem readSwitch_append {name : String} (hname : '=' ∉ name.toList) (level : Level) :
    readSwitch (name ++ "=" ++ digit level) = .ok (name, level) := by
  have hchars : (name ++ "=" ++ digit level).toList = name.toList ++ '=' :: (digit level).toList := by
    rw [String.toList_append, String.toList_append, List.append_assoc]
    rfl
  have hfront : ∀ c ∈ name.toList, decide (c ≠ '=') = true := by
    intro c hc
    rw [decide_eq_true_eq]
    rintro rfl
    exact hname hc
  rw [readSwitch, hchars]
  simp only [List.takeWhile_append_of_pos hfront, List.dropWhile_append_of_pos hfront]
  cases level <;> simp [digit, Level.ofLiteral?]

/-- A number that has 64 bits is read as it is written. -/
theorem readCount_toString {cycles : Nat} (hcycles : cycles ≤ Decimal.maxCount) :
    Text.readCount (toString cycles) = .ok cycles := by
  refine Text.readCount_eq_ok_iff.2 ⟨Nat.toDigits 10 cycles, .inl Nat.toList_repr, ?_, ?_, hcycles⟩
  · exact Decimal.isLiteral_iff.2 ⟨Nat.toDigits_ne_nil, fun c hc =>
      Nat.isDigit_of_mem_toDigits (by decide) (by decide) hc⟩
  · rw [Decimal.value_toDigits]

/-- **Arguments** are read as they are written, if the path is no option and no name has the sign in it that
separates it from its level. -/
theorem Arguments.read_words (arguments : Arguments)
    (hpath : Word.ofArgument arguments.path = .path arguments.path) (hne : arguments.path ≠ "")
    (hcycles : arguments.cycles ≤ Decimal.maxCount)
    (hnames : ∀ switch ∈ arguments.switches, '=' ∉ switch.1.toList) :
    Arguments.read arguments.words = .ok arguments := by
  -- by induction on the switches that are left, with what has been read before them
  have hswitches (found : Partial) (switches : List (String × Level))
      (hnames : ∀ switch ∈ switches, '=' ∉ switch.1.toList) :
      readArguments found (switches.map fun (name, level) => "--switch=" ++ (name ++ "=" ++ digit level))
        = ({ found with switches := found.switches ++ switches } : Partial).finish := by
    induction switches generalizing found with
    | nil => simp [readArguments]
    | cons switch others ih =>
      obtain ⟨name, level⟩ := switch
      obtain ⟨hname, hothers⟩ := List.forall_mem_cons.1 hnames
      rw [List.map_cons, readArguments, ofArgument_switch]
      dsimp only
      rw [Partial.set, readSwitch_append hname]
      dsimp only [Bind.bind, Except.bind]
      rw [ih _ hothers, List.append_assoc]
      rfl
  have hfirst : Partial.none.setPath arguments.path
      = .ok ⟨some arguments.path, none, []⟩ := by
    have hempty : arguments.path.isEmpty = false := by simpa using hne
    simp [Partial.setPath, Partial.none, hempty]
  have hsecond : Partial.set ⟨some arguments.path, none, []⟩ .cycles (toString arguments.cycles)
      = .ok ⟨some arguments.path, some arguments.cycles, []⟩ := by
    rw [Partial.set, readCount_toString hcycles]
    rfl
  rw [Arguments.read, Arguments.words, readArguments, hpath]
  dsimp only
  rw [hfirst]
  dsimp only [Bind.bind, Except.bind]
  rw [readArguments, ofArgument_cycles]
  dsimp only
  rw [hsecond]
  dsimp only [Bind.bind, Except.bind]
  rw [hswitches _ _ hnames]
  rfl

end CommandLine

end LogicCircuit
