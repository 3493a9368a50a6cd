import LogicCircuit.Proofs.Definition.Clauses

/-!
# Statements — reading and static rules agree

Each statement is read without a failure exactly if it is spelled and the scope accepts it, and the
circuit that is left is that of the new scope. The two directions are theorems of their own: `_sound`
for what is read, `_complete` for what is spelled and accepted.

## The architecture

* **`define_sound`**, **`define_complete`** — definitions.
* **`connect_sound`**, **`connect_complete`** — connections.
* **`monitor_sound`**, **`monitor_complete`** — monitors.
* **`statement_sound`**, **`statement_complete`** and from them, by induction over a program,
  **`statements_sound`** and **`statements_complete`**.
-/

namespace LogicCircuit.Definition

variable {scope after : Scope} {table : NameTable} {input left : List Symbol} {net : Network}

/-! ## Definitions -/

/-- Declared devices are new ones in the network, behind those there are. -/
theorem Scope.network_declare {names : List String} {kind : DeviceKind} (hlegal : scope.Legal)
    (hnew : ∀ name ∈ names, name ∉ scope.names) :
    (scope.declare names kind).network table = withDevices table (scope.network table) names kind := by
  have hdevice : ∀ name ∈ names, (scope.declare names kind).device table name kind
      = .new (table.handle name) name kind := by
    intro name hname
    show scope.device table name kind = _
    exact Scope.device_eq_new hlegal (hnew name hname)
  rw [Scope.network, withDevices, Scope.declare, List.map_append, List.map_map]
  congr 2
  exact List.map_congr_left hdevice

/-- **Definitions.** What is read as one is spelled and accepted. -/
theorem define_sound (hlegal : scope.Legal) (hknown : scope.KnownTo table)
    (hinput : Known table input) {start : Place}
    (h : define (scope.network table) start input = (net, .ok ((), left))) :
    ∃ first others, ∃ body : Body, ∃ after, scope.Accepts (.define first others body) after ∧
      Reads input
        ((first :: others).map Token.name ++ .keyword .as :: body.spell ++ [.semicolon]) left ∧
      net = after.network table := by
  by_cases hintroduces : ∃ names kind rest, Introduces table (scope.network table) input names kind rest
  · -- what is introduced is added before the semicolon is looked for
    obtain ⟨names, kind, rest, hintroduces⟩ := hintroduces
    rw [define_of_introduces hinput start hintroduces] at h
    obtain ⟨rfl, hsemicolon⟩ := Prod.mk.inj h
    obtain ⟨hne, hnodup, hfree, body, hmeans, hreads⟩ := hintroduces
    obtain ⟨first, others, rfl⟩ := List.exists_cons_of_ne_nil hne
    have hnew : ∀ name ∈ first :: others, name ∉ scope.names := fun name hname =>
      (Scope.device?_network_eq_none hknown).1 (hfree name hname)
    exact ⟨first, others, body, _, .define hmeans hnodup hnew,
      reads_append.2 ⟨rest, hreads, readSemicolon_eq_ok.1 hsemicolon⟩,
      (Scope.network_declare hlegal hnew).symm⟩
  · obtain ⟨failure, hfailure⟩ := define_of_not_introduces hinput start
      fun names kind rest hnames => hintroduces ⟨names, kind, rest, hnames⟩
    rw [hfailure] at h
    cases h

/-- **Definitions.** One that is accepted is read wherever it is spelled. -/
theorem define_complete (hlegal : scope.Legal) (hknown : scope.KnownTo table)
    (hinput : Known table input) {start : Place} {first : String} {others : List String}
    {body : Body} (haccepts : scope.Accepts (.define first others body) after)
    (hreads : Reads input
      ((first :: others).map Token.name ++ .keyword .as :: body.spell ++ [.semicolon]) left) :
    define (scope.network table) start input = (after.network table, .ok ((), left)) := by
  cases haccepts with
  | @define _ _ _ kind hmeans hnodup hnew =>
    obtain ⟨rest, hreads', hsemicolon⟩ := reads_append.1 hreads
    have hintroduces : Introduces table (scope.network table) input (first :: others) kind rest :=
      ⟨List.cons_ne_nil _ _, hnodup,
        fun name hname => (Scope.device?_network_eq_none hknown).2 (hnew name hname),
        body, hmeans, hreads'⟩
    rw [define_of_introduces hinput start hintroduces, Scope.network_declare hlegal hnew,
      readSemicolon_eq_ok.2 hsemicolon]

/-! ## Connections -/

/-- **Connections.** What is read as one is spelled and accepted. -/
theorem connect_sound (hlegal : scope.Legal) (hknown : scope.KnownTo table)
    (hinput : Known table input)
    (h : connect table (scope.network table) input = (net, .ok ((), left))) :
    ∃ source target after, scope.Accepts (.connect source target) after ∧
      Reads input (source.spell ++ .keyword .toWord :: target.spell ++ [.semicolon]) left ∧
      net = after.network table := by
  have hdistinct := Scope.distinct_network hlegal hknown
  unfold connect at h
  split at h
  · cases h
  · next source target place rest hwire =>
    obtain ⟨hsource, output, written, rfl, ⟨device, hdevice, hmeans, htarget⟩, hreads⟩ :=
      -- ports and devices of the network are those of the scope
      (readWire_eq_ok hdistinct (Scope.regular_network hlegal) hinput).1 ⟨place, hwire⟩
    have houtput := (Scope.ref_mem_outputs_network_iff hlegal hknown).1 hsource
    obtain ⟨kind, hmem, rfl⟩ := (Scope.device?_network hlegal hknown).1 hdevice
    rw [Scope.kind_device] at hmeans
    obtain ⟨id, port⟩ := target
    obtain rfl : id = table.handle written.device := htarget
    split at h
    · next hconnect =>
      obtain ⟨hfree, rfl⟩ := (Scope.connect_network_eq_ok hlegal hknown houtput hmem
        (Scope.mem_inputPorts_of_means hmeans)).1 hconnect
      obtain ⟨rfl, hsemicolon⟩ := Prod.mk.inj h
      exact ⟨output, written, _, .connect houtput hmem hmeans hfree,
        reads_append.2 ⟨rest, hreads, readSemicolon_eq_ok.1 hsemicolon⟩, rfl⟩
    · cases h

/-- **Connections.** One that is accepted is read wherever it is spelled. -/
theorem connect_complete (hlegal : scope.Legal) (hknown : scope.KnownTo table)
    (hinput : Known table input) {source : Output} {target : Input}
    (haccepts : scope.Accepts (.connect source target) after)
    (hreads : Reads input (source.spell ++ .keyword .toWord :: target.spell ++ [.semicolon]) left) :
    connect table (scope.network table) input = (after.network table, .ok ((), left)) := by
  cases haccepts with
  | @connect _ _ kind port hsource htarget hport hfree =>
    obtain ⟨rest, hreads', hsemicolon⟩ := reads_append.1 hreads
    -- the port that is written is an input of the declared device
    have hrefers : target.Refers table (scope.network table) ⟨table.handle target.device, port⟩ := by
      refine ⟨_, (Scope.device?_network hlegal hknown).2 ⟨kind, htarget, rfl⟩, ?_, rfl⟩
      rw [Scope.kind_device]
      exact hport
    obtain ⟨place, hwire⟩ := (readWire_eq_ok (Scope.distinct_network hlegal hknown)
      (Scope.regular_network hlegal) hinput).2
        ⟨(Scope.ref_mem_outputs_network_iff hlegal hknown).2 hsource, source, target, rfl, hrefers,
          hreads'⟩
    have hconnect := (Scope.connect_network_eq_ok hlegal hknown hsource htarget
      (Scope.mem_inputPorts_of_means hport)).2 ⟨hfree, rfl⟩
    rw [connect, hwire]
    dsimp only
    rw [hconnect]
    exact congrArg (Prod.mk _) (readSemicolon_eq_ok.2 hsemicolon)

/-! ## Monitors -/

/-- Watched outputs have new monitors in the circuit, behind those there are. -/
theorem Scope.monitors_watch {outputs : List Output} : (scope.watch outputs).monitors table
    = withMonitors (scope.monitors table) (outputs.map (Output.ref table)) := by
  rw [Scope.monitors, Scope.watch, List.map_append, withMonitors, List.map_map]
  rfl

/-- An output that exists is monitored in the circuit if the scope watches it. -/
theorem Scope.ref_mem_points_iff (hknown : scope.KnownTo table) {output : Output}
    (houtput : scope.HasOutput output) :
    output.ref table ∈ (scope.monitors table).points ↔ output ∈ scope.watched := by
  rw [Scope.points_monitors, List.mem_map]
  constructor
  · rintro ⟨other, hother, heq⟩
    rw [← (Scope.ref_eq_ref_iff (hknown _ houtput.mem_names)).1 heq]
    exact hother
  · intro h
    exact ⟨output, h, rfl⟩

/-- **Monitors.** What is read as a statement of them is spelled and accepted. -/
theorem monitor_sound {monitors : Monitors} (hlegal : scope.Legal) (hknown : scope.KnownTo table)
    (hinput : Known table input)
    (h : monitor table (scope.network table) (scope.monitors table) input
      = (monitors, .ok ((), left))) :
    ∃ first others after, scope.Accepts (.monitor first others) after ∧
      Reads input ((first :: others).flatMap Output.spell ++ [.semicolon]) left ∧
      monitors = after.monitors table := by
  obtain ⟨outputs, rest, hwatches, hmonitors, houtcome⟩ := exists_monitorRun
    (Scope.distinct_network hlegal hknown) hinput (scope.monitors table)
  rw [h] at hmonitors houtcome
  rcases houtcome with ⟨hne, _, hsemicolon, hok⟩ | ⟨failure, hfailure, -, -⟩
  · cases hok
    obtain ⟨first, others, rfl⟩ := List.exists_cons_of_ne_nil hne
    have houtputs : ∀ output ∈ first :: others, scope.HasOutput output := fun output houtput =>
      (Scope.ref_mem_outputs_network_iff hlegal hknown).1 (hwatches.exist output houtput)
    refine ⟨first, others, _, .monitor houtputs (List.Nodup.of_map _ hwatches.nodup) ?_,
      reads_append.2 ⟨rest, hwatches.lead.reads, hsemicolon⟩, ?_⟩
    · exact fun output houtput hwatched => hwatches.fresh output houtput
        ((Scope.ref_mem_points_iff hknown (houtputs output houtput)).2 hwatched)
    · rw [Scope.monitors_watch]
      exact hmonitors
  · cases hfailure

/-- **Monitors.** Accepted ones are read wherever they are spelled. -/
theorem monitor_complete {first : Output} {others : List Output} (hlegal : scope.Legal)
    (hknown : scope.KnownTo table) (hinput : Known table input)
    (haccepts : scope.Accepts (.monitor first others) after)
    (hreads : Reads input ((first :: others).flatMap Output.spell ++ [.semicolon]) left) :
    monitor table (scope.network table) (scope.monitors table) input
      = (after.monitors table, .ok ((), left)) := by
  cases haccepts with
  | monitor houtputs hnodup hnew =>
    obtain ⟨rest, hlead, hsemicolon⟩ := leadAll_of_reads hreads
    -- the outputs of the scope are those of the network, and what it watches is monitored
    have hwatches : Watches table (scope.network table) (scope.monitors table) input (first :: others)
        rest := by
      refine ⟨hlead, fun output houtput => ?_, ?_, fun output houtput hwatched => ?_⟩
      · exact (Scope.ref_mem_outputs_network_iff hlegal hknown).2 (houtputs output houtput)
      · refine List.Nodup.map_on (fun output houtput other hother heq => ?_) hnodup
        exact (Scope.ref_eq_ref_iff (hknown _ (houtputs other hother).mem_names)).1 heq
      · exact hnew output houtput
          ((Scope.ref_mem_points_iff hknown (houtputs output houtput)).1 hwatched)
    rw [monitor_of_watches (Scope.distinct_network hlegal hknown) hinput hwatches (List.cons_ne_nil _ _)
      hsemicolon, Scope.monitors_watch]

/-! ## Statements -/

/-- A statement declares names that stand in it. -/
theorem Scope.Accepts.knownTo {statement : Statement} (h : scope.Accepts statement after)
    (hknown : scope.KnownTo table) (hinput : Known table input)
    (hreads : Reads input statement.spell left) : after.KnownTo table := by
  cases h with
  | define _ _ _ =>
    -- the names stand between the first word and the body
    refine hknown.declare fun name hname => hinput.isSome_id? hreads ?_
    refine List.mem_append_left _ (List.mem_append_left _ (List.mem_cons_of_mem _ ?_))
    exact List.mem_map_of_mem hname
  | connect => exact hknown
  | monitor => exact hknown

/-- **Statements.** What is read as one is spelled and accepted. -/
theorem statement_sound {circuit : Circuit} {first : Symbol} {rest : List Symbol}
    (hlegal : scope.Legal) (hknown : scope.KnownTo table) (hinput : Known table (first :: rest))
    (h : statement table (scope.circuit table) first rest = (circuit, .ok ((), left))) :
    ∃ statement : Statement, ∃ after, scope.Accepts statement after ∧
      Reads (first :: rest) statement.spell left ∧ circuit = after.circuit table := by
  have hrest : Known table rest := hinput.of_suffix (List.suffix_cons first rest)
  have hword : ∀ {word}, first.isKeyword word = true → Reads (first :: rest) [.keyword word] rest :=
    fun h => reads_singleton.2 ⟨first, rfl, Symbol.isKeyword_iff.1 h⟩
  unfold statement at h
  dsimp only [Scope.circuit] at h
  split at h
  · next hdefine =>
    rcases hrun : define (scope.network table) (.atOffset first.offset) rest with ⟨net, outcome⟩
    rw [hrun] at h
    cases h
    obtain ⟨name, others, body, after, haccepts, hreads, rfl⟩ :=
      define_sound hlegal hknown hrest hrun
    -- the monitors of the new scope are those of the old one
    refine ⟨_, after, haccepts, reads_cons.2 ⟨rest, hword hdefine, hreads⟩, ?_⟩
    cases haccepts
    rfl
  · split at h
    · next hconnect =>
      rcases hrun : connect table (scope.network table) rest with ⟨net, outcome⟩
      rw [hrun] at h
      cases h
      obtain ⟨source, target, after, haccepts, hreads, rfl⟩ :=
        connect_sound hlegal hknown hrest hrun
      refine ⟨_, after, haccepts, reads_cons.2 ⟨rest, hword hconnect, hreads⟩, ?_⟩
      cases haccepts
      rfl
    · split at h
      · next hmonitor =>
        rcases hrun : monitor table (scope.network table) (scope.monitors table) rest
          with ⟨monitors, outcome⟩
        rw [hrun] at h
        cases h
        obtain ⟨output, others, after, haccepts, hreads, rfl⟩ :=
          monitor_sound hlegal hknown hrest hrun
        -- the network of the new scope is that of the old one
        refine ⟨_, after, haccepts, reads_cons.2 ⟨rest, hword hmonitor, hreads⟩, ?_⟩
        cases haccepts
        rfl
      · cases h

/-- **Statements.** One that is accepted is read wherever it is spelled. -/
theorem statement_complete {first : Symbol} {rest : List Symbol} {written : Statement}
    (hlegal : scope.Legal) (hknown : scope.KnownTo table) (hinput : Known table (first :: rest))
    (haccepts : scope.Accepts written after) (hreads : Reads (first :: rest) written.spell left) :
    statement table (scope.circuit table) first rest = (after.circuit table, .ok ((), left)) := by
  have hrest : Known table rest := hinput.of_suffix (List.suffix_cons first rest)
  have hkeyword : ∀ {word back}, Reads (first :: rest) (.keyword word :: back) left →
      (∃ id offset, first = ⟨.keyword word id, offset⟩) ∧ Reads rest back left := by
    intro word back hreads
    obtain ⟨middle, hfirst, hback⟩ := reads_cons.1 hreads
    obtain ⟨id, offset, hcons⟩ := reads_keyword.1 hfirst
    cases hcons
    exact ⟨⟨id, offset, rfl⟩, hback⟩
  cases written with
  | define name others body =>
    obtain ⟨⟨id, offset, rfl⟩, hreads'⟩ := hkeyword hreads
    have hdefine : define (scope.network table) (.atOffset offset) rest
        = (after.network table, .ok ((), left)) :=
      define_complete hlegal hknown hrest haccepts hreads'
    show (Circuit.mk (define (scope.network table) (.atOffset offset) rest).1 _,
      (define (scope.network table) (.atOffset offset) rest).2) = _
    rw [hdefine]
    cases haccepts
    rfl
  | connect source target =>
    obtain ⟨⟨id, offset, rfl⟩, hreads'⟩ := hkeyword hreads
    have hconnect := connect_complete hlegal hknown hrest haccepts hreads'
    show (Circuit.mk (connect table (scope.network table) rest).1 _,
      (connect table (scope.network table) rest).2) = _
    rw [hconnect]
    cases haccepts
    rfl
  | monitor output others =>
    obtain ⟨⟨id, offset, rfl⟩, hreads'⟩ := hkeyword hreads
    have hmonitor := monitor_complete hlegal hknown hrest haccepts hreads'
    show (Circuit.mk _ (monitor table (scope.network table) (scope.monitors table) rest).1,
      (monitor table (scope.network table) (scope.monitors table) rest).2) = _
    rw [hmonitor]
    cases haccepts
    rfl

/-! ## Programs -/

/-- Every statement starts with a word of its own. -/
theorem Statement.spell_eq_cons (statement : Statement) :
    ∃ word back, statement.spell = .keyword word :: back ∧ word ≠ .endWord := by
  cases statement with
  | define first others body => exact ⟨.define, _, rfl, by decide⟩
  | connect source target => exact ⟨.connect, _, rfl, by decide⟩
  | monitor first others => exact ⟨.monitor, _, rfl, by decide⟩

/-- No statement is spelled with the word that ends the definition. -/
theorem Statement.endWord_notMem (statement : Statement) :
    Token.keyword .endWord ∉ statement.spell := by
  have houtput : ∀ output : Output, Token.keyword .endWord ∉ output.spell := by
    intro output
    obtain ⟨device, port⟩ := output
    cases port <;> simp [Output.spell]
  have hbody : ∀ body : Body, Token.keyword .endWord ∉ body.spell := by
    intro body
    cases body with
    | gate op hop digits => cases op <;> simp [Body.spell, gateWord]
    | siggen first others => simp [Body.spell, Stretch.spell]
    | _ => simp [Body.spell]
  cases statement with
  | define first others body =>
    have h := hbody body
    simp [Statement.spell, h]
  | connect source target =>
    obtain ⟨device, port⟩ := target
    have h := houtput source
    cases port <;> simp [Statement.spell, Input.spell, PortName.token, h]
  | monitor first others =>
    have h := houtput first
    simp [Statement.spell, h, houtput]

/-- No program is spelled with the word that ends the definition. -/
theorem endWord_notMem_program (program : List Statement) :
    Token.keyword .endWord ∉ program.flatMap Statement.spell := by
  intro h
  obtain ⟨statement, -, hmem⟩ := List.mem_flatMap.1 h
  exact statement.endWord_notMem hmem

/-- Nothing is found exactly if the statement has been read. -/
theorem resume_eq_nil {outcome : Except Failure (Unit × List Symbol)} :
    (resume outcome).1 = [] ↔ ∃ left, outcome = .ok ((), left) := by
  constructor
  · intro h
    cases outcome with
    | ok read => exact ⟨read.2, rfl⟩
    | error failure => cases h
  · rintro ⟨left, rfl⟩
    rfl

/-- One statement more is read in front. -/
theorem statements_cons {circuit : Circuit} {first : Symbol} {rest : List Symbol}
    (hend : ¬ first.isKeyword .endWord) : statements table circuit (first :: rest) =
      let after := statement table circuit first rest
      let later := statements table after.1 (resume after.2).2
      (later.1, (resume after.2).1 ++ later.2) := by
  rw [statements, dif_neg hend]

/-- What is read without findings is a program that is accepted, and an `END`. -/
theorem statements_sound {scope : Scope} {input : List Symbol} {circuit : Circuit}
    (hlegal : scope.Legal) (hknown : scope.KnownTo table) (hinput : Known table input)
    (h : statements table (scope.circuit table) input = (circuit, [])) :
    ∃ program after left, scope.AcceptsAll program after ∧
      Reads input (program.flatMap Statement.spell ++ [.keyword .endWord]) left ∧
      circuit = after.circuit table := by
  cases input with
  | nil =>
    rw [statements] at h
    cases h
  | cons first rest =>
    by_cases hend : first.isKeyword .endWord
    · rw [statements, dif_pos hend] at h
      cases h
      exact ⟨[], scope, rest, .nil scope,
        reads_singleton.2 ⟨first, rfl, Symbol.isKeyword_iff.1 hend⟩, rfl⟩
    · rcases hrun : Definition.statement table (scope.circuit table) first rest
        with ⟨built, outcome⟩
      rw [statements_cons hend, hrun] at h
      obtain ⟨hcircuit, hfindings⟩ := Prod.mk.inj h
      obtain ⟨hresume, hlater⟩ := List.append_eq_nil_iff.1 hfindings
      -- nothing is found, so the statement has been read to its end
      obtain ⟨left, rfl⟩ := resume_eq_nil.1 hresume
      obtain ⟨statement, middle, haccepts, hreads, rfl⟩ :=
        statement_sound hlegal hknown hinput hrun
      -- a statement takes its symbols, so what is left is shorter
      have hshorter : left.length < (first :: rest).length := by
        have hsuffix : (resume (Definition.statement table (scope.circuit table) first rest).2).2
            <:+ rest := resume_statement_suffix (Bool.eq_false_iff.2 hend)
        rw [hrun] at hsuffix
        exact Nat.lt_succ_of_le hsuffix.length_le
      obtain ⟨program, after, left', hothers, hreads', rfl⟩ :=
        statements_sound (haccepts.legal hlegal) (haccepts.knownTo hknown hinput hreads)
          (hinput.of_reads hreads) (Prod.ext hcircuit hlater)
      refine ⟨statement :: program, after, left', .cons haccepts hothers, ?_, rfl⟩
      rw [List.flatMap_cons, List.append_assoc]
      exact reads_append.2 ⟨left, hreads, hreads'⟩
  termination_by input.length

/-- Accepted statements are read wherever they are spelled, and reading goes on in the circuit of the scope
that they lead to. -/
theorem statements_accepted {program : List Statement} (haccepts : scope.AcceptsAll program after) :
    ∀ {input : List Symbol}, scope.Legal → scope.KnownTo table → Known table input →
      Reads input (program.flatMap Statement.spell) left →
      statements table (scope.circuit table) input = statements table (after.circuit table) left := by
  -- on the program, with any input that spells it
  induction haccepts with
  | nil scope =>
    rintro input - - - ⟨front, rfl, hfront⟩
    rw [List.map_eq_nil_iff.1 hfront, List.nil_append]
  | @cons scope middle after statement program hfirst hothers ih =>
    intro input hlegal hknown hinput hreads
    rw [List.flatMap_cons] at hreads
    obtain ⟨rest, hspell, hreads'⟩ := reads_append.1 hreads
    obtain ⟨word, back, hcons, hword⟩ := statement.spell_eq_cons
    have hspell' := hspell
    rw [hcons] at hspell'
    obtain ⟨others, hfirstWord, -⟩ := reads_cons.1 hspell'
    obtain ⟨id, offset, rfl⟩ := reads_keyword.1 hfirstWord
    have hend : ¬ Symbol.isKeyword ⟨.keyword word id, offset⟩ .endWord := by
      rw [Symbol.isKeyword_iff]
      intro h
      cases h
      exact hword rfl
    have hstatement := statement_complete hlegal hknown hinput hfirst hspell
    have hlater := ih (hfirst.legal hlegal) (hfirst.knownTo hknown hinput hspell)
      (hinput.of_reads hspell) hreads'
    rw [statements_cons hend, hstatement, ← hlater]
    rfl

/-- A program that is accepted is read up to its `END`. -/
theorem statements_complete {program : List Statement} (haccepts : scope.AcceptsAll program after)
    (hlegal : scope.Legal) (hknown : scope.KnownTo table) (hinput : Known table input)
    (hreads : Reads input (program.flatMap Statement.spell ++ [.keyword .endWord]) left) :
    statements table (scope.circuit table) input = (after.circuit table, []) := by
  obtain ⟨rest, hprogram, hend⟩ := reads_append.1 hreads
  obtain ⟨first, rfl, hfirst⟩ := reads_singleton.1 hend
  rw [statements_accepted haccepts hlegal hknown hinput hprogram, statements,
    dif_pos (Symbol.isKeyword_iff.2 hfirst)]

/-- A program in two parts is accepted one part after the other. -/
theorem Scope.acceptsAll_append {before program : List Statement} :
    scope.AcceptsAll (before ++ program) after ↔
      ∃ middle, scope.AcceptsAll before middle ∧ middle.AcceptsAll program after := by
  induction before generalizing scope with
  | nil =>
    refine ⟨fun h => ⟨scope, .nil scope, h⟩, ?_⟩
    rintro ⟨middle, hnil, h⟩
    cases hnil
    exact h
  | cons statement before ih =>
    constructor
    · intro h
      cases h with
      | cons hfirst hothers =>
        obtain ⟨middle, hbefore, hprogram⟩ := ih.1 hothers
        exact ⟨middle, .cons hfirst hbefore, hprogram⟩
    · rintro ⟨middle, hbefore, hprogram⟩
      cases hbefore with
      | cons hfirst hothers => exact .cons hfirst (ih.2 ⟨middle, hothers, hprogram⟩)

/-- The names that a program declares stand in it. -/
theorem Scope.AcceptsAll.knownTo {program : List Statement} (h : scope.AcceptsAll program after)
    {back : List Token} : ∀ {input : List Symbol}, scope.KnownTo table → Known table input →
    Reads input (program.flatMap Statement.spell ++ back) left → after.KnownTo table := by
  induction h with
  | nil scope => exact fun hknown _ _ => hknown
  | cons hfirst _ ih =>
    intro input hknown hinput hreads
    rw [List.flatMap_cons, List.append_assoc] at hreads
    obtain ⟨rest, hspell, hreads'⟩ := reads_append.1 hreads
    exact ih (hfirst.knownTo hknown hinput hspell) (hinput.of_reads hspell) hreads'

end LogicCircuit.Definition
