import LogicCircuit.Proofs.Definition.Scanning
import LogicCircuit.Proofs.Integrity

/-!
# Effects — what a statement leaves behind

What a statement says takes effect when it has been read, and is not taken back. So a statement that
fails may have done something; but it has done all of a clause or nothing of it, since a clause is only
carried out when it is complete and none of its parts can be refused any more:

* a definition that fails has added all its devices, or none;
* a connection that fails has drawn its wire, or none;
* a `monitor` that fails has added the outputs in front of the one that it failed at.

All devices of a definition are added although they are added one at a time, because the names have been
checked against the network and against each other. What there was before stays as it was, state and
history included, whatever the statement says (`statement_keeps`), and so it is along all statements of a
text (`Visits.inOrder`), each of which is read in a circuit that is in order.
-/

namespace LogicCircuit

/-! ## Networks -/

/-- A kind that is legal has legal qualifiers. -/
theorem DeviceKind.badQualifier?_of_legal {kind : DeviceKind} (h : kind.Legal) :
    kind.badQualifier? = none := by
  cases kind with
  | gate op inputs =>
    obtain ⟨hmin, hmax, hxor⟩ := h
    have hrange : ¬ (inputs = 0 ∨ maxGateInputs < inputs) := by
      rw [maxGateInputs]
      omega
    rw [badQualifier?, if_neg hrange, if_neg fun h => h.2 (hxor h.1)]
  | clock halfPeriod =>
    have hpos : halfPeriod ≠ 0 := Nat.ne_of_gt h
    rw [badQualifier?, if_neg hpos]
  | _ => rfl

namespace Network

variable {net after later : Network}

/-- What there was is left as it was: devices with their states, and wires. -/
structure Keeps (net after : Network) : Prop where
  devices : net.unwired.devices <+: after.unwired.devices
  wires : ∀ input source, net.driver? input = some source → after.driver? input = some source

theorem Keeps.refl (net : Network) : net.Keeps net :=
  ⟨List.prefix_rfl, fun _ _ h => h⟩

theorem Keeps.trans (h : net.Keeps after) (h' : after.Keeps later) : net.Keeps later :=
  ⟨h.devices.trans h'.devices, fun input source hdriver =>
    h'.wires input source (h.wires input source hdriver)⟩

/-- A device more comes behind the others, and has no wires. -/
theorem keeps_addDevice {id : NameId} {name : String} {kind : DeviceKind}
    (h : net.addDevice id name kind = .ok after) : net.Keeps after := by
  refine ⟨?_, fun input source hdriver => ?_⟩
  · obtain ⟨-, -, rfl⟩ := addDevice_eq_ok h
    rw [unwired, unwired, List.map_append]
    exact List.prefix_append ..
  · rw [driver?_addDevice h, hdriver]

/-- A network with one wire more. -/
structure GainsWire (net : Network) (source : OutputRef) (target : InputRef) (after : Network) :
    Prop where
  unwired : after.unwired = net.unwired
  driver? : ∀ input, after.driver? input = if input = target then some source else net.driver? input
  connections : after.connections.Perm (⟨source, target⟩ :: net.connections)

/-- No wire is there twice, since no two of them end at the same input. -/
theorem WellFormed.nodup_connections (hnet : net.WellFormed) : net.connections.Nodup := by
  have hends : (net.connections.map Connection.target ++ net.floating).Nodup :=
    (perm_inputs net).nodup_iff.2 hnet.nodup_inputs
  exact List.Nodup.of_map Connection.target hends.of_append_left

/-- A connection that is accepted draws its wire and nothing else. -/
theorem gainsWire_connect {names : NameTable} {source : OutputRef} {target : InputRef}
    (hnet : net.WellFormed) (h : net.connect names source target = .ok after) :
    net.GainsWire source target after := by
  obtain ⟨-, -, hfree⟩ := (exists_connect_eq_ok_iff hnet names).1 ⟨after, h⟩
  have hdriver := driver?_connect h
  refine ⟨unwired_connect h, hdriver, ?_⟩
  have hnew : (⟨source, target⟩ : Connection) ∉ net.connections := by
    rw [hnet.mem_connections_iff, hfree]
    exact fun h => by cases h
  -- no wire is listed twice, so the lists are compared by their members
  refine (List.perm_ext_iff_of_nodup (hnet.connect h).nodup_connections
    (List.nodup_cons.2 ⟨hnew, hnet.nodup_connections⟩)).2 ?_
  rintro ⟨other, input⟩
  rw [(hnet.connect h).mem_connections_iff, List.mem_cons, hnet.mem_connections_iff, hdriver,
    Connection.mk.injEq]
  by_cases htarget : input = target
  · rw [if_pos htarget, htarget, hfree]
    simp [eq_comm]
  · simp [htarget]

/-- A wire to a free input leaves the others as they were. -/
theorem GainsWire.keeps {source : OutputRef} {target : InputRef} (h : net.GainsWire source target after)
    (hfree : net.driver? target = none) : net.Keeps after := by
  refine ⟨h.unwired ▸ List.prefix_rfl, fun input other hdriver => ?_⟩
  have hne : input ≠ target := by
    rintro rfl
    rw [hfree] at hdriver
    cases hdriver
  rw [h.driver?, if_neg hne, hdriver]

end Network

namespace Definition

variable {table : NameTable} {circuit : Circuit} {net : Network} {first : Symbol}
  {input rest : List Symbol}

/-- In a network in order a reader finds each device with its ports. -/
theorem regular_of_wellFormed (hnet : net.WellFormed) : Regular net :=
  fun device hmem =>
    ⟨DeviceKind.badQualifier?_of_legal (hnet.legal device hmem), hnet.declared device hmem⟩

/-! ## Clauses -/

/-- However far adding devices gets, it keeps what there was. -/
theorem addDevices_keeps (kind : DeviceKind) (listed : List (NameId × String)) {net : Network}
    (hnet : net.WellFormed) :
    (addDevices net kind listed).1.WellFormed ∧ net.Keeps (addDevices net kind listed).1 := by
  induction listed generalizing net with
  | nil => exact ⟨hnet, .refl net⟩
  | cons entry others ih =>
    unfold addDevices
    split
    · next after hadd =>
      obtain ⟨hafter, hkeeps⟩ := ih (hnet.addDevice hadd)
      exact ⟨hafter, (Network.keeps_addDevice hadd).trans hkeeps⟩
    · exact ⟨hnet, .refl net⟩

/-- A definition keeps what there was. -/
theorem define_keeps (hnet : net.WellFormed) (start : Place) (input : List Symbol) :
    (define net start input).1.WellFormed ∧ net.Keeps (define net start input).1 := by
  unfold define
  split
  · exact ⟨hnet, .refl net⟩
  · next listed kind left _ =>
    have hadded := addDevices_keeps kind listed hnet
    split
    · next after hadd =>
      rw [hadd] at hadded
      exact hadded
    · next after fault hadd =>
      rw [hadd] at hadded
      exact hadded

/-- What a connection says: an output and an input that exist, of which the input is free. -/
def Draws (table : NameTable) (net : Network) (input : List Symbol) (source : OutputRef)
    (target : InputRef) (left : List Symbol) : Prop :=
  Links table net input source target left ∧ net.driver? target = none

/-- A wire that can be drawn is drawn, whatever follows. -/
theorem exists_connect_of_draws (hnet : net.WellFormed) (hinput : Known table input)
    {source : OutputRef} {target : InputRef} {left : List Symbol}
    (h : Draws table net input source target left) :
    ∃ after, net.connect table source target = .ok after ∧
      connect table net input = (after, readSemicolon left) := by
  obtain ⟨hlinks, hfree⟩ := h
  obtain ⟨place, hwire⟩ :=
    (readWire_eq_ok hnet.distinct (regular_of_wellFormed hnet) hinput).2 hlinks
  obtain ⟨hsource, -, written, -, ⟨device, hdevice, hmeans, htarget⟩, -⟩ := hlinks
  obtain ⟨hmem, hid⟩ := Network.mem_of_device? hdevice
  -- what has been read is an input of the network, so the wire can only be refused if it is not free
  have hinputs : target ∈ net.inputs := by
    refine Network.mem_inputs_iff.2 ⟨device, hmem, hid.trans htarget.symm, ?_⟩
    rw [hnet.declared device hmem]
    exact Scope.mem_inputPorts_of_means hmeans
  obtain ⟨after, hafter⟩ :=
    (Network.exists_connect_eq_ok_iff hnet table).2 ⟨hsource, hinputs, hfree⟩
  refine ⟨after, hafter, ?_⟩
  rw [connect, hwire]
  dsimp only
  rw [hafter]

/-- A connection that says nothing of the kind draws no wire. -/
theorem exists_connect_eq_error (hnet : net.WellFormed) (hinput : Known table input)
    (h : ∀ source target left, ¬ Draws table net input source target left) :
    ∃ failure, connect table net input = (net, .error failure) := by
  rw [connect]
  cases hwire : readWire net input with
  | error failure => exact ⟨failure, rfl⟩
  | ok read =>
    obtain ⟨⟨source, target, place⟩, left⟩ := read
    have hlinks := (readWire_eq_ok hnet.distinct (regular_of_wellFormed hnet) hinput).1 ⟨place, hwire⟩
    dsimp only
    cases hconnect : net.connect table source target with
    | error fault => exact ⟨_, rfl⟩
    | ok after =>
      obtain ⟨-, -, hfree⟩ := (Network.exists_connect_eq_ok_iff hnet table).1 ⟨after, hconnect⟩
      exact absurd ⟨hlinks, hfree⟩ (h source target left)

/-- A connection keeps what there was. -/
theorem connect_keeps (table : NameTable) (hnet : net.WellFormed) (input : List Symbol) :
    (connect table net input).1.WellFormed ∧ net.Keeps (connect table net input).1 := by
  unfold connect
  split
  · exact ⟨hnet, .refl net⟩
  · next source target place left _ =>
    split
    · next after hconnect =>
      obtain ⟨-, -, hfree⟩ := (Network.exists_connect_eq_ok_iff hnet table).1 ⟨after, hconnect⟩
      exact ⟨hnet.connect hconnect, (Network.gainsWire_connect hnet hconnect).keeps hfree⟩
    · exact ⟨hnet, .refl net⟩

/-- What is wrong is that something else stands where a semicolon is due. -/
def MissesSemicolon (failure : Failure) (input : List Symbol) : Prop :=
  failure = .wanted .semicolon input ∧ ¬ ∃ left, Reads input [.semicolon] left

/-- What is missed where a semicolon is read is that semicolon. -/
theorem missesSemicolon_of_readSemicolon {failure : Failure}
    (h : readSemicolon input = .error failure) : MissesSemicolon failure input := by
  have hnot : ¬ ∃ left, Reads input [.semicolon] left := by
    rintro ⟨left, hleft⟩
    rw [readSemicolon_eq_ok (a := ()).2 hleft] at h
    cases h
  unfold readSemicolon at h
  split at h
  · cases h
  · cases h
    exact ⟨rfl, hnot⟩

/-! ## Statements -/

/-- A symbol is one keyword at most. -/
theorem isKeyword_unique {word other : Keyword} (h : first.isKeyword word)
    (h' : first.isKeyword other) : word = other := by
  have htoken := Symbol.isKeyword_iff.1 h
  rw [Symbol.isKeyword_iff.1 h'] at htoken
  cases htoken
  rfl

theorem statement_of_define (h : first.isKeyword .define) : statement table circuit first rest =
    ({ circuit with network := (define circuit.network (.atOffset first.offset) rest).1 },
      (define circuit.network (.atOffset first.offset) rest).2) := by
  rw [statement, if_pos h]

theorem statement_of_connect (h : first.isKeyword .connect) : statement table circuit first rest =
    ({ circuit with network := (connect table circuit.network rest).1 },
      (connect table circuit.network rest).2) := by
  have hdefine : ¬ first.isKeyword .define := fun h' => by cases isKeyword_unique h h'
  rw [statement, if_neg hdefine, if_pos h]

/-- What starts with the word is read as monitors. -/
theorem statement_of_monitor (h : first.isKeyword .monitor) : statement table circuit first rest =
    ({ circuit with monitors := (monitor table circuit.network circuit.monitors rest).1 },
      (monitor table circuit.network circuit.monitors rest).2) := by
  have hdefine : ¬ first.isKeyword .define := fun h' => by cases isKeyword_unique h h'
  have hconnect : ¬ first.isKeyword .connect := fun h' => by cases isKeyword_unique h h'
  rw [statement, if_neg hdefine, if_neg hconnect, if_pos h]

theorem statement_of_other (hdefine : ¬ first.isKeyword .define)
    (hconnect : ¬ first.isKeyword .connect) (hmonitor : ¬ first.isKeyword .monitor) :
    statement table circuit first rest
      = (circuit, .error (.wanted .statement (first :: rest))) := by
  rw [statement, if_neg hdefine, if_neg hconnect, if_neg hmonitor]

/-- What there was is left as it was, monitors with their histories included. -/
structure Circuit.Keeps (circuit after : Circuit) : Prop where
  network : circuit.network.Keeps after.network
  monitors : circuit.monitors.entries <+: after.monitors.entries

theorem Circuit.Keeps.refl (circuit : Circuit) : circuit.Keeps circuit :=
  ⟨.refl circuit.network, List.prefix_rfl⟩

theorem Circuit.Keeps.trans {after later : Circuit} (h : circuit.Keeps after) (h' : after.Keeps later) :
    circuit.Keeps later :=
  ⟨h.network.trans h'.network, h.monitors.trans h'.monitors⟩

/-- A statement, read to its end or not, leaves a network in order and keeps what there was. -/
theorem statement_keeps (hnet : circuit.network.WellFormed) (hinput : Known table (first :: rest)) :
    (statement table circuit first rest).1.network.WellFormed ∧
      circuit.Keeps (statement table circuit first rest).1 := by
  by_cases hdefine : first.isKeyword .define
  · rw [statement_of_define hdefine]
    obtain ⟨hafter, hkeeps⟩ := define_keeps hnet (.atOffset first.offset) rest
    exact ⟨hafter, hkeeps, List.prefix_rfl⟩
  · by_cases hconnect : first.isKeyword .connect
    · rw [statement_of_connect hconnect]
      obtain ⟨hafter, hkeeps⟩ := connect_keeps table hnet rest
      exact ⟨hafter, hkeeps, List.prefix_rfl⟩
    · by_cases hmonitor : first.isKeyword .monitor
      · rw [statement_of_monitor hmonitor]
        obtain ⟨outputs, left, hrun⟩ := exists_monitorRun hnet.distinct
          (hinput.of_suffix (List.suffix_cons first rest)) circuit.monitors
        refine ⟨hnet, .refl circuit.network, ?_⟩
        show circuit.monitors.entries <+: (monitor table circuit.network circuit.monitors rest).1.entries
        rw [hrun.monitors_eq]
        exact List.prefix_append ..
      · rw [statement_of_other hdefine hconnect hmonitor]
        exact ⟨hnet, .refl circuit⟩

/-- The states that a reading comes to at the start of a statement: the circuit as it is by then, and the
symbols that are left. -/
inductive Visits (table : NameTable) (circuit : Circuit) (input : List Symbol) :
    Circuit → List Symbol → Prop where
  | start : Visits table circuit input circuit input
  | next {reached : Circuit} {first : Symbol} {rest : List Symbol}
      (h : Visits table circuit input reached (first :: rest)) (hend : ¬ first.isKeyword .endWord) :
      Visits table circuit input (statement table reached first rest).1
        (resume (statement table reached first rest).2).2

/-- **All statements**, failing or not, are read in networks in order, and keep what there was. -/
theorem Visits.inOrder {reached : Circuit} {left : List Symbol}
    (h : Visits table circuit input reached left) (hnet : circuit.network.WellFormed)
    (hinput : Known table input) :
    reached.network.WellFormed ∧ Known table left ∧ circuit.Keeps reached := by
  induction h with
  | start => exact ⟨hnet, hinput, .refl circuit⟩
  -- the statement keeps what the ones in front of it have left
  | @next reached first rest _ hend ih =>
    obtain ⟨hreached, hleft, hkeeps⟩ := ih
    obtain ⟨hafter, hkeeps'⟩ := statement_keeps hreached hleft
    have hresumed : (resume (statement table reached first rest).2).2 <:+ first :: rest :=
      (resume_statement_suffix (Bool.eq_false_iff.2 hend)).trans (List.suffix_cons first rest)
    exact ⟨hafter, hleft.of_suffix hresumed, hkeeps.trans hkeeps'⟩

/-- Where a reading ends is the last state that it comes to. -/
theorem Visits.exists_last : ∀ {reached : Circuit} {left : List Symbol},
    Visits table circuit input reached left →
      ∃ last, Visits table circuit input (statements table reached left).1 last
  | reached, [], h => by
    rw [statements]
    exact ⟨[], h⟩
  | reached, first :: rest, h => by
    by_cases hend : first.isKeyword .endWord
    · rw [statements, dif_pos hend]
      exact ⟨first :: rest, h⟩
    · have hshorter : (resume (statement table reached first rest).2).2.length < rest.length + 1 :=
        Nat.lt_succ_of_le (resume_statement_suffix (Bool.eq_false_iff.2 hend)).length_le
      rw [statements, dif_neg hend]
      exact (h.next hend).exists_last
  termination_by _ left => left.length

/-- **What a statement that fails leaves behind.**

* A definition adds all of its devices if it is complete up to the semicolon and fails only for want of
  that, and otherwise none.
* So does a connection with its one wire.
* A `monitor` adds the outputs that stand one after the other in front of the symbols it fails at, exist
  and are not monitored yet, in their order and with empty histories, and none behind them.
* What starts with another symbol does nothing.

Whatever there was is as it was: devices with their states, wires, monitors with their histories. A reading
starts all its statements in circuits and at symbols like these (`Visits.inOrder`). -/
theorem statement_effects {failure : Failure} (hnet : circuit.network.WellFormed)
    (hinput : Known table (first :: rest))
    (h : (statement table circuit first rest).2 = .error failure) :
    let after := (statement table circuit first rest).1
    (first.isKeyword .define →
      (∃ names kind left, Introduces table circuit.network rest names kind left ∧
        MissesSemicolon failure left ∧
        after = { circuit with network := withDevices table circuit.network names kind }) ∨
      (∀ names kind left, ¬ Introduces table circuit.network rest names kind left) ∧
        after = circuit) ∧
    (first.isKeyword .connect →
      (∃ source target left, Draws table circuit.network rest source target left ∧
        MissesSemicolon failure left ∧
        circuit.network.GainsWire source target after.network ∧ after.monitors = circuit.monitors) ∨
      (∀ source target left, ¬ Draws table circuit.network rest source target left) ∧
        after = circuit) ∧
    (first.isKeyword .monitor →
      ∃ outputs left, Watches table circuit.network circuit.monitors rest outputs left ∧
        failure.rest <:+ left ∧
        Exhausted table circuit.network
          (circuit.monitors.points ++ outputs.map (Output.ref table)) left ∧
        after = { circuit with
          monitors := withMonitors circuit.monitors (outputs.map (Output.ref table)) }) ∧
    (¬ first.isKeyword .define → ¬ first.isKeyword .connect → ¬ first.isKeyword .monitor →
      after = circuit) ∧
    after.network.WellFormed ∧ circuit.Keeps after := by
  intro after
  have hrest : Known table rest := hinput.of_suffix (List.suffix_cons first rest)
  refine ⟨fun hdefine => ?_, fun hconnect => ?_, fun hmonitor => ?_,
    fun hdefine hconnect hmonitor => ?_, statement_keeps hnet hinput⟩
  · have hrun : statement table circuit first rest = _ := statement_of_define hdefine
    by_cases hintroduces : ∃ names kind left, Introduces table circuit.network rest names kind left
    · -- the devices are added before the semicolon is looked for
      obtain ⟨names, kind, left, hintroduces⟩ := hintroduces
      rw [define_of_introduces hrest _ hintroduces] at hrun
      rw [hrun] at h
      exact .inl ⟨names, kind, left, hintroduces, missesSemicolon_of_readSemicolon h, congrArg Prod.fst hrun⟩
    · have hnothing : ∀ names kind left, ¬ Introduces table circuit.network rest names kind left :=
        fun names kind left hnames => hintroduces ⟨names, kind, left, hnames⟩
      obtain ⟨_, hfailure⟩ :=
        define_of_not_introduces hrest (.atOffset first.offset) hnothing
      rw [hfailure] at hrun
      exact .inr ⟨hnothing, congrArg Prod.fst hrun⟩
  · have hrun : statement table circuit first rest = _ := statement_of_connect hconnect
    by_cases hdraws : ∃ source target left, Draws table circuit.network rest source target left
    · -- the wire is drawn before the semicolon is looked for, too
      obtain ⟨source, target, left, hdraws⟩ := hdraws
      obtain ⟨network, hdrawn, heq⟩ := exists_connect_of_draws hnet hrest hdraws
      rw [heq] at hrun
      rw [hrun] at h
      refine .inl ⟨source, target, left, hdraws, missesSemicolon_of_readSemicolon h, ?_, ?_⟩
      · show circuit.network.GainsWire source target (statement table circuit first rest).1.network
        rw [hrun]
        exact Network.gainsWire_connect hnet hdrawn
      · exact congrArg (fun outcome => outcome.1.monitors) hrun
    · have hnothing : ∀ source target left, ¬ Draws table circuit.network rest source target left :=
        fun source target left hwire => hdraws ⟨source, target, left, hwire⟩
      obtain ⟨_, hfailure⟩ := exists_connect_eq_error hnet hrest hnothing
      rw [hfailure] at hrun
      exact .inr ⟨hnothing, congrArg Prod.fst hrun⟩
  · have hrun : statement table circuit first rest = _ := statement_of_monitor hmonitor
    -- the outputs are watched up to the one that it failed at
    obtain ⟨outputs, left, hwatches, hmonitors, houtcome⟩ :=
      exists_monitorRun hnet.distinct hrest circuit.monitors
    rw [hmonitors] at hrun
    rw [hrun] at h
    rcases houtcome with ⟨-, _, -, hok⟩ | ⟨failure', hfailure, hwithin, hexhausted⟩
    · -- the statement has not been read to its end
      rw [hok] at h
      cases h
    · rw [hfailure] at h
      cases h
      exact ⟨outputs, left, hwatches, hwithin, hexhausted, congrArg Prod.fst hrun⟩
  · exact congrArg Prod.fst (statement_of_other hdefine hconnect hmonitor)

/-- A table of three names. -/
def letters : NameTable where
  texts := #["A", "B", "I1"]
  distinct := by decide
  codesIssued := 0

/-- `A A;`, after `monitor`. -/
def watchedTwice : List Symbol :=
  [⟨.name "A" ⟨0⟩, 44⟩, ⟨.name "A" ⟨0⟩, 46⟩, ⟨.semicolon, 47⟩]

/-- `A to B.I1 monitor A A;`, after `connect`. -/
def wiredUnended : List Symbol :=
  [⟨.name "A" ⟨0⟩, 26⟩, ⟨.keyword .toWord ⟨0⟩, 28⟩, ⟨.name "B" ⟨1⟩, 31⟩, ⟨.fullStop, 32⟩,
    ⟨.name "I1" ⟨2⟩, 33⟩, ⟨.keyword .monitor ⟨0⟩, 36⟩] ++ watchedTwice

/-- `A B as XOR connect A to B.I1 monitor A A;`, after `define`. -/
def definedUnended : List Symbol :=
  [⟨.name "A" ⟨0⟩, 7⟩, ⟨.name "B" ⟨1⟩, 9⟩, ⟨.keyword .as ⟨0⟩, 11⟩, ⟨.keyword .xor ⟨0⟩, 14⟩,
    ⟨.keyword .connect ⟨0⟩, 18⟩] ++ wiredUnended

/-- All names of the text are in the table. -/
theorem known_definedUnended : Known letters (⟨.keyword .define ⟨0⟩, 0⟩ :: definedUnended) := by
  have hA : letters.id? "A" = some ⟨0⟩ := by decide +kernel
  have hB : letters.id? "B" = some ⟨1⟩ := by decide +kernel
  have hI1 : letters.id? "I1" = some ⟨2⟩ := by decide +kernel
  simp [Known, definedUnended, wiredUnended, watchedTwice, hA, hB, hI1]

/-- A text without semicolons up to its end, statement by statement: each fails where the next one starts,
and the last one at a name that it has twice. Both devices are added, the wire is drawn, and the output is
monitored once. -/
theorem statement_effects_unended :
    let defined := statement letters .empty ⟨.keyword .define ⟨0⟩, 0⟩ definedUnended
    let wired := statement letters defined.1 ⟨.keyword .connect ⟨0⟩, 18⟩ wiredUnended
    let watched := statement letters wired.1 ⟨.keyword .monitor ⟨0⟩, 36⟩ watchedTwice
    (defined.2 = .error (.wanted .semicolon (definedUnended.drop 4)) ∧
      defined.1.network.ids = [⟨0⟩, ⟨1⟩] ∧
      ∃ names kind left, Introduces letters .empty definedUnended names kind left ∧
        defined.1.network = withDevices letters .empty names kind) ∧
    (defined.1.network.WellFormed ∧ Known letters (⟨.keyword .connect ⟨0⟩, 18⟩ :: wiredUnended) ∧
      wired.2 = .error (.wanted .semicolon (wiredUnended.drop 5)) ∧
      ∃ source target left, Draws letters defined.1.network wiredUnended source target left ∧
        defined.1.network.GainsWire source target wired.1.network) ∧
    (wired.1.network.WellFormed ∧ Known letters (⟨.keyword .monitor ⟨0⟩, 36⟩ :: watchedTwice) ∧
      watched.2 = .error ⟨.mistake (.duplicateMonitor "A"), .atOffset 46, watchedTwice.drop 2⟩ ∧
      watched.1.monitors.entries = [⟨⟨⟨0⟩, .main⟩, #[]⟩] ∧ wired.1.Keeps watched.1 ∧
      ∃ outputs left, Watches letters wired.1.network wired.1.monitors watchedTwice outputs left) := by
  intro defined wired watched
  have hfacts : defined.2 = .error (.wanted .semicolon (definedUnended.drop 4)) ∧
      defined.1.network.ids = [⟨0⟩, ⟨1⟩] ∧
      wired.2 = .error (.wanted .semicolon (wiredUnended.drop 5)) ∧ wired.1 ≠ defined.1 ∧
      watched.2 = .error ⟨.mistake (.duplicateMonitor "A"), .atOffset 46, watchedTwice.drop 2⟩ ∧
      watched.1.monitors.entries = [⟨⟨⟨0⟩, .main⟩, #[]⟩] := by
    decide +kernel
  obtain ⟨hdefined, hids, hwired, hwire, hwatched, hentries⟩ := hfacts
  have hknown : Known letters (⟨.keyword .connect ⟨0⟩, 18⟩ :: wiredUnended) :=
    known_definedUnended.of_suffix ⟨_ :: definedUnended.take 4, rfl⟩
  have hknown' : Known letters (⟨.keyword .monitor ⟨0⟩, 36⟩ :: watchedTwice) :=
    hknown.of_suffix ⟨_ :: wiredUnended.take 5, rfl⟩
  obtain ⟨hdefine, -, -, -, hnet, -⟩ :=
    statement_effects Network.wellFormed_empty known_definedUnended hdefined
  obtain ⟨-, hconnect, -, -, hnet', -⟩ := statement_effects hnet hknown hwired
  obtain ⟨-, -, hmonitor, -, -, hkeeps⟩ := statement_effects hnet' hknown' hwatched
  refine ⟨⟨hdefined, hids, ?_⟩, ⟨hnet, hknown, hwired, ?_⟩,
    hnet', hknown', hwatched, hentries, hkeeps, ?_⟩
  · rcases hdefine rfl with ⟨names, kind, left, hnames, -, hafter⟩ | ⟨-, hafter⟩
    · exact ⟨names, kind, left, hnames, congrArg Circuit.network hafter⟩
    · rw [show defined.1 = .empty from hafter] at hids
      cases hids
  · rcases hconnect rfl with ⟨source, target, left, hdraws, -, hgains, -⟩ | ⟨-, hafter⟩
    · exact ⟨source, target, left, hdraws, hgains⟩
    · exact absurd hafter hwire
  · obtain ⟨outputs, left, hwatches, -⟩ := hmonitor rfl
    exact ⟨outputs, left, hwatches⟩

end Definition

end LogicCircuit
