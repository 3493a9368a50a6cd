import LogicCircuit.Proofs.Definition.Effects
import LogicCircuit.Proofs.Definition.Relocation
import LogicCircuit.Proofs.Definition.Segments

/-!
# Requests — what a reading asks of a circuit is granted

A statement is checked twice: by the reader, which looks up the devices and their ports, and again by the
network and the monitors when they are asked for what has been read. The second check finds next to nothing
any more. A request is refused only for what a reader does not look at, which is whether an input is driven
already and whether an output is monitored already.

* **`requests`** — what a statement asks for, read off its symbols; **`Circuit.grant`** makes requests one
  after the other, up to the first that is refused. `Grants`: that is what has been read, and
  `statement_grants` says so of each statement.
* **`readNames_free`**, **`addDevices_granted`** — names are checked against the network and against each
  other, and bodies have legal qualifiers, so a definition adds all of its devices.
* **`exists_connect_eq`**, **`exists_add_eq`** — references are read only if the network has what they refer
  to, so wires and monitors are refused for one reason each.
* **`statement_fails`** — what a statement can fail with, in any circuit.
* **`requests_granted`** — so it is for all statements of any text, read onto any tables.
-/

namespace LogicCircuit.Definition

variable {net : Network} {table : NameTable} {circuit : Circuit} {first : Symbol}
  {input rest left : List Symbol}

/-! ## Requests -/

/-- What a circuit is asked for while a definition is read. -/
inductive Request where
  | device (id : NameId) (name : String) (kind : DeviceKind)
  | wire (source : OutputRef) (target : InputRef)
  | watch (point : OutputRef)
  deriving DecidableEq, Repr

namespace Circuit

/-- The circuit after a request, or why it is refused. -/
def answer (table : NameTable) (circuit : Circuit) : Request → Except Fault Circuit
  | .device id name kind =>
    (circuit.network.addDevice id name kind).map fun network => { circuit with network }
  | .wire source target =>
    (circuit.network.connect table source target).map fun network => { circuit with network }
  | .watch point =>
    (circuit.monitors.add table circuit.network point 0).map fun monitors => { circuit with monitors }

/-- Makes requests one after the other, up to the first that is refused. -/
def grant (table : NameTable) (circuit : Circuit) :
    List Request → Circuit × Except (Request × Fault) Unit
  | [] => (circuit, .ok ())
  | request :: others =>
    match circuit.answer table request with
    | .ok after => after.grant table others
    | .error fault => (circuit, .error (request, fault))

end Circuit

/-- The outputs that stand one after the other, through the last one after which no name follows. -/
def watched (net : Network) (input : List Symbol) : List OutputRef :=
  match _h : readOutput net input with
  | .error _ => []
  | .ok (point, rest) => point :: if atName rest then watched net rest else []
  termination_by input.length
  decreasing_by exact length_readOutput_lt _h

/-- The outputs are read one after the other, without a look at what has been read before. -/
theorem watched_eq (net : Network) (input : List Symbol) : watched net input =
    match readOutput net input with
    | .error _ => []
    | .ok (point, rest) => point :: if atName rest then watched net rest else [] := by
  rw [watched]
  split
  · next h => rw [h]
  · next h => rw [h]

/-- What the statement that starts with a given symbol asks for, if nothing of it is refused. -/
def requests (net : Network) (first : Symbol) (rest : List Symbol) : List Request :=
  if first.isKeyword .define then
    match readDevices net rest with
    | .ok ((listed, kind), _) => listed.map fun (id, name) => .device id name kind
    | .error _ => []
  else if first.isKeyword .connect then
    match readWire net rest with
    | .ok ((source, target, _), _) => [.wire source target]
    | .error _ => []
  else if first.isKeyword .monitor then (watched net rest).map .watch
  else []

/-! ## Devices -/

/-- The handles are free and differ from each other. -/
structure Admitted (net : Network) (listed : List (NameId × String)) : Prop where
  nodup : (listed.map Prod.fst).Nodup
  free : ∀ entry ∈ listed, net.device? entry.1 = none

/-- **Names** are read only if they are free, and not listed already. -/
theorem readNames_free {listed all : List (NameId × String)} (hlisted : Admitted net listed)
    (h : readNames net listed input = .ok (all, left)) : Admitted net all := by
  induction input generalizing listed with
  | nil => cases h
  | cons symbol rest ih =>
    unfold readNames at h
    split at h
    · next text id offset rest' hcons =>
      cases hcons
      split at h
      · cases h
      · next hnew =>
        rw [Bool.or_eq_true, not_or, Bool.not_eq_true, Option.isSome_eq_false_iff,
          Option.isNone_iff_eq_none] at hnew
        obtain ⟨hfree, hunlisted⟩ := hnew
        -- the name is free in the network, and was not listed before
        have hmore : Admitted net (listed ++ [(id, text)]) := by
          constructor
          · rw [List.map_append]
            refine hlisted.nodup.append (List.nodup_singleton id) fun other hold hself => hunlisted ?_
            obtain ⟨entry, hentry, rfl⟩ := List.mem_map.1 hold
            exact List.any_eq_true.2 ⟨entry, hentry, decide_eq_true (List.mem_singleton.1 hself)⟩
          · exact List.forall_mem_append.2 ⟨hlisted.free, List.forall_mem_singleton.2 hfree⟩
        split at h
        · cases h
          exact hmore
        · exact ih hmore h
    · cases h

/-- The devices of a definition can be added: their handles are free, and their kind is legal. -/
theorem readDevices_admitted {listed : List (NameId × String)} {kind : DeviceKind}
    (h : readDevices net input = .ok ((listed, kind), left)) :
    Admitted net listed ∧ kind.badQualifier? = none := by
  obtain ⟨middle, hnames, hbody⟩ := readDevices_parts.1 h
  obtain ⟨body, -, hmeans⟩ := readBody_sound hbody
  have hnone : Admitted net [] := ⟨List.nodup_nil, by simp⟩
  exact ⟨readNames_free hnone hnames, Scope.badQualifier?_of_means hmeans⟩

/-- **Devices** under free handles are all added: none of them takes the handle of another. -/
theorem addDevices_granted {listed : List (NameId × String)} {kind : DeviceKind}
    (hkind : kind.badQualifier? = none) (h : Admitted net listed) :
    (addDevices net kind listed).2 = .ok () := by
  induction listed generalizing net with
  | nil => rfl
  | cons entry others ih =>
    obtain ⟨id, name⟩ := entry
    obtain ⟨hnodup, hfree⟩ := h
    obtain ⟨hid, hothers⟩ := List.forall_mem_cons.1 hfree
    obtain ⟨hne, hnodup'⟩ := List.nodup_cons.1 hnodup
    have hadd : net.addDevice id name kind
        = .ok { devices := net.devices ++ [.new id name kind] } := by
      rw [Network.addDevice, hid, hkind]
      rfl
    rw [addDevices, hadd]
    refine ih ⟨hnodup', fun other hother => ?_⟩
    have hold := hothers other hother
    rw [Network.device?_eq_none_iff, Network.ids] at hold ⊢
    rw [List.map_append, List.mem_append, not_or]
    -- the device that was added has another handle than those that are left
    refine ⟨hold, fun hself => hne ?_⟩
    have hsame : other.1 = id := List.mem_singleton.1 hself
    rw [← hsame]
    exact List.mem_map.2 ⟨other, hother, rfl⟩

/-- **A definition** never stops among its devices. -/
theorem addDevices_of_readDevices {listed : List (NameId × String)} {kind : DeviceKind}
    (h : readDevices net input = .ok ((listed, kind), left)) :
    (addDevices net kind listed).2 = .ok () := by
  obtain ⟨hadmitted, hkind⟩ := readDevices_admitted h
  exact addDevices_granted hkind hadmitted

/-! ## References -/

/-- The device that a name is found to be is in the network. -/
theorem device?_of_deviceAt {text : String} {device : Device}
    (h : deviceAt net input = .ok (text, device)) : net.device? device.id = some device := by
  unfold deviceAt at h
  split at h
  · split at h
    · next found hfound =>
      cases h
      rw [(Network.mem_of_device? hfound).2]
      exact hfound
    · cases h
  · cases h

/-- **Outputs** are read only if they exist. -/
theorem hasOutput_of_readOutput {output : OutputRef} (h : readOutput net input = .ok (output, left)) :
    ∃ device, net.device? output.device = some device ∧ device.hasOutput output.port := by
  -- the reader compares the port with the kind, and that is what an output is
  have hport : ∀ {device : Device} {port : OutputPort}, (port ≠ .main ↔ device.kind = .dtype) →
      device.hasOutput port := by
    intro device port hiff
    rw [Device.hasOutput, Device.outputPorts, List.contains_iff_mem]
    exact Scope.mem_outputPorts_iff.2 hiff
  cases hdevice : deviceAt net input with
  | error failure =>
    simp only [readOutput, hdevice] at h
    cases h
  | ok found =>
    obtain ⟨text, device⟩ := found
    have hfound := device?_of_deviceAt hdevice
    simp only [readOutput, hdevice] at h
    split at h
    · split at h
      · next hkind =>
        have hq : OutputPort.q ≠ .main := by decide
        have hqbar : OutputPort.qbar ≠ .main := by decide
        -- a flip-flop has the outputs that the reader knows of
        rcases readFlipFlopPort_eq_ok.1 h with ⟨-, rfl⟩ | ⟨-, rfl⟩
        · exact ⟨device, hfound, hport ⟨fun _ => hkind, fun _ => hq⟩⟩
        · exact ⟨device, hfound, hport ⟨fun _ => hkind, fun _ => hqbar⟩⟩
      · cases h
    · split at h
      · cases h
      · next hkind =>
        cases h
        exact ⟨device, hfound, hport ⟨fun hne => absurd rfl hne, fun heq => absurd heq hkind⟩⟩

/-- **Inputs** are read only if they exist. -/
theorem hasInput_of_readInput {target : InputRef} (h : readInput net input = .ok (target, left)) :
    ∃ device, net.device? target.device = some device ∧ device.hasInput target.port := by
  cases hdevice : deviceAt net input with
  | error failure =>
    simp only [readInput, hdevice] at h
    cases h
  | ok found =>
    obtain ⟨text, device⟩ := found
    simp only [readInput, hdevice] at h
    split at h
    · unfold readPort at h
      split at h
      · cases h
      · split at h
        · next hinput =>
          cases h
          exact ⟨device, device?_of_deviceAt hdevice, hinput⟩
        · cases h
    · cases h

/-- **Wires** are read only between ports that exist. All that is left to check is whether the input is
driven, and the table is not asked for names. -/
theorem exists_connect_eq {source : OutputRef} {target : InputRef} {place : Place}
    (hread : readWire net input = .ok ((source, target, place), left)) :
    ∃ device : Device, ∀ table, net.connect table source target =
      if (device.driver? target.port).isSome then
        .error (.inputConnected (device.inputName target.port))
      else .ok (net.update target.device fun device => device.wire target.port source) := by
  obtain ⟨middle, behind, hsource, -, htarget, -⟩ := readWire_parts.1 hread
  obtain ⟨driver, hdriver, houtput⟩ := hasOutput_of_readOutput hsource
  obtain ⟨device, hdevice, hinput⟩ := hasInput_of_readInput htarget
  refine ⟨device, fun table => ?_⟩
  rw [Network.connect, hdriver]
  simp only [houtput, hdevice, hinput, Bool.not_true, Bool.false_eq_true, if_false]

/-- **Monitors** are read only of outputs that exist, so only a second monitor is refused. -/
theorem exists_add_eq {point : OutputRef} (hread : readOutput net input = .ok (point, left)) :
    ∃ signal, ∀ (table : NameTable) (monitors : Monitors), monitors.add table net point 0 =
      if monitors.contains point then .error (.monitorPresent signal)
      else .ok { entries := monitors.entries ++ [⟨point, Array.replicate 0 .blank⟩] } := by
  obtain ⟨device, hdevice, houtput⟩ := hasOutput_of_readOutput hread
  have hname : net.signalName? point = some (device.outputName point.port) := by
    rw [Network.signalName?, hdevice, Option.bind_some, if_pos houtput]
  refine ⟨device.outputName point.port, fun table monitors => ?_⟩
  rw [Monitors.add, hname]

/-- A wire that has been read is refused only if its input is driven. -/
theorem connect_fault {source : OutputRef} {target : InputRef} {place : Place} {fault : Fault}
    (hread : readWire net input = .ok ((source, target, place), left))
    (h : net.connect table source target = .error fault) : ∃ input, fault = .inputConnected input := by
  obtain ⟨device, hconnect⟩ := exists_connect_eq hread
  rw [hconnect] at h
  split at h
  · cases h
    exact ⟨_, rfl⟩
  · cases h

/-- A monitor that has been read is refused only if its output is monitored. -/
theorem add_fault {monitors : Monitors} {point : OutputRef} {fault : Fault}
    (hread : readOutput net input = .ok (point, left))
    (h : monitors.add table net point 0 = .error fault) : ∃ signal, fault = .monitorPresent signal := by
  obtain ⟨signal, hadd⟩ := exists_add_eq hread
  rw [hadd] at h
  split at h
  · cases h
    exact ⟨_, rfl⟩
  · cases h

/-! ## Statements -/

/-- Devices that can all be added are granted one after the other. -/
theorem grant_devices {listed : List (NameId × String)} {kind : DeviceKind}
    (h : (addDevices circuit.network kind listed).2 = .ok ()) :
    circuit.grant table (listed.map fun (id, name) => .device id name kind)
      = ({ circuit with network := (addDevices circuit.network kind listed).1 }, .ok ()) := by
  induction listed generalizing circuit with
  | nil => rfl
  | cons entry others ih =>
    obtain ⟨id, name⟩ := entry
    cases hadd : circuit.network.addDevice id name kind with
    | error fault =>
      rw [addDevices, hadd] at h
      cases h
    | ok network =>
      rw [addDevices, hadd] at h ⊢
      rw [List.map_cons, Circuit.grant, Circuit.answer, hadd]
      exact @ih { circuit with network } h

/-- A request is refused for a wire to an input that is driven, or for an output that is monitored. -/
def Request.Refusable (request : Request) (fault : Fault) : Prop :=
  (∃ source target input, request = .wire source target ∧ fault = .inputConnected input) ∨
    ∃ point signal, request = .watch point ∧ fault = .monitorPresent signal

/-- What has been read is what the requests come to, and one that is refused is what reading fails with. -/
structure Grants (table : NameTable) (circuit : Circuit) (asked : List Request)
    (read : Circuit × Except Failure (Unit × List Symbol)) : Prop where
  after : read.1 = (circuit.grant table asked).1
  refused : ∀ request fault, (circuit.grant table asked).2 = .error (request, fault) →
    request.Refusable fault ∧ ∃ place left, read.2 = .error ⟨.mistake (.ofFault fault), place, left⟩

namespace Grants

variable {asked : List Request} {request : Request} {after : Circuit}
  {read : Circuit × Except Failure (Unit × List Symbol)}

/-- Requests that are all granted leave nothing to fail with. -/
theorem of_ok (h : circuit.grant table asked = (read.1, .ok ())) : Grants table circuit asked read := by
  refine ⟨by rw [h], fun request fault hrefused => ?_⟩
  rw [h] at hrefused
  cases hrefused

/-- The first request that is refused is the last that is made. -/
theorem of_error {fault : Fault} {place : Place} {left : List Symbol}
    (h : circuit.answer table request = .error fault) (hrefusable : request.Refusable fault) :
    Grants table circuit (request :: asked) (circuit, .error ⟨.mistake (.ofFault fault), place, left⟩) := by
  have hgrant : circuit.grant table (request :: asked) = (circuit, .error (request, fault)) := by
    rw [Circuit.grant, h]
  refine ⟨by rw [hgrant], fun request' fault' hrefused => ?_⟩
  rw [hgrant] at hrefused
  cases hrefused
  exact ⟨hrefusable, place, left, rfl⟩

/-- One request is granted in front of the others. -/
theorem cons (h : circuit.answer table request = .ok after) (hothers : Grants table after asked read) :
    Grants table circuit (request :: asked) read := by
  have hgrant : circuit.grant table (request :: asked) = after.grant table asked := by
    rw [Circuit.grant, h]
  constructor
  · rw [hgrant]
    exact hothers.after
  · rw [hgrant]
    exact hothers.refused

end Grants

/-- **A definition** is granted all of its devices. -/
theorem grants_define (hdefine : first.isKeyword .define) :
    Grants table circuit (requests circuit.network first rest) (statement table circuit first rest) := by
  rw [requests, if_pos hdefine, statement_of_define hdefine, define]
  cases hread : readDevices circuit.network rest with
  | error failure => exact .of_ok rfl
  | ok outcome =>
    obtain ⟨⟨listed, kind⟩, left⟩ := outcome
    have hadded := addDevices_of_readDevices hread
    have hgrant := @grant_devices table circuit listed kind hadded
    dsimp only
    rcases hdevices : addDevices circuit.network kind listed with ⟨network, outcome⟩
    rw [hdevices] at hadded hgrant
    cases hadded
    exact .of_ok hgrant

/-- **A connection** is granted its wire, or is blamed for it. -/
theorem grants_connect (hdefine : ¬ first.isKeyword .define) (hconnect : first.isKeyword .connect) :
    Grants table circuit (requests circuit.network first rest) (statement table circuit first rest) := by
  rw [requests, if_neg hdefine, if_pos hconnect, statement_of_connect hconnect, connect]
  cases hread : readWire circuit.network rest with
  | error failure => exact .of_ok rfl
  | ok outcome =>
    obtain ⟨⟨source, target, place⟩, left⟩ := outcome
    have hanswer : circuit.answer table (.wire source target)
        = (circuit.network.connect table source target).map fun network => { circuit with network } := rfl
    dsimp only
    cases hwire : circuit.network.connect table source target with
    | ok network =>
      rw [hwire] at hanswer
      exact .cons hanswer (.of_ok rfl)
    | error fault =>
      rw [hwire] at hanswer
      obtain ⟨input, rfl⟩ := connect_fault hread hwire
      exact .of_error hanswer (.inl ⟨source, target, input, rfl, rfl⟩)

/-- **Monitors** are asked for one after the other, as long as none is refused. -/
theorem grants_monitor (table : NameTable) (circuit : Circuit) (input : List Symbol) :
    let outcome := monitor table circuit.network circuit.monitors input
    Grants table circuit ((watched circuit.network input).map .watch)
      ({ circuit with monitors := outcome.1 }, outcome.2) := by
  rw [watched_eq, monitor_eq]
  cases hread : readOutput circuit.network input with
  | error failure => exact .of_ok rfl
  | ok outcome =>
    obtain ⟨point, rest⟩ := outcome
    have hanswer : circuit.answer table (.watch point)
        = (circuit.monitors.add table circuit.network point 0).map
          fun monitors => { circuit with monitors } := rfl
    dsimp only
    rw [List.map_cons]
    cases hadd : circuit.monitors.add table circuit.network point 0 with
    | error fault =>
      rw [hadd] at hanswer
      obtain ⟨signal, rfl⟩ := add_fault hread hadd
      exact .of_error hanswer (.inr ⟨point, signal, rfl, rfl⟩)
    | ok monitors =>
      rw [hadd] at hanswer
      refine .cons hanswer ?_
      dsimp only
      -- the outputs that are left are asked for in the circuit with this monitor
      by_cases hname : atName rest
      · have hshorter : rest.length < input.length := length_readOutput_lt hread
        rw [if_pos hname, if_pos hname]
        exact grants_monitor table { circuit with monitors } rest
      · rw [if_neg hname, if_neg hname]
        exact .of_ok rfl
  termination_by input.length

/-- **What a statement does** to a circuit is what its requests do. -/
theorem statement_grants (table : NameTable) (circuit : Circuit) (first : Symbol) (rest : List Symbol) :
    Grants table circuit (requests circuit.network first rest) (statement table circuit first rest) := by
  by_cases hdefine : first.isKeyword .define
  · exact grants_define hdefine
  · by_cases hconnect : first.isKeyword .connect
    · exact grants_connect hdefine hconnect
    · rw [requests, if_neg hdefine, if_neg hconnect]
      by_cases hmonitor : first.isKeyword .monitor
      · rw [if_pos hmonitor, statement_of_monitor hmonitor]
        exact grants_monitor table circuit rest
      · rw [if_neg hmonitor, statement_of_other hdefine hconnect hmonitor]
        exact .of_ok rfl

/-! ## Failures -/

/-- What a statement fails with: what a reader fails with, or that something is taken to which a symbol in
front of the unread ones refers. -/
inductive Fails (rest : List Symbol) : Failure → Prop where
  | raised {failure : Failure} (h : Raised failure) : Fails rest failure
  | taken {what : Mistake} (hwhat : what.isRead) {symbol : Symbol} {behind left : List Symbol}
      (hread : symbol :: behind <:+ rest) (hleft : left <:+ behind) :
      Fails rest ⟨.mistake what, .atOffset symbol.offset, left⟩

/-- What a reader fails with, a statement fails with. -/
theorem Fails.of_raises {α : Type} {outcome : Except Failure α} {failure : Failure}
    (h : Raises outcome) (heq : outcome = .error failure) : Fails rest failure := by
  rw [heq] at h
  exact .raised h

/-- A statement never fails with a message of the circuit. -/
theorem Fails.ne_refused {failure : Failure} (h : Fails rest failure) (message : String) :
    failure.problem ≠ .mistake (.refused message) := by
  cases h with
  | raised hraised => exact hraised.ne_refused message
  | taken hwhat hread hleft =>
    rintro ⟨⟩
    cases hwhat

/-- A reference to an output takes the name of the device, and what follows it. -/
theorem readOutput_behind {output : OutputRef} (h : readOutput net input = .ok (output, left)) :
    ∃ symbol behind, input = symbol :: behind ∧ left <:+ behind := by
  obtain ⟨text, id, offset, behind, rfl⟩ := deviceAt_of_readOutput h
  cases hdevice : deviceAt net (⟨.name text id, offset⟩ :: behind) with
  | error failure =>
    simp only [readOutput, hdevice] at h
    cases h
  | ok found =>
    have hwithin := readOutput_staysWithin_tail hdevice
    rw [h] at hwithin
    exact ⟨_, behind, rfl, hwithin⟩

/-- So does a reference to an input. -/
theorem readInput_behind {target : InputRef} (h : readInput net input = .ok (target, left)) :
    ∃ symbol behind, input = symbol :: behind ∧ left <:+ behind := by
  obtain ⟨text, id, offset, behind, rfl⟩ := deviceAt_of_readInput h
  cases hdevice : deviceAt net (⟨.name text id, offset⟩ :: behind) with
  | error failure =>
    simp only [readInput, hdevice] at h
    cases h
  | ok found =>
    simp only [readInput, hdevice, List.tail_cons] at h
    split at h
    · next dot port =>
      have hwithin := readPort_staysWithin found.1 found.2 port
      rw [h] at hwithin
      exact ⟨_, _, rfl, List.IsSuffix.trans hwithin (List.suffix_cons ..)⟩
    · cases h

/-- The place that a wire ends at is that of a symbol that has been read. -/
theorem readWire_behind {source : OutputRef} {target : InputRef} {place : Place}
    (h : readWire net input = .ok ((source, target, place), left)) :
    ∃ symbol behind, symbol :: behind <:+ input ∧ left <:+ behind ∧ place = .atOffset symbol.offset := by
  obtain ⟨middle, middle', hsource, hword, htarget, rfl⟩ := readWire_parts.1 h
  have hfront := readOutput_staysWithin net input
  rw [hsource] at hfront
  have hmiddle : middle' <:+ input := hword.suffix.trans hfront
  obtain ⟨symbol, behind, rfl, hleft⟩ := readInput_behind htarget
  exact ⟨symbol, behind, hmiddle, hleft, rfl⟩

/-- A definition fails while it is read, since its devices are added whatever they are. -/
theorem define_fails {start : Place} {failure : Failure}
    (h : (define net start input).2 = .error failure) : Fails rest failure := by
  unfold define at h
  split at h
  · next hread => exact .of_raises (raises_readDevices net input) (hread.trans (by cases h; rfl))
  · next listed kind left hread =>
    -- the network never refuses what has been read
    have hadded := addDevices_of_readDevices hread
    split at h
    · exact .of_raises (raises_readSemicolon _) h
    · next hrefused =>
      rw [hrefused] at hadded
      cases hadded

/-- A connection fails while it is read, or at an input that is driven. -/
theorem connect_fails {failure : Failure} (h : (connect table net rest).2 = .error failure) :
    Fails rest failure := by
  unfold connect at h
  split at h
  · next hread => exact .of_raises (raises_readWire net rest) (hread.trans (by cases h; rfl))
  · next source target place left hread =>
    split at h
    · exact .of_raises (raises_readSemicolon _) h
    · next fault hwire =>
      obtain ⟨input, rfl⟩ := connect_fault hread hwire
      obtain ⟨symbol, behind, hsuffix, hleft, rfl⟩ := readWire_behind hread
      cases h
      exact .taken rfl hsuffix hleft

/-- Monitors fail while they are read, or at an output that is monitored. -/
theorem monitor_fails {input : List Symbol} (monitors : Monitors) (hinput : input <:+ rest)
    {failure : Failure} (h : (monitor table net monitors input).2 = .error failure) : Fails rest failure := by
  rw [monitor_eq] at h
  cases hread : readOutput net input with
  | error failure' =>
    rw [hread] at h
    cases h
    exact .of_raises (raises_readOutput net input) hread
  | ok outcome =>
    obtain ⟨point, left⟩ := outcome
    obtain ⟨symbol, behind, hcons, hleft⟩ := readOutput_behind hread
    have hrest : left <:+ rest :=
      (hleft.trans (hcons ▸ List.suffix_cons symbol behind)).trans hinput
    rw [hread] at h
    dsimp only at h
    split at h
    · next fault hadd =>
      obtain ⟨signal, rfl⟩ := add_fault hread hadd
      subst hcons
      cases h
      exact .taken rfl hinput hleft
    · split at h
      · have hshorter : left.length < input.length := length_readOutput_lt hread
        exact monitor_fails _ hrest h
      · exact .of_raises (raises_readSemicolon left) h
  termination_by input.length

/-- **What a statement fails with**, in any circuit. -/
theorem statement_fails {failure : Failure} (h : (statement table circuit first rest).2 = .error failure) :
    Fails rest failure := by
  unfold statement at h
  split at h
  · exact define_fails h
  · split at h
    · exact connect_fails h
    · split at h
      · exact monitor_fails _ List.suffix_rfl h
      · cases h
        exact .raised (.wanted .statement _)

/-! ## Readings -/

/-- Nothing that is found says that a circuit has refused something for a reason of its own. -/
theorem ne_refused_statements (table : NameTable) (circuit : Circuit) (input : List Symbol) :
    ∀ finding ∈ (statements table circuit input).2, ∀ message,
      finding.problem ≠ .mistake (.refused message) := by
  rw [statements.eq_def]
  split
  · refine List.forall_mem_singleton.2 fun message h => ?_
    cases h
  · next first rest =>
    split
    · simp
    · next hend =>
      have hend' : first.isKeyword .endWord = false := Bool.eq_false_iff.2 hend
      have hshorter : (resume (statement table circuit first rest).2).2.length < rest.length + 1 :=
        Nat.lt_succ_of_le (resume_statement_suffix hend').length_le
      refine List.forall_mem_append.2 ⟨fun finding hmem message => ?_, ne_refused_statements table _ _⟩
      -- what the statement failed with comes first, and the strays that it passed follow
      cases houtcome : (statement table circuit first rest).2 with
      | ok outcome =>
        rw [houtcome] at hmem
        cases hmem
      | error failure =>
        rw [houtcome, resume, recover_eq] at hmem
        rcases List.mem_cons.1 hmem with rfl | hstray
        · exact (statement_fails houtcome).ne_refused message
        · obtain ⟨symbol, -, hsymbol⟩ := List.mem_filterMap.1 (List.mem_of_mem_filter hstray)
          obtain ⟨c, -, rfl⟩ := symbol.stray?_eq_some hsymbol
          intro h
          cases h
  termination_by input.length

/-- **Readers are as strict as what they ask.** Whatever is read, onto whatever tables:

* A statement changes the circuit by making its requests, one after the other, up to the first that is
  refused. All those of a definition are granted. The only others that can be refused are a wire to an input
  that is driven and a monitor of an output that is monitored, and this is then what the statement fails with.
* Once the names and the body of a definition have been read, all of its devices are added.
* What is reported is what is found, and warnings; and nothing is found that a circuit refuses for a reason
  of its own. -/
theorem requests_granted (names : NameTable) (circuit : Circuit) (text : String) :
    let reading := readOnto names circuit text
    (∀ reached first rest, Visits reading.names circuit (symbolsOf names text) reached (first :: rest) →
      ¬ first.isKeyword .endWord →
      let made := reached.grant reading.names (requests reached.network first rest)
      let read := statement reading.names reached first rest
      read.1 = made.1 ∧ (first.isKeyword .define → made.2 = .ok ()) ∧
      ∀ request fault, made.2 = .error (request, fault) →
        ((∃ source target input, request = .wire source target ∧ fault = .inputConnected input) ∨
          ∃ point signal, request = .watch point ∧ fault = .monitorPresent signal) ∧
        ∃ place left, read.2 = .error ⟨.mistake (.ofFault fault), place, left⟩) ∧
    (∀ net input listed kind left, readDevices net input = .ok ((listed, kind), left) →
      (addDevices net kind listed).2 = .ok ()) ∧
    reading.diagnostics = (findingsOf names circuit text).map
        (Finding.diagnostic reading.codes (documentOf names text)) ++
      warnings reading.circuit reading.codes ∧
    ∀ finding ∈ findingsOf names circuit text, ∀ message,
      finding.problem ≠ .mistake (.refused message) := by
  intro reading
  refine ⟨fun reached first rest _ _ => ?_, fun _ _ _ _ _ h => addDevices_of_readDevices h,
    diagnostics_readOnto names circuit text, ne_refused_statements _ _ _⟩
  obtain ⟨hafter, hrefused⟩ := statement_grants reading.names reached first rest
  refine ⟨hafter, fun hdefine => ?_, hrefused⟩
  rw [requests, if_pos hdefine]
  cases hread : readDevices reached.network rest with
  | error failure => rfl
  | ok outcome => exact congrArg Prod.snd (grant_devices (addDevices_of_readDevices hread))

/-- A circuit in which an input is driven. -/
def drivenOnce : Reading :=
  read "define A as SWITCH 0 state; define B as XOR; connect A to B.I1; END"

/-- Another wire to it is asked for, refused, and reported. -/
theorem requests_granted_drivenOnce :
    let text := "connect A to B.I1; END"
    let reading := readOnto drivenOnce.names drivenOnce.circuit text
    let first : Symbol := ⟨.keyword .connect ⟨1⟩, 0⟩
    let rest := (symbolsOf drivenOnce.names text).tail
    let asked := requests drivenOnce.circuit.network first rest
    Visits reading.names drivenOnce.circuit (symbolsOf drivenOnce.names text) drivenOnce.circuit
        (first :: rest) ∧
      ¬ first.isKeyword .endWord ∧
      (drivenOnce.circuit.grant reading.names asked).2
        = .error (.wire ⟨⟨27⟩, .main⟩ ⟨⟨29⟩, .gate 1⟩, .inputConnected "B.I1") ∧
      ∃ place left, (statement reading.names drivenOnce.circuit first rest).2
        = .error ⟨.mistake (.inputConnected "B.I1"), place, left⟩ := by
  intro text reading first rest asked
  have hsymbols : symbolsOf drivenOnce.names text = first :: rest := by decide +kernel
  have hvisits : Visits reading.names drivenOnce.circuit (symbolsOf drivenOnce.names text)
      drivenOnce.circuit (first :: rest) := hsymbols ▸ .start
  have hend : ¬ first.isKeyword .endWord := by decide
  have hrefused : (drivenOnce.circuit.grant reading.names asked).2
      = .error (.wire ⟨⟨27⟩, .main⟩ ⟨⟨29⟩, .gate 1⟩, .inputConnected "B.I1") := by decide +kernel
  obtain ⟨hstatement, -⟩ := requests_granted drivenOnce.names drivenOnce.circuit text
  obtain ⟨-, -, hfails⟩ := hstatement drivenOnce.circuit first rest hvisits hend
  exact ⟨hvisits, hend, hrefused, (hfails _ _ hrefused).2⟩

end LogicCircuit.Definition
