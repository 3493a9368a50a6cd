import LogicCircuit.Proofs.Definition.References

/-!
# Clauses — what stands before a semicolon

What each kind of statement says, against the network it is read in: the devices it introduces, the wire
it draws, the outputs it watches. A clause takes effect when it has been read, so what is told here of a
clause does not depend on what follows it.

* **`Introduces`** — names that are free and a body with a meaning. `readDevices_eq_ok`: these are read, and
  `addDevices_eq`: all of the devices are then added.
* **`Links`** — an output and an input that exist, with `to` in between. `readWire_eq_ok`: these are read.
* **`Watches`** — outputs that exist and are not monitored yet, one after the other.
  `monitor_of_watches` and `exists_monitorRun`: these are read, and each is monitored when it has been.
-/

namespace LogicCircuit.Definition

variable {net : Network} {table : NameTable} {input left : List Symbol} {kind : DeviceKind}

/-! ## Devices -/

/-- A name that is listed is told apart from others by its handle. -/
theorem any_listed_iff {earlier : List String} {text : String} (h : (table.id? text).isSome) :
    ((earlier.map (Scope.entry table)).any fun entry => entry.1 = table.handle text) = true ↔
      text ∈ earlier := by
  rw [List.any_map, List.any_eq_true]
  constructor
  · rintro ⟨name, hname, heq⟩
    have hsame : name = text := (NameTable.handle_eq_handle_iff h).1 (of_decide_eq_true heq)
    exact hsame ▸ hname
  · intro hmem
    exact ⟨text, hmem, decide_eq_true rfl⟩

/-- No device goes by the name. -/
def Free (table : NameTable) (net : Network) (name : String) : Prop :=
  net.device? (table.handle name) = none

/-- One turn of the loop over the names. -/
theorem readNames_cons {earlier : List String} {text : String} {id : NameId} {offset : Nat}
    {rest : List Symbol} (hinput : Known table (⟨.name text id, offset⟩ :: rest))
    (hfree : Free table net text) (hunlisted : text ∉ earlier) :
    readNames net (earlier.map (Scope.entry table)) (⟨.name text id, offset⟩ :: rest) =
      if atKeyword .as rest then .ok ((earlier ++ [text]).map (Scope.entry table), rest.tail)
      else readNames net ((earlier ++ [text]).map (Scope.entry table)) rest := by
  have hheld : (table.id? text).isSome :=
    hinput.isSome_id? (reads_name.2 ⟨id, offset, rfl⟩) List.mem_cons_self
  have hid := hinput.handle
  have hany := Bool.eq_false_iff.2 fun h => hunlisted ((any_listed_iff hheld).1 h)
  rw [Free, hid] at hfree
  rw [hid] at hany
  rw [readNames, hfree, hany, List.map_append, List.map_singleton, Scope.entry, hid]
  rfl

/-- What is listed when the loop ends are names of devices that there are not, each listed once. -/
theorem readNames_sound {listed : List (NameId × String)} :
    ∀ {input : List Symbol} (earlier : List String), Known table input →
      readNames net (earlier.map (Scope.entry table)) input = .ok (listed, left) →
      ∃ first others, Reads input ((first :: others).map Token.name ++ [.keyword .as]) left ∧
        (first :: others).Nodup ∧ (∀ name ∈ first :: others, Free table net name ∧ name ∉ earlier) ∧
        listed = (earlier ++ first :: others).map (Scope.entry table) := by
  intro input
  -- on the symbols, with any names listed before
  induction input with
  | nil =>
    intro earlier _ h
    cases h
  | cons symbol rest ih =>
    intro earlier hinput h
    have hrest : Known table rest := hinput.of_suffix (List.suffix_cons symbol rest)
    obtain ⟨kind, offset⟩ := symbol
    cases kind with
    | name text id =>
      have hword : Reads (⟨.name text id, offset⟩ :: rest) [.name text] rest :=
        reads_name.2 ⟨id, offset, rfl⟩
      have hheld : (table.id? text).isSome := hinput.isSome_id? hword List.mem_cons_self
      by_cases hused : ¬ Free table net text ∨ text ∈ earlier
      · -- a name in use, or listed already, is refused
        have hbad : ((net.device? id).isSome ||
            (earlier.map (Scope.entry table)).any fun entry => entry.1 = id) = true := by
          rw [← hinput.handle, Bool.or_eq_true, any_listed_iff hheld, Option.isSome_iff_ne_none]
          exact hused
        rw [readNames, if_pos hbad] at h
        cases h
      · obtain ⟨hfree, hunlisted⟩ := not_or.1 hused
        rw [not_not] at hfree
        rw [readNames_cons hinput hfree hunlisted] at h
        split at h
        · next has =>
          cases h
          exact ⟨text, [], reads_cons.2 ⟨rest, hword, atKeyword_iff.1 has⟩,
            List.nodup_singleton text, List.forall_mem_singleton.2 ⟨hfree, hunlisted⟩, rfl⟩
        · -- the names behind this one are not listed, and this one is listed by now
          obtain ⟨second, others, hreads, hnodup, hfresh, rfl⟩ := ih (earlier ++ [text]) hrest h
          have hne : text ∉ second :: others := fun hmem =>
            (hfresh text hmem).2 (List.mem_append_right _ List.mem_cons_self)
          have hothers : ∀ name ∈ second :: others, Free table net name ∧ name ∉ earlier :=
            fun name hname => ⟨(hfresh name hname).1, fun h =>
              (hfresh name hname).2 (List.mem_append_left _ h)⟩
          refine ⟨text, second :: others, reads_cons.2 ⟨rest, hword, hreads⟩,
            List.nodup_cons.2 ⟨hne, hnodup⟩,
            List.forall_mem_cons.2 ⟨⟨hfree, hunlisted⟩, hothers⟩, ?_⟩
          rw [List.append_assoc]
          rfl
    | _ => cases h

/-- Names of their own that are free are listed, up to the word that ends them. -/
theorem readNames_complete {others : List String} :
    ∀ {input : List Symbol} {first : String} (earlier : List String), Known table input →
      Reads input ((first :: others).map Token.name ++ [.keyword .as]) left →
      (first :: others).Nodup → (∀ name ∈ first :: others, Free table net name ∧ name ∉ earlier) →
      readNames net (earlier.map (Scope.entry table)) input
        = .ok ((earlier ++ first :: others).map (Scope.entry table), left) := by
  -- on the names, with any input that spells them and any names listed before
  induction others with
  | nil =>
    intro input first earlier hinput hreads _ hfresh
    obtain ⟨rest, hword, has⟩ := reads_cons.1 hreads
    obtain ⟨id, offset, rfl⟩ := reads_name.1 hword
    obtain ⟨hfree, hunlisted⟩ := hfresh first List.mem_cons_self
    obtain rfl := reads_tail has
    rw [readNames_cons hinput hfree hunlisted, if_pos (atKeyword_iff.2 has)]
  | cons second others ih =>
    intro input first earlier hinput hreads hnodup hfresh
    obtain ⟨rest, hword, hreads'⟩ := reads_cons.1 hreads
    obtain ⟨id, offset, rfl⟩ := reads_name.1 hword
    obtain ⟨⟨hfree, hunlisted⟩, hfresh'⟩ := List.forall_mem_cons.1 hfresh
    obtain ⟨hne, hnodup'⟩ := List.nodup_cons.1 hnodup
    -- a name follows, so this is not the end
    have hgo : ¬ atKeyword .as rest := by
      intro has
      obtain ⟨_, hname, -⟩ := reads_cons.1 hreads'
      obtain ⟨id, offset, rfl⟩ := reads_name.1 hname
      cases has
    have hothers : ∀ name ∈ second :: others, Free table net name ∧ name ∉ earlier ++ [first] := by
      intro name hname
      refine ⟨(hfresh' name hname).1, fun hmem => ?_⟩
      rcases List.mem_append.1 hmem with hold | hself
      · exact (hfresh' name hname).2 hold
      · rw [List.mem_singleton.1 hself] at hname
        exact hne hname
    have hlater := ih (earlier ++ [first]) (hinput.of_reads hword) hreads' hnodup' hothers
    rw [readNames_cons hinput hfree hunlisted, if_neg hgo, hlater, List.append_assoc]
    rfl

/-- What a definition says before its semicolon: names of its own that no device has, and a body for
devices of some kind. -/
structure Introduces (table : NameTable) (net : Network) (input : List Symbol) (names : List String)
    (kind : DeviceKind) (left : List Symbol) : Prop where
  ne_nil : names ≠ []
  nodup : names.Nodup
  free : ∀ name ∈ names, Free table net name
  spelled : ∃ body : Body, body.Means kind ∧
    Reads input (names.map Token.name ++ .keyword .as :: body.spell) left

/-- What is read before a semicolon is what the definition introduces. -/
theorem readDevices_eq_ok (hinput : Known table input) {listed : List (NameId × String)} :
    readDevices net input = .ok ((listed, kind), left) ↔
      ∃ names, Introduces table net input names kind left ∧ listed = names.map (Scope.entry table) := by
  constructor
  · intro h
    obtain ⟨middle, hnames, hbody⟩ := readDevices_parts.1 h
    obtain ⟨first, others, hreads, hnodup, hfresh, rfl⟩ := readNames_sound [] hinput hnames
    obtain ⟨body, hspell, hmeans⟩ := readBody_sound hbody
    refine ⟨first :: others, ⟨List.cons_ne_nil _ _, hnodup, fun name hname => (hfresh name hname).1,
      body, hmeans, ?_⟩, rfl⟩
    -- `as` ends the list of names when it is read, and starts the body when it is written
    rw [List.append_cons]
    exact reads_append.2 ⟨middle, hreads, hspell⟩
  · rintro ⟨names, ⟨hne, hnodup, hfree, body, hmeans, hreads⟩, rfl⟩
    obtain ⟨first, others, rfl⟩ := List.exists_cons_of_ne_nil hne
    rw [List.append_cons] at hreads
    obtain ⟨middle, hnames, hspell⟩ := reads_append.1 hreads
    have hlisted : readNames net [] input
        = .ok ((first :: others).map (Scope.entry table), middle) :=
      readNames_complete [] hinput hnames hnodup fun name hname =>
        ⟨hfree name hname, List.not_mem_nil⟩
    exact readDevices_parts.2 ⟨middle, hlisted, readBody_complete hmeans hspell⟩

/-- The network with new devices of one kind. -/
def withDevices (table : NameTable) (net : Network) (names : List String) (kind : DeviceKind) :
    Network :=
  { devices := net.devices ++ names.map fun name => .new (table.handle name) name kind }

/-- Names that are free are added one after the other, and none is refused. -/
theorem addDevices_eq (hkind : kind.badQualifier? = none) {names : List String} :
    ∀ {net : Network}, (∀ name ∈ names, (table.id? name).isSome) → names.Nodup →
      (∀ name ∈ names, Free table net name) →
      addDevices net kind (names.map (Scope.entry table)) = (withDevices table net names kind, .ok ()) := by
  induction names with
  | nil =>
    intro net _ _ _
    rw [withDevices, List.map_nil, List.map_nil, List.append_nil]
    rfl
  | cons first others ih =>
    intro net hheld hnodup hfree
    obtain ⟨hfirst, hothers⟩ := List.forall_mem_cons.1 hfree
    obtain ⟨hheldFirst, hheldOthers⟩ := List.forall_mem_cons.1 hheld
    obtain ⟨hne, hnodup'⟩ := List.nodup_cons.1 hnodup
    have hstep : net.addDevice (table.handle first) first kind
        = .ok (withDevices table net [first] kind) := by
      rw [Free] at hfirst
      rw [Network.addDevice, hfirst, hkind]
      rfl
    -- the others are free in the network that has the first, since no name is listed twice
    have hfree' : ∀ other ∈ others, Free table (withDevices table net [first] kind) other := by
      intro other hother
      have hold := hothers other hother
      rw [Free, Network.device?_eq_none_iff, Network.ids] at hold ⊢
      rw [withDevices, List.map_append, List.mem_append, not_or]
      refine ⟨hold, fun hself => ?_⟩
      have hsame : table.handle other = table.handle first := List.mem_singleton.1 hself
      rw [(NameTable.handle_eq_handle_iff hheldFirst).1 hsame] at hother
      exact hne hother
    rw [List.map_cons, Scope.entry, addDevices, hstep]
    show addDevices _ kind (others.map (Scope.entry table)) = _
    rw [ih hheldOthers hnodup' hfree', withDevices, withDevices, withDevices, List.append_assoc]
    rfl

/-- The table knows the names that are introduced. -/
theorem Introduces.isSome_id? {names : List String} (h : Introduces table net input names kind left)
    (hinput : Known table input) : ∀ name ∈ names, (table.id? name).isSome := by
  obtain ⟨body, -, hreads⟩ := h.spelled
  exact fun name hname =>
    hinput.isSome_id? hreads (List.mem_append_left _ (List.mem_map_of_mem hname))

/-- **Definitions.** What a definition introduces is added, whatever follows. -/
theorem define_of_introduces (hinput : Known table input) {names : List String} (start : Place)
    (h : Introduces table net input names kind left) :
    define net start input = (withDevices table net names kind, readSemicolon left) := by
  obtain ⟨body, hmeans, -⟩ := h.spelled
  rw [define, (readDevices_eq_ok hinput).2 ⟨names, h, rfl⟩]
  dsimp only
  rw [addDevices_eq (Scope.badQualifier?_of_means hmeans) (h.isSome_id? hinput) h.nodup h.free]

/-- A definition that introduces nothing adds nothing. -/
theorem define_of_not_introduces (hinput : Known table input) (start : Place)
    (h : ∀ names kind left, ¬ Introduces table net input names kind left) :
    ∃ failure, define net start input = (net, .error failure) := by
  rw [define]
  cases hdevices : readDevices net input with
  | error failure => exact ⟨failure, rfl⟩
  | ok read =>
    obtain ⟨⟨listed, kind⟩, left⟩ := read
    obtain ⟨names, hintroduces, -⟩ := (readDevices_eq_ok hinput).1 hdevices
    exact absurd hintroduces (h names kind left)

/-! ## Wires -/

/-- What a connection says before its semicolon: an output and an input that exist. -/
structure Links (table : NameTable) (net : Network) (input : List Symbol) (source : OutputRef)
    (target : InputRef) (left : List Symbol) : Prop where
  exists_source : source ∈ net.outputs
  spelled : ∃ (output : Output) (written : Input), source = output.ref table ∧
    written.Refers table net target ∧
    Reads input (output.spell ++ .keyword .toWord :: written.spell) left

/-- What is read before a semicolon is a link between ports that exist. -/
theorem readWire_eq_ok (hnet : net.Distinct) (hregular : Regular net) (hinput : Known table input)
    {source : OutputRef} {target : InputRef} :
    (∃ place, readWire net input = .ok ((source, target, place), left)) ↔
      Links table net input source target left := by
  constructor
  · rintro ⟨place, h⟩
    obtain ⟨middle, middle', hsource, hto, htarget, -⟩ := readWire_parts.1 h
    obtain ⟨output, ⟨hspell, -⟩, houtput, rfl⟩ := (readOutput_eq_ok hnet hinput).1 hsource
    obtain ⟨written, hspell', hrefers⟩ :=
      (readInput_eq_ok hregular ((hinput.of_reads hspell).of_reads hto)).1 htarget
    exact ⟨houtput, output, written, rfl, hrefers,
      reads_append.2 ⟨middle, hspell, reads_cons.2 ⟨middle', hto, hspell'⟩⟩⟩
  · rintro ⟨houtput, output, written, rfl, hrefers, hreads⟩
    obtain ⟨middle, hspell, hreads'⟩ := reads_append.1 hreads
    obtain ⟨middle', hto, hspell'⟩ := reads_cons.1 hreads'
    have hinput' := (hinput.of_reads hspell).of_reads hto
    have hsource : readOutput net input = .ok (output.ref table, middle) :=
      (readOutput_eq_ok hnet hinput).2
        -- the word stands behind the output, so no dot does
        ⟨output, ⟨hspell, fun _ => not_atDot hto (by decide)⟩, houtput, rfl⟩
    have htarget : readInput net middle' = .ok (target, left) :=
      (readInput_eq_ok hregular hinput').2 ⟨written, hspell', hrefers⟩
    exact ⟨_, readWire_parts.2 ⟨middle, middle', hsource, hto, htarget, rfl⟩⟩

/-! ## Monitors -/

/-- Whether a name follows. -/
theorem atName_iff : atName input ↔ ∃ text, Reads input [.name text] input.tail := by
  constructor
  · intro h
    unfold atName at h
    split at h
    · next text id offset rest => exact ⟨text, reads_name.2 ⟨id, offset, rfl⟩⟩
    · cases h
  · rintro ⟨text, hreads⟩
    obtain ⟨id, offset, hcons⟩ := reads_name.1 hreads
    rw [hcons]
    rfl

/-- Every output starts with the name of its device. -/
theorem Output.spell_eq_cons (output : Output) :
    ∃ back, output.spell = .name output.device :: back := by
  obtain ⟨device, port⟩ := output
  cases port
  · exact ⟨_, rfl⟩
  · exact ⟨_, rfl⟩
  · exact ⟨_, rfl⟩

/-- Outputs that stand in front, one after the other. -/
inductive Output.LeadAll : List Output → List Symbol → List Symbol → Prop where
  | nil (input : List Symbol) : LeadAll [] input input
  | cons {output : Output} {outputs : List Output} {input middle left : List Symbol}
      (hfirst : output.Leads input middle) (hothers : LeadAll outputs middle left) :
      LeadAll (output :: outputs) input left

/-- Outputs that stand in front are read one after the other. -/
theorem Output.LeadAll.reads {outputs : List Output} (h : LeadAll outputs input left) :
    Reads input (outputs.flatMap Output.spell) left := by
  induction h with
  | nil input => exact ⟨[], rfl, rfl⟩
  | cons hfirst _ ih =>
    rw [List.flatMap_cons]
    exact reads_append.2 ⟨_, hfirst.1, ih⟩

/-- Outputs that are spelled up to a semicolon stand in front, since no dot follows any of them. -/
theorem leadAll_of_reads {outputs : List Output} : ∀ {input : List Symbol},
    Reads input (outputs.flatMap Output.spell ++ [.semicolon]) left →
      ∃ rest, Output.LeadAll outputs input rest ∧ Reads rest [.semicolon] left := by
  induction outputs with
  | nil => exact fun {input} h => ⟨input, .nil input, h⟩
  | cons first others ih =>
    intro input h
    rw [List.flatMap_cons, List.append_assoc] at h
    obtain ⟨middle, hfirst, hothers⟩ := reads_append.1 h
    have hdot : ¬ AtDot middle := by
      -- what follows an output is a semicolon or the next name
      cases others with
      | nil => exact not_atDot hothers (by decide)
      | cons second others =>
        obtain ⟨back, hsecond⟩ := second.spell_eq_cons
        rw [List.flatMap_cons, hsecond, List.cons_append, List.cons_append] at hothers
        exact not_atDot hothers fun h => by cases h
    obtain ⟨rest, hlead, hsemicolon⟩ := ih hothers
    exact ⟨rest, .cons ⟨hfirst, fun _ => hdot⟩ hlead, hsemicolon⟩

/-- A row of outputs that can be monitored: they stand in front, exist, and are neither named twice nor
monitored already. -/
structure Watches (table : NameTable) (net : Network) (monitors : Monitors) (input : List Symbol)
    (outputs : List Output) (left : List Symbol) : Prop where
  lead : Output.LeadAll outputs input left
  exist : ∀ output ∈ outputs, output.ref table ∈ net.outputs
  nodup : (outputs.map (Output.ref table)).Nodup
  fresh : ∀ output ∈ outputs, output.ref table ∉ monitors.points

/-- The monitors with new ones, of which nothing has been recorded. -/
def withMonitors (monitors : Monitors) (points : List OutputRef) : Monitors :=
  { entries := monitors.entries ++ points.map fun point => ⟨point, #[]⟩ }

theorem points_withMonitors {monitors : Monitors} {points : List OutputRef} :
    (withMonitors monitors points).points = monitors.points ++ points := by
  rw [Monitors.points, withMonitors, List.map_append, List.map_map]
  congr 1
  exact List.map_id points

theorem withMonitors_nil {monitors : Monitors} : withMonitors monitors [] = monitors := by
  rw [withMonitors, List.map_nil, List.append_nil]

theorem withMonitors_withMonitors {monitors : Monitors} {points others : List OutputRef} :
    withMonitors (withMonitors monitors points) others = withMonitors monitors (points ++ others) := by
  simp only [withMonitors, List.map_append, List.append_assoc]

variable {monitors : Monitors}

/-- An output that exists is refused exactly if it is monitored already. -/
theorem add_eq_ok_of_mem_outputs (hnet : net.Distinct) {point : OutputRef} (hpoint : point ∈ net.outputs)
    (hnew : point ∉ monitors.points) :
    monitors.add table net point 0 = .ok (withMonitors monitors [point]) := by
  obtain ⟨device, hmem, hid, hport⟩ := Network.mem_outputs_iff.1 hpoint
  have hdevice : net.device? point.device = some device :=
    hnet.device?_eq_some_iff.2 ⟨hmem, hid⟩
  have hname : net.signalName? point = some (device.outputName point.port) := by
    have hhas : device.hasOutput point.port := List.contains_iff_mem.2 hport
    rw [Network.signalName?, hdevice, Option.bind_some, if_pos hhas]
  have hcontains : ¬ monitors.contains point := by
    rw [Monitors.contains, List.contains_iff_mem]
    exact hnew
  rw [Monitors.add, hname]
  exact if_neg hcontains

/-- An output that is monitored is refused. -/
theorem exists_add_eq_error {point : OutputRef} (table : NameTable) (net : Network)
    (hold : point ∈ monitors.points) : ∃ fault, monitors.add table net point 0 = .error fault := by
  unfold Monitors.add
  split
  · split
    · exact ⟨_, rfl⟩
    · exact ⟨_, rfl⟩
  · exact ⟨_, if_pos (List.contains_iff_mem.2 hold)⟩

/-- One turn of the loop over the outputs. -/
theorem monitor_of_leads (hnet : net.Distinct) (hinput : Known table input) {output : Output}
    {rest : List Symbol} (hlead : output.Leads input rest) (hexists : output.ref table ∈ net.outputs)
    (hfresh : output.ref table ∉ monitors.points) :
    monitor table net monitors input =
      if atName rest then monitor table net (withMonitors monitors [output.ref table]) rest
      else (withMonitors monitors [output.ref table], readSemicolon rest) := by
  have hread := readOutput_of_leads hnet hinput hlead hexists
  rw [monitor]
  split
  · next failure hfail =>
    rw [hread] at hfail
    cases hfail
  · next point left hok =>
    rw [hread] at hok
    cases hok
    rw [add_eq_ok_of_mem_outputs hnet hexists hfresh]

/-- The last turn of the loop, if there is no output to be read or it is refused. -/
theorem exists_monitor_eq_error (table : NameTable) (monitors : Monitors)
    (h : (∃ failure, readOutput net input = .error failure) ∨ ∃ point rest fault,
      readOutput net input = .ok (point, rest) ∧ monitors.add table net point 0 = .error fault) :
    ∃ failure, monitor table net monitors input = (monitors, .error failure) ∧
      failure.rest <:+ input := by
  have hwithin := readOutput_staysWithin net input
  rw [monitor]
  split
  · next failure hread =>
    rw [hread] at hwithin
    exact ⟨failure, rfl, hwithin⟩
  · next point rest hread =>
    rw [hread] at hwithin
    rcases h with ⟨failure, hfailure⟩ | ⟨_, _, fault, hread', hadd⟩
    · rw [hread] at hfailure
      cases hfailure
    · rw [hread] at hread'
      cases hread'
      rw [hadd]
      exact ⟨_, rfl, hwithin⟩

/-- Outputs that can be monitored, up to a semicolon, are all monitored. -/
theorem monitor_of_watches (hnet : net.Distinct) {outputs : List Output} :
    ∀ {monitors : Monitors} {input rest : List Symbol}, Known table input →
      Watches table net monitors input outputs rest → outputs ≠ [] → Reads rest [.semicolon] left →
      monitor table net monitors input
        = (withMonitors monitors (outputs.map (Output.ref table)), .ok ((), left)) := by
  induction outputs with
  | nil => exact fun _ _ hne _ => absurd rfl hne
  | cons first others ih =>
    intro monitors input rest hinput hwatches _ hsemicolon
    obtain ⟨hlead, hexist, hnodup, hfresh⟩ := hwatches
    obtain ⟨hexistFirst, hexistOthers⟩ := List.forall_mem_cons.1 hexist
    obtain ⟨hfreshFirst, hfreshOthers⟩ := List.forall_mem_cons.1 hfresh
    rw [List.map_cons] at hnodup
    obtain ⟨hne, hnodup'⟩ := List.nodup_cons.1 hnodup
    cases hlead with
    | cons hfirst hothers =>
      rename_i middle
      rw [monitor_of_leads hnet hinput hfirst hexistFirst hfreshFirst]
      cases others with
      | nil =>
        -- a semicolon follows, so this is the last one
        cases hothers
        have hstop : ¬ atName rest := by
          intro hat
          obtain ⟨text, hname⟩ := atName_iff.1 hat
          obtain ⟨id, offset, hcons⟩ := reads_name.1 hname
          rw [hcons] at hsemicolon
          obtain ⟨symbol, heq, htoken⟩ := reads_singleton.1 hsemicolon
          cases heq
          cases htoken
        rw [if_neg hstop, readSemicolon_eq_ok.2 hsemicolon]
        rfl
      | cons second others =>
        have hgo : atName middle := by
          obtain ⟨back, hsecond⟩ := second.spell_eq_cons
          have hreads := hothers.reads
          rw [List.flatMap_cons, hsecond, List.cons_append] at hreads
          obtain ⟨_, hname, -⟩ := reads_cons.1 hreads
          exact atName_iff.2 ⟨second.device, reads_tail hname ▸ hname⟩
        have hwatches : Watches table net (withMonitors monitors [first.ref table]) middle
            (second :: others) rest := by
          -- the points monitored by now are those from before and the first one
          refine ⟨hothers, hexistOthers, hnodup', fun output houtput hmem => ?_⟩
          rw [points_withMonitors, List.mem_append, List.mem_singleton] at hmem
          rcases hmem with hold | hself
          · exact hfreshOthers output houtput hold
          · exact hne (hself ▸ List.mem_map_of_mem houtput)
        rw [if_pos hgo, ih (hinput.of_reads hfirst.1) hwatches (List.cons_ne_nil _ _) hsemicolon,
          withMonitors_withMonitors]
        rfl

/-- No output stands in front that exists and is not among the given ones. -/
def Exhausted (table : NameTable) (net : Network) (points : List OutputRef) (input : List Symbol) :
    Prop :=
  ∀ (output : Output) left, output.Leads input left → output.ref table ∈ net.outputs →
    output.ref table ∈ points

/-- A run of the loop over the outputs. It monitors a row of outputs that can be, and succeeds at a
semicolon behind them; or it fails, and where it fails there is no further output to be monitored. -/
structure MonitorRun (table : NameTable) (net : Network) (monitors : Monitors) (input : List Symbol)
    (outputs : List Output) (rest : List Symbol) : Prop where
  watches : Watches table net monitors input outputs rest
  monitors_eq : (monitor table net monitors input).1
    = withMonitors monitors (outputs.map (Output.ref table))
  outcome : (outputs ≠ [] ∧ ∃ left, Reads rest [.semicolon] left ∧
      (monitor table net monitors input).2 = .ok ((), left)) ∨
    ∃ failure, (monitor table net monitors input).2 = .error failure ∧ failure.rest <:+ rest ∧
      Exhausted table net (monitors.points ++ outputs.map (Output.ref table)) rest

namespace MonitorRun

/-- The first output cannot be monitored. -/
theorem fail {failure : Failure} (h : monitor table net monitors input = (monitors, .error failure))
    (hwithin : failure.rest <:+ input) (hexhausted : Exhausted table net monitors.points input) :
    MonitorRun table net monitors input [] input where
  watches := ⟨.nil input, by simp, List.nodup_nil, by simp⟩
  monitors_eq := by rw [h, List.map_nil, withMonitors_nil]
  outcome := by
    rw [h, List.map_nil, List.append_nil]
    exact .inr ⟨failure, rfl, hwithin, hexhausted⟩

variable {output : Output} {outputs : List Output} {middle rest : List Symbol}

/-- The first output is monitored, and no name follows. -/
theorem last (hnet : net.Distinct) (hinput : Known table input) (hlead : output.Leads input rest)
    (hexists : output.ref table ∈ net.outputs) (hfresh : output.ref table ∉ monitors.points)
    (hstop : ¬ atName rest) : MonitorRun table net monitors input [output] rest := by
  have hrun := monitor_of_leads hnet hinput hlead hexists hfresh
  rw [if_neg hstop] at hrun
  refine ⟨⟨.cons hlead (.nil rest), List.forall_mem_singleton.2 hexists, List.nodup_singleton _,
    List.forall_mem_singleton.2 hfresh⟩, by rw [hrun]; rfl, ?_⟩
  have hwithin := readSemicolon_staysWithin rest
  rw [hrun]
  cases hsemicolon : readSemicolon rest with
  | ok read => exact .inl ⟨List.cons_ne_nil _ _, read.2, readSemicolon_eq_ok.1 hsemicolon, rfl⟩
  | error failure =>
    rw [hsemicolon] at hwithin
    refine .inr ⟨failure, rfl, hwithin, fun other left hlead' _ => ?_⟩
    -- an output would start with a name
    obtain ⟨back, hback⟩ := other.spell_eq_cons
    have hspell := hlead'.1
    rw [hback] at hspell
    obtain ⟨_, hname, -⟩ := reads_cons.1 hspell
    exact absurd (atName_iff.2 ⟨_, reads_tail hname ▸ hname⟩) hstop

/-- The first output is monitored, and the loop goes on at the next one. -/
theorem cons (hnet : net.Distinct) (hinput : Known table input) (hlead : output.Leads input middle)
    (hexists : output.ref table ∈ net.outputs) (hfresh : output.ref table ∉ monitors.points)
    (hgo : atName middle)
    (h : MonitorRun table net (withMonitors monitors [output.ref table]) middle outputs rest) :
    MonitorRun table net monitors input (output :: outputs) rest := by
  have hrun := monitor_of_leads hnet hinput hlead hexists hfresh
  rw [if_pos hgo] at hrun
  obtain ⟨⟨hleads, hexist, hnodup, hfresh'⟩, hmonitors, houtcome⟩ := h
  simp only [points_withMonitors, List.mem_append, List.mem_singleton, not_or] at hfresh'
  -- the row lists an output once, so the first one is not among the others
  have hne : output.ref table ∉ outputs.map (Output.ref table) := by
    intro hmem
    obtain ⟨other, hother, heq⟩ := List.mem_map.1 hmem
    exact (hfresh' other hother).2 heq
  refine ⟨⟨.cons hlead hleads, List.forall_mem_cons.2 ⟨hexists, hexist⟩, ?_,
    List.forall_mem_cons.2 ⟨hfresh, fun other hother => (hfresh' other hother).1⟩⟩, ?_, ?_⟩
  · rw [List.map_cons]
    exact List.nodup_cons.2 ⟨hne, hnodup⟩
  · rw [hrun, hmonitors, withMonitors_withMonitors]
    rfl
  · rw [hrun]
    rw [points_withMonitors, List.append_assoc] at houtcome
    exact houtcome.imp_left fun ⟨_, hok⟩ => ⟨List.cons_ne_nil _ _, hok⟩

end MonitorRun

/-- **Monitors.** The loop runs over the outputs that can be monitored, from whatever symbols. -/
theorem exists_monitorRun (hnet : net.Distinct) {input : List Symbol} (hinput : Known table input)
    (monitors : Monitors) : ∃ outputs rest, MonitorRun table net monitors input outputs rest := by
  cases hread : readOutput net input with
  | error failure =>
    obtain ⟨failure', hrun, hwithin⟩ := exists_monitor_eq_error table monitors (.inl ⟨failure, hread⟩)
    refine ⟨[], input, .fail hrun hwithin fun output left hlead houtput => ?_⟩
    rw [readOutput_of_leads hnet hinput hlead houtput] at hread
    cases hread
  | ok read =>
    obtain ⟨point, rest⟩ := read
    obtain ⟨output, hlead, houtput, rfl⟩ := exists_leads_of_readOutput hnet hinput hread
    by_cases hold : output.ref table ∈ monitors.points
    · -- the output is monitored already, and no other one stands in front
      obtain ⟨fault, hadd⟩ := exists_add_eq_error table net hold
      obtain ⟨failure, hrun, hwithin⟩ := exists_monitor_eq_error table monitors (.inr ⟨_, _, _, hread, hadd⟩)
      refine ⟨[], input, .fail hrun hwithin fun other left hlead' hother => ?_⟩
      rw [readOutput_of_leads hnet hinput hlead' hother] at hread
      rw [(Prod.mk.inj (Except.ok.inj hread)).1]
      exact hold
    · by_cases hgo : atName rest
      · obtain ⟨outputs, rest', h⟩ := exists_monitorRun hnet (hinput.of_reads hlead.1)
          (withMonitors monitors [output.ref table])
        exact ⟨_, rest', .cons hnet hinput hlead houtput hold hgo h⟩
      · exact ⟨[output], rest, .last hnet hinput hlead houtput hold hgo⟩
  termination_by input.length
  decreasing_by exact length_readOutput_lt (by assumption)

end LogicCircuit.Definition
