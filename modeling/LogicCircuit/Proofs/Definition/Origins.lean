import LogicCircuit.Proofs.Definition.Identifiers

/-!
# Origins — what devices come from

A reading adds a device only for a definition that it has read up to the semicolon, so for each device
there is a place in the text that spells the definition: `statement_origin` is the step and
`Visits.origin` the run. In a text without mistakes it is the other way round as well, and each name in a
definition is that of a device (`exists_device_of_define`).
-/

namespace LogicCircuit.Definition

/-- A definition as it is written, without its semicolon. -/
def spellDefinition (names : List String) (body : Body) : List Token :=
  .keyword .define :: names.map Token.name ++ .keyword .as :: body.spell

/-- Among some tokens stands a definition of a device with this name and of this kind. -/
def Defines (tokens : List Token) (name : String) (kind : DeviceKind) : Prop :=
  ∃ names body, name ∈ names ∧ body.Means kind ∧ spellDefinition names body <:+: tokens

theorem Defines.mono {tokens more : List Token} {name : String} {kind : DeviceKind}
    (h : Defines tokens name kind) (hmore : tokens <:+: more) : Defines more name kind := by
  obtain ⟨names, body, hname, hmeans, hspelled⟩ := h
  exact ⟨names, body, hname, hmeans, hspelled.trans hmore⟩

variable {table : NameTable} {circuit reached : Circuit} {net : Network} {first : Symbol}
  {input rest left : List Symbol}

/-! ## From devices to definitions -/

/-- The devices that a definition adds are introduced by it, names and kind. -/
theorem define_origin (hinput : Known table rest) (hfirst : first.isKeyword .define) (start : Place) :
    ∀ entry ∈ (define net start rest).1.roster,
      entry ∈ net.roster ∨ Defines ((first :: rest).map Symbol.token) entry.2.1 entry.2.2 := by
  intro entry hentry
  by_cases hsays : ∃ names kind left, Introduces table net rest names kind left
  · obtain ⟨names, kind, left, hintroduces⟩ := hsays
    rw [define_of_introduces hinput start hintroduces, withDevices, Network.roster, List.map_append,
      List.mem_append, List.map_map] at hentry
    rcases hentry with hold | hnew
    · exact .inl hold
    · obtain ⟨name, hname, rfl⟩ := List.mem_map.1 hnew
      -- the names and the body are what has been read, in front of what is left
      obtain ⟨body, hmeans, front, rfl, hspelled⟩ := hintroduces.spelled
      have hnew : body.Means (Device.new (table.handle name) name kind).kind := by
        show body.Means (Element.ofKind kind).kind
        rw [Element.kind_ofKind]
        exact hmeans
      refine .inr ⟨names, body, hname, hnew, ?_⟩
      rw [List.map_cons, List.map_append, hspelled, Symbol.isKeyword_iff.1 hfirst]
      exact List.infix_append' [] _ _
  · push Not at hsays
    obtain ⟨failure, hdefine⟩ := define_of_not_introduces hinput start hsays
    rw [hdefine] at hentry
    exact .inl hentry

/-- **One statement.** The devices that it adds are those of a definition at its start. -/
theorem statement_origin (hinput : Known table rest) :
    ∀ entry ∈ (statement table circuit first rest).1.network.roster,
      entry ∈ circuit.network.roster ∨
        Defines ((first :: rest).map Symbol.token) entry.2.1 entry.2.2 := by
  by_cases hdefine : first.isKeyword .define
  · rw [statement_of_define hdefine]
    exact define_origin hinput hdefine _
  · -- only a definition adds devices
    have hkept : (statement table circuit first rest).1.network.roster = circuit.network.roster := by
      by_cases hconnect : first.isKeyword .connect
      · rw [statement_of_connect hconnect]
        exact roster_connectStatement table circuit.network rest
      · by_cases hmonitor : first.isKeyword .monitor
        · rw [statement_of_monitor hmonitor]
        · rw [statement_of_other hdefine hconnect hmonitor]
    intro entry hentry
    rw [hkept] at hentry
    exact .inl hentry

/-- **All statements**, by induction on those that have been read. -/
theorem Visits.origin (h : Visits table circuit input reached left) (hinput : Known table input) :
    left <:+ input ∧ ∀ entry ∈ reached.network.roster,
      entry ∈ circuit.network.roster ∨ Defines (input.map Symbol.token) entry.2.1 entry.2.2 := by
  induction h with
  | start => exact ⟨List.suffix_rfl, fun entry hentry => .inl hentry⟩
  | @next reached first rest _ hend ih =>
    obtain ⟨hleft, horigin⟩ := ih
    have hrest : rest <:+ input := (List.suffix_cons first rest).trans hleft
    have hresumed := @resume_statement_suffix table reached first rest (Bool.eq_false_iff.2 hend)
    refine ⟨hresumed.trans hrest, fun entry hentry => ?_⟩
    rcases statement_origin (hinput.of_suffix hrest) entry hentry with hold | hnew
    · exact horigin entry hold
    · exact .inr (hnew.mono (hleft.map Symbol.token).isInfix)

/-- The tokens of the symbols of a text are those through the first `END`. -/
theorem map_token_symbolsOf (names : NameTable) (text : String) :
    (symbolsOf names text).map Symbol.token = throughEndWord (tokens text) := by
  have hscan := (throughEnd_spec (Scanner.new text names).1
    ((Scanner.new text names).2.takeCodes (UInt64.ofNat Problem.kindCount)).2).1
  rw [(new_spec text names).1] at hscan
  exact hscan

/-- **Every device is defined in the text**, whatever mistakes are in it. -/
theorem defines_of_mem_read (text : String) {device : Device}
    (h : device ∈ (read text).circuit.network.devices) :
    Defines (throughEndWord (tokens text)) device.name device.kind := by
  obtain ⟨last, hlast⟩ := Visits.exists_last
    (.start : Visits (read text).names .empty (symbolsOf .empty text) .empty _)
  obtain ⟨-, horigin⟩ := hlast.origin (known_symbolsOf .empty .empty text)
  rw [map_token_symbolsOf] at horigin
  rcases horigin (device.id, device.name, device.kind) (List.mem_map_of_mem h) with hnone | hdefines
  · cases hnone
  · exact hdefines

/-! ## From definitions to devices -/

namespace Scope

variable {scope after : Scope} {program : List Statement}

/-- No statement takes a device away. -/
theorem Accepts.devices_subset {statement : Statement} (h : scope.Accepts statement after) :
    scope.devices ⊆ after.devices := by
  cases h with
  | define hbody hnodup hnew => exact List.subset_append_left ..
  | connect hsource htarget hport hfree => exact List.Subset.refl _
  | monitor houtputs hnodup hnew => exact List.Subset.refl _

/-- So no program does. -/
theorem AcceptsAll.devices_subset (h : scope.AcceptsAll program after) :
    scope.devices ⊆ after.devices := by
  induction h with
  | nil scope => exact List.Subset.refl _
  | cons hfirst hothers ih => exact List.Subset.trans hfirst.devices_subset ih

/-- Each name in an accepted definition is that of a declared device. -/
theorem AcceptsAll.mem_devices (h : scope.AcceptsAll program after) {first : String}
    {others : List String} {body : Body} (hdefine : .define first others body ∈ program) :
    ∃ kind, body.Means kind ∧ ∀ name ∈ first :: others, (name, kind) ∈ after.devices := by
  induction h with
  | nil scope => cases hdefine
  | cons hfirst hothers ih =>
    rcases List.mem_cons.1 hdefine with rfl | hlater
    · cases hfirst with
      | define hbody hnodup hnew =>
        refine ⟨_, hbody, fun name hname => hothers.devices_subset ?_⟩
        exact List.mem_append_right _ (List.mem_map_of_mem hname)
    · exact ih hlater

end Scope

/-- **Every definition has its devices** in a text that is a program. -/
theorem exists_device_of_define {text : String} {program : List Statement} {scope : Scope}
    (hend : .keyword .endWord ∈ tokens text)
    (hspell : (tokens text).takeWhile (· ≠ .keyword .endWord) = program.flatMap Statement.spell)
    (haccepts : Scope.empty.AcceptsAll program scope) {first : String} {others : List String}
    {body : Body} (hdefine : .define first others body ∈ program) :
    ∃ kind, body.Means kind ∧ ∀ name ∈ first :: others,
      ∃ device ∈ (read text).circuit.network.devices,
        device.name = name ∧ device.element = .ofKind kind := by
  obtain ⟨symbols, hknown, htokens, hcircuit, -⟩ := readOnto_spec .empty .empty text
  obtain ⟨back, hthrough⟩ :=
    (throughEndWord_eq_iff (endWord_notMem_program program)).2 ⟨hend, hspell⟩
  rw [hthrough] at htokens
  obtain ⟨left, hreads, -⟩ := reads_of_map_token htokens
  have hread := statements_complete haccepts Scope.legal_empty Scope.knownTo_empty hknown hreads
  obtain ⟨kind, hmeans, hdevices⟩ := haccepts.mem_devices hdefine
  refine ⟨kind, hmeans, fun name hname => ?_⟩
  have hbuilt : (read text).circuit = scope.circuit (read text).names := by
    rw [read, hcircuit]
    exact congrArg Prod.fst hread
  rw [hbuilt]
  exact ⟨_, List.mem_map_of_mem (hdevices name hname), rfl, rfl⟩

end LogicCircuit.Definition
