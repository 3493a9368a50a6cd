import LogicCircuit.Proofs.Latching
import LogicCircuit.Proofs.Observation
import LogicCircuit.Proofs.Recording
import LogicCircuit.Proofs.Rings

/-!
# Flip-flops — a bit that its record explains

What a flip-flop shows depends on a level of CLK that nobody sees: the one at its last latching. Latching
happens before a cycle is recorded, and not at all in a cycle that fails, and so the hidden level is the
one that was recorded of CLK in the cycle before, whatever was tried and whatever switches were set since.

* **`Simulator.step_of_latchesAlone`** — with no flip-flop in front of it, a flip-flop latches from the
  levels that its inputs have after the cycle, and keeps its state when the cycle fails.
* **`Device.latchedThrough`** — the flip-flop after some completed cycles, by nothing but their levels.
  `preserved_latching` is the invariant: so it is now, and so it was after each of them.
* **`unbroken_performAll`** — what is monitored since a run started has no blank in its history.
* **`flipFlop_record`** — both together: each recorded bit follows from the recorded levels of the inputs
  and from the record of the cycle before.
-/

namespace LogicCircuit

/-! ## One cycle -/

namespace Network

variable {net after : Network} {device : Device}

/-- No input of the device is driven by a flip-flop. -/
def LatchesAlone (net : Network) (device : Device) : Prop :=
  ∀ port source, device.driver? port = some source →
    ∀ driver ∈ net.devices, driver.id = source.device → driver.kind ≠ .dtype

/-- Whether a flip-flop latches alone can be read off the drawing. -/
theorem LatchesAlone.of_drawing_eq (halone : net.LatchesAlone device)
    (h : after.drawing = net.drawing) : after.LatchesAlone device := by
  intro port source hsource driver hmem hid
  obtain ⟨found, hfound, hdrawn⟩ := exists_mem_of_drawing_eq h hmem
  obtain ⟨hid', -, -, hkind⟩ := Device.drawn_eq_iff.1 hdrawn
  rw [← hkind]
  exact halone port source hsource found hfound (hid'.trans hid)

/-- The levels that latching decides by are still there when all have latched. -/
theorem inputLevel_latchAll (hnet : net.Distinct) (halone : net.LatchesAlone device)
    (port : InputPort) : net.latchAll.inputLevel device port = net.inputLevel device port := by
  rw [inputLevel, inputLevel]
  cases hsource : device.driver? port with
  | none => rfl
  | some source =>
    have hkept : net.latchAll.device? source.device = net.device? source.device := by
      cases hdriver : net.device? source.device with
      -- a driver without a device, which shows nothing, or one that does not latch
      | none =>
        rw [device?_eq_none_iff] at hdriver ⊢
        rw [ids_eq_of_drawing_eq (drawing_latchAll hnet)]
        exact hdriver
      | some driver =>
        obtain ⟨hmem, hid⟩ := mem_of_device? hdriver
        exact device?_latchAll_of_ne_dtype hnet hdriver (halone port source hsource driver hmem hid)
    rw [drivenLevel, drivenLevel, Option.bind_some, Option.bind_some, level?_congr hkept]

/-- A flip-flop that latches alone latches from the levels that are there at the end. -/
theorem device?_latchAll_of_latchesAlone (hnet : net.Distinct)
    (hdevice : net.device? device.id = some device) (hkind : device.kind = .dtype)
    (halone : net.LatchesAlone device) :
    net.latchAll.device? device.id = some (net.latchAll.latched device) := by
  obtain ⟨memory, lastClk, helement⟩ : ∃ memory lastClk, device.element = .dtype memory lastClk := by
    cases helement : device.element with
    | dtype memory lastClk => exact ⟨memory, lastClk, rfl⟩
    | _ =>
      rw [Device.kind, helement] at hkind
      cases hkind
  obtain ⟨earlier, later, hdevices⟩ := List.append_of_mem (mem_of_device? hdevice).1
  -- no flip-flop in front of it drives it, so it does not matter when its turn comes
  have hseen : ∀ port, levelInTurn net net.latchAll (earlier.map Device.id) (device.driver? port)
      = net.latchAll.inputLevel device port := by
    intro port
    rw [inputLevel_latchAll hnet halone, inputLevel]
    apply levelInTurn_eq_drivenLevel hnet hdevices
    intro source hsource found hfound hfoundKind hid
    have hmem : found ∈ net.devices := by
      rw [hdevices]
      exact List.mem_append_left _ hfound
    exact halone port source hsource found hmem hid hfoundKind
  have hlatched := device?_latchAll_of_dtype hnet hdevices helement
  simp only [hseen] at hlatched
  rw [latched_of_dtype helement]
  exact hlatched

end Network

/-- **One cycle.** A flip-flop latches from the levels after the cycle, or keeps its state. -/
theorem Simulator.step_of_latchesAlone {sim : Simulator} {id : NameId} {device : Device}
    (hnet : sim.network.Distinct) (hdevice : sim.network.device? id = some device)
    (hkind : device.kind = .dtype) (halone : sim.network.LatchesAlone device) :
    (sim.step.2 = .ok () →
      sim.step.1.network.device? id = some (sim.step.1.network.latched device)) ∧
    ∀ fault, sim.step.2 = .error fault → sim.step.1.network.device? id = some device := by
  obtain rfl := (Network.mem_of_device? hdevice).2
  have hsettled := Network.device?_of_dtype
    (Network.muted_settle sim.network.advanceSources sim.sweepLimit) hdevice hkind
  -- a completed cycle ends with the latching; one that fails leaves the flip-flop as it was
  rcases step_cases sim with ⟨settled, passes, hsettle, hstep⟩ | ⟨unsettled, hsettle, hstep⟩
  · rw [hsettle] at hsettled
    rw [hstep]
    have hdrawing := drawing_settled hsettle
    refine ⟨fun _ => ?_, fun fault hfault => ?_⟩
    · exact Network.device?_latchAll_of_latchesAlone (hnet.of_drawing_eq hdrawing) hsettled hkind
        (halone.of_drawing_eq hdrawing)
    · cases hfault
  · rw [hsettle] at hsettled
    rw [hstep]
    refine ⟨fun hok => ?_, fun fault _ => hsettled⟩
    cases hok

/-! ## All cycles since a cold start -/

namespace Device

variable {device : Device} {frames : List Network}

/-- The flip-flop after some completed cycles: from a cold start, latched from the levels after each. -/
def latchedThrough (device : Device) (frames : List Network) : Device :=
  frames.foldl (fun held frame => frame.latched held) device.drawn

/-- One more completed cycle is one more latching. -/
theorem latchedThrough_append (frame : Network) :
    device.latchedThrough (frames ++ [frame]) = frame.latched (device.latchedThrough frames) :=
  List.foldl_concat ..

/-- The same at some cycle on the way. -/
theorem latchedThrough_take {cycle : Nat} {frame : Network} (hframe : frames[cycle]? = some frame) :
    device.latchedThrough (frames.take (cycle + 1))
      = frame.latched (device.latchedThrough (frames.take cycle)) := by
  rw [List.take_add_one, hframe, Option.toList_some, latchedThrough_append]

/-- It is the same device with another state. -/
theorem exists_latchedThrough (hkind : device.kind = .dtype) (frames : List Network) :
    ∃ memory lastClk, device.latchedThrough frames = device.withElement (.dtype memory lastClk) := by
  -- by induction on the completed cycles, the last of which decides
  induction frames using List.reverseRecOn with
  | nil => exact ⟨.low, .low, by rw [latchedThrough, List.foldl_nil, drawn, hkind]; rfl⟩
  | append_singleton frames frame ih =>
    obtain ⟨memory, lastClk, hheld⟩ := ih
    rw [latchedThrough_append, hheld, Network.latched_of_dtype rfl]
    exact ⟨_, _, rfl⟩

/-- The state that one latching leaves. -/
theorem latched_withElement (frame : Network) (memory lastClk : Level) :
    frame.latched (device.withElement (.dtype memory lastClk))
      = device.withElement (.dtype
          (nextMemory memory lastClk (frame.inputLevel device .data) (frame.inputLevel device .clk)
            (frame.inputLevel device .set) (frame.inputLevel device .clear))
          (frame.inputLevel device .clk)) :=
  Network.latched_of_dtype rfl

end Device

namespace Session

variable {session : Session} {device : Device} {frames : List Network}

theorem cycle_answer (session : Session) : session.cycle.2 = session.simulator.step.2 := by
  rcases session.cycle_cases with ⟨simulator, hstep, -, hcycle⟩ | ⟨simulator, _, hstep, -, -, hcycle⟩
  · rw [hcycle, hstep]
  · rw [hcycle, hstep]

/-- The flip-flop has latched after each completed cycle and at no other time. -/
structure Latches (session : Session) (device : Device) (frames : List Network) : Prop where
  films : session.Films frames
  held : session.network.device? device.id = some (device.latchedThrough frames)
  shown : ∀ cycle frame, frames[cycle]? = some frame →
    frame.device? device.id = some (device.latchedThrough (frames.take (cycle + 1)))

/-- A session in which a flip-flop has latched so, and no other flip-flop is in front of it. -/
structure Latching (device : Device) (session : Session) : Prop where
  sound : session.Sound
  alone : session.network.LatchesAlone device
  latches : ∃ frames, session.Latches device frames

/-- A completed cycle is one more frame, with one more latching; a failing one is none. -/
theorem Latches.cycle (hkind : device.kind = .dtype) (hsound : session.Sound)
    (halone : session.network.LatchesAlone device) (h : session.Latches device frames) :
    ∃ frames, session.cycle.1.Latches device frames := by
  obtain ⟨memory, lastClk, hheld⟩ := device.exists_latchedThrough hkind frames
  have hdevice := h.held
  rw [hheld] at hdevice
  have hnetwork : session.cycle.1.network = session.simulator.step.1.network :=
    congrArg Simulator.network session.cycle_simulator
  obtain ⟨hcompleted, hfailed⟩ :=
    Simulator.step_of_latchesAlone hsound.reachable.distinct hdevice rfl halone
  rw [← cycle_answer, ← hnetwork, ← hheld] at hcompleted hfailed
  rcases h.films.cycle with ⟨hok, hfilms⟩ | ⟨fault, herror, hfilms⟩
  · have hlatched := hcompleted hok
    rw [← Device.latchedThrough_append] at hlatched
    refine ⟨_, hfilms, hlatched, fun cycle frame hframe => ?_⟩
    -- the last frame is the one of this cycle, and those before it stay as they were
    by_cases hlast : cycle < frames.length
    · -- a frame from before
      rw [List.getElem?_append_left hlast] at hframe
      rw [List.take_append_of_le_length hlast]
      exact h.shown cycle frame hframe
    · have hbound : cycle < frames.length + 1 := by
        obtain ⟨hlt, -⟩ := List.getElem?_eq_some_iff.1 hframe
        rw [List.length_append] at hlt
        exact hlt
      obtain rfl : cycle = frames.length := by omega
      rw [List.getElem?_concat_length, Option.some.injEq] at hframe
      rw [← hframe, List.take_of_length_le (by simp)]
      exact hlatched
  · exact ⟨frames, hfilms, hfailed fault herror, h.shown⟩

/-- **The invariant.** Every cycle, completed or not, and every operation keeps it. -/
theorem preserved_latching (hkind : device.kind = .dtype) : Preserved (Latching device) where
  cycle := by
    intro session h
    obtain ⟨frames, hlatches⟩ := h.latches
    have hdrawing : session.cycle.1.network.drawing = session.network.drawing := by
      show session.cycle.1.simulator.network.drawing = _
      rw [cycle_simulator]
      exact Simulator.drawing_step h.sound.reachable.distinct
    exact ⟨preserved_sound.cycle session h.sound, h.alone.of_drawing_eq hdrawing,
      hlatches.cycle hkind h.sound h.alone⟩
  restart := by
    intro session h
    obtain ⟨frames, hlatches⟩ := h.latches
    obtain ⟨memory, lastClk, hheld⟩ := device.exists_latchedThrough hkind frames
    refine ⟨preserved_sound.restart session h.sound, h.alone.of_drawing_eq Network.drawing_coldStart,
      [], Films.restart session, ?_, fun cycle frame hframe => ?_⟩
    · -- a restart empties the flip-flop, which is its state after no frame
      show session.network.coldStart.device? device.id = _
      rw [Network.device?_coldStart, hlatches.held, hheld, Device.latchedThrough, List.foldl_nil,
        Device.drawn, hkind]
      rfl
    · cases hframe
  setSwitch := by
    intro session after name level h hafter
    obtain ⟨frames, hlatches⟩ := h.latches
    obtain ⟨memory, lastClk, hheld⟩ := device.exists_latchedThrough hkind frames
    have hfilms := hlatches.films.perform (.setSwitch name level)
    rw [perform, hafter] at hfilms
    have hsound := preserved_sound.setSwitch session after name level h.sound hafter
    obtain ⟨id, simulator, -, hset, rfl⟩ := setSwitch_eq_ok hafter
    simp only [Simulator.setSwitch?, Option.map_eq_some_iff] at hset
    obtain ⟨network, hnetwork, rfl⟩ := hset
    refine ⟨hsound, h.alone.of_drawing_eq
      (Network.drawing_setSwitch? h.sound.reachable.distinct hnetwork), frames, hfilms, ?_,
      hlatches.shown⟩
    obtain ⟨found, initial, old, hfound, hswitch, rfl⟩ := Network.setSwitch?_eq_some hnetwork
    -- a flip-flop is no switch
    have hother : device.id ≠ id := by
      rintro rfl
      have hdevice := hlatches.held
      rw [hheld] at hdevice
      rw [Session.network] at hdevice
      rw [hdevice, Option.some.injEq] at hfound
      rw [← hfound] at hswitch
      cases hswitch
    show (session.simulator.network.update id _).device? device.id = _
    rw [Network.device?_update_element, if_neg hother]
    exact hlatches.held
  addMonitor := by
    intro session after signal h hafter
    obtain ⟨frames, hlatches⟩ := h.latches
    have hfilms := hlatches.films.perform (.addMonitor signal)
    rw [perform, hafter] at hfilms
    have hsound := preserved_sound.addMonitor session after signal h.sound hafter
    obtain ⟨point, monitors, -, rfl⟩ := addMonitor_eq_ok hafter
    exact ⟨hsound, h.alone, frames, hfilms, hlatches.held, hlatches.shown⟩
  removeMonitor := by
    intro session after signal h hafter
    obtain ⟨frames, hlatches⟩ := h.latches
    have hfilms := hlatches.films.perform (.removeMonitor signal)
    rw [perform, hafter] at hfilms
    have hsound := preserved_sound.removeMonitor session after signal h.sound hafter
    obtain ⟨point, rfl⟩ := removeMonitor_eq_ok hafter
    exact ⟨hsound, h.alone, frames, hfilms, hlatches.held, hlatches.shown⟩

/-- What is drawn of the network stays the same. -/
theorem preserved_drawing (drawing : Network) :
    Preserved fun session => session.Sound ∧ session.network.drawing = drawing where
  cycle := by
    intro session h
    refine ⟨preserved_sound.cycle session h.1, ?_⟩
    show session.cycle.1.simulator.network.drawing = drawing
    rw [cycle_simulator, ← h.2]
    exact Simulator.drawing_step h.1.reachable.distinct
  restart := by
    intro session h
    exact ⟨preserved_sound.restart session h.1, Network.drawing_coldStart.trans h.2⟩
  setSwitch := by
    intro session after name level h hafter
    have hsound := preserved_sound.setSwitch session after name level h.1 hafter
    obtain ⟨id, simulator, -, hset, rfl⟩ := setSwitch_eq_ok hafter
    simp only [Simulator.setSwitch?, Option.map_eq_some_iff] at hset
    obtain ⟨network, hnetwork, rfl⟩ := hset
    exact ⟨hsound, (Network.drawing_setSwitch? h.1.reachable.distinct hnetwork).trans h.2⟩
  addMonitor := by
    intro session after signal h hafter
    have hsound := preserved_sound.addMonitor session after signal h.1 hafter
    obtain ⟨point, monitors, -, rfl⟩ := addMonitor_eq_ok hafter
    exact ⟨hsound, h.2⟩
  removeMonitor := by
    intro session after signal h hafter
    have hsound := preserved_sound.removeMonitor session after signal h.1 hafter
    obtain ⟨point, rfl⟩ := removeMonitor_eq_ok hafter
    exact ⟨hsound, h.2⟩

/-- **Every flip-flop latches so**, if it latches alone. -/
theorem exists_latches (text : String) (fixedLimit : Option Nat) (operations : List Operation) :
    let session := (load text fixedLimit).1.performAll operations
    ∀ device ∈ session.network.devices, device.kind = .dtype → session.network.LatchesAlone device →
      ∃ frames, session.Latches device frames := by
  intro session device hmem hkind halone
  have hsound := sound_load text fixedLimit
  -- nothing that has been done has changed the drawing, so the flip-flop can be looked up in it
  obtain ⟨-, hdrawing⟩ := (preserved_drawing _).performAll operations ⟨hsound, rfl⟩
  -- the device as it was loaded is the one of the drawing
  obtain ⟨loaded, hloaded, hdrawn⟩ := Network.exists_mem_of_drawing_eq hdrawing hmem
  obtain ⟨hid, -, -, hkind'⟩ := Device.drawn_eq_iff.1 hdrawn
  have hcold : loaded = device.drawn := by
    have hlow := (Definition.sound_read text).built.unlatched loaded hloaded (hkind'.trans hkind)
    rw [← hdrawn, Device.drawn, hkind', hkind]
    show loaded = { loaded with element := .dtype .low .low }
    rw [← hlow]
  have hstart : Latching device (load text fixedLimit).1 := by
    -- it was empty when the session was loaded, with no frames behind it
    refine ⟨hsound, halone.of_drawing_eq hdrawing.symm, [], Films.load text fixedLimit, ?_, ?_⟩
    · show _ = some device.drawn
      rw [← hcold]
      exact hsound.reachable.distinct.device?_eq_some_iff.2 ⟨hloaded, hid⟩
    · intro cycle frame hframe
      cases hframe
  exact ((preserved_latching hkind).performAll operations hstart).latches

end Session

/-! ## Histories without blanks -/

/-- The output has no blank in its history. -/
def Monitors.Unbroken (monitors : Monitors) (point : OutputRef) : Prop :=
  ∀ monitor ∈ monitors.entries, monitor.point = point → .blank ∉ monitor.history.toList

namespace Monitors

variable {monitors : Monitors} {point : OutputRef}

/-- An output that exists adds its level, which is no blank. -/
theorem Unbroken.record (h : monitors.Unbroken point) {net : Network} {level : Level}
    (hlevel : net.level? point = some level) : (monitors.record net).Unbroken point := by
  intro monitor hmonitor hpoint
  obtain ⟨earlier, hearlier, rfl⟩ := List.mem_map.1 hmonitor
  have hpoint' : earlier.point = point := hpoint
  have hblank := h earlier hearlier hpoint
  have hsignal : Signal.blank ≠ .ofLevel level := by
    cases level with
    | low => decide
    | high => decide
  simp [hpoint', hlevel, hblank, hsignal]

theorem unbroken_clear (monitors : Monitors) (point : OutputRef) : monitors.clear.Unbroken point := by
  intro monitor hmonitor _
  obtain ⟨earlier, -, rfl⟩ := List.mem_map.1 hmonitor
  exact List.not_mem_nil

end Monitors

namespace Session

variable {session : Session} {point : OutputRef} {operations : List Operation}

/-- The output is monitored now and after each of some operations. -/
def MonitorsThroughout (session : Session) (operations : List Operation) (point : OutputRef) : Prop :=
  ∀ earlier ∈ operations.inits, point ∈ (session.performAll earlier).monitors.points

/-- It is so at the beginning and at the end. -/
theorem MonitorsThroughout.mem_points (h : session.MonitorsThroughout operations point) :
    point ∈ session.monitors.points ∧ point ∈ (session.performAll operations).monitors.points := by
  have hnow := h [] (by simp)
  have hlast := h operations (by simp)
  exact ⟨hnow, hlast⟩

/-- It is still so when the first of the operations has been performed. -/
theorem MonitorsThroughout.perform {operation : Operation}
    (h : session.MonitorsThroughout (operation :: operations) point) :
    (session.perform operation).1.MonitorsThroughout operations point := by
  intro earlier hearlier
  apply h (operation :: earlier)
  rw [List.mem_inits] at hearlier ⊢
  exact (List.prefix_cons_inj operation).2 hearlier

/-- Cycles add no blanks for an output that exists. -/
theorem unbroken_execute (hsound : session.Sound) (hpoint : point ∈ session.monitors.points)
    (h : session.monitors.Unbroken point) (cycles : Nat) :
    (session.execute cycles).1.monitors.Unbroken point := by
  induction cycles generalizing session with
  | zero => exact h
  | succ cycles ih =>
    have hnext := preserved_sound.cycle session hsound
    rcases session.cycle_cases with ⟨simulator, hstep, -, hcycle⟩ | ⟨simulator, _, -, -, -, hcycle⟩
    · rw [execute_of_cycle_ok (by rw [hcycle])]
      rw [hcycle] at hnext ⊢
      -- recording keeps the points, so the output is among those that exist in the next cycle
      have hpoint' : point ∈ (session.monitors.record simulator.network).points := by
        rw [points_record]
        exact hpoint
      obtain ⟨level, hlevel⟩ :=
        Network.exists_level?_eq_some hnext.reachable.distinct (hnext.mem_outputs hpoint')
      exact ih hnext hpoint' (h.record hlevel)
    · rw [execute_of_cycle_error (by rw [hcycle]), hcycle]
      exact h

/-- A run begins without blanks. -/
theorem unbroken_run (hsound : session.Sound) (hpoint : point ∈ session.monitors.points)
    (cycles : Nat) : (session.run cycles).1.monitors.Unbroken point := by
  apply unbroken_execute (preserved_sound.restart session hsound)
  · show point ∈ session.monitors.clear.points
    rw [points_clear]
    exact hpoint
  · exact session.monitors.unbroken_clear point

/-- **One operation.** A monitor that is there cannot come late. -/
theorem unbroken_perform (hsound : session.Sound) (hpoint : point ∈ session.monitors.points)
    (h : session.monitors.Unbroken point) (operation : Operation) :
    (session.perform operation).1.monitors.Unbroken point := by
  cases operation with
  | run cycles => exact unbroken_run hsound hpoint cycles
  | continueRun cycles =>
    show (session.continueRun cycles).1.monitors.Unbroken point
    rw [continueRun]
    split
    · -- refused, or cycles of the kind above
      exact h
    · exact unbroken_execute hsound hpoint h cycles
  | setSwitch name level =>
    rw [perform]
    cases hset : session.setSwitch name level with
    | error fault => exact h
    | ok after =>
      obtain ⟨id, simulator, -, -, rfl⟩ := setSwitch_eq_ok hset
      exact h
  | addMonitor signal =>
    rw [perform]
    cases hadd : session.addMonitor signal with
    | error fault => exact h
    | ok after =>
      obtain ⟨added, monitors, hmonitors, rfl⟩ := addMonitor_eq_ok hadd
      obtain ⟨-, hnew, rfl⟩ := Monitors.add_eq_ok hmonitors
      intro monitor hmonitor hmonitored
      rcases List.mem_append.1 hmonitor with hold | hadded
      · exact h monitor hold hmonitored
      · -- a monitor that has just been added is of another output
        rw [List.mem_singleton.1 hadded] at hmonitored
        have hsame : added = point := hmonitored
        rw [hsame] at hnew
        exact absurd hpoint hnew
  | removeMonitor signal =>
    rw [perform]
    cases hremove : session.removeMonitor signal with
    | error fault => exact h
    | ok after =>
      obtain ⟨removed, rfl⟩ := removeMonitor_eq_ok hremove
      exact fun monitor hmonitor => h monitor (List.mem_of_mem_filter hmonitor)

/-- **Several operations.** -/
theorem unbroken_performAll (hsound : session.Sound) (h : session.monitors.Unbroken point)
    (hthroughout : session.MonitorsThroughout operations point) :
    (session.performAll operations).monitors.Unbroken point := by
  induction operations generalizing session with
  | nil => exact h
  | cons operation others ih =>
    have hnext := unbroken_perform hsound hthroughout.mem_points.1 h operation
    exact ih (preserved_sound.perform operation hsound) hnext hthroughout.perform

end Session

/-! ## What is recorded of a flip-flop -/

/-- The level that was recorded, unless there is a blank. -/
def Signal.level? : Signal → Option Level
  | low => some .low
  | high => some .high
  | blank => none

theorem Signal.level?_ofLevel (level : Level) : (ofLevel level).level? = some level := by
  cases level <;> rfl

namespace Session

variable {session : Session} {device : Device} {frames : List Network} {point : OutputRef}
  {cycle : Nat} {frame : Network}

/-- The level that was recorded of an output in a cycle, counted from 0. -/
def recorded? (session : Session) (point : OutputRef) (cycle : Nat) : Option Level :=
  (session.monitors.history? point).bind fun history => history[cycle]?.bind Signal.level?

/-- The level that was recorded of what drives an input. An unconnected input is LOW. -/
def recordedInput? (session : Session) (device : Device) (port : InputPort) (cycle : Nat) :
    Option Level :=
  match device.driver? port with
  | none => some .low
  | some source => session.recorded? source cycle

/-- The level of the cycle before, LOW before the first one. -/
def previous? (level? : Nat → Option Level) : Nat → Option Level
  | 0 => some .low
  | cycle + 1 => level? cycle

/-- The record of a flip-flop in a cycle follows from that of its inputs and from the cycle before. -/
def Explained (session : Session) (device : Device) (cycle : Nat) : Prop :=
  ∃ memory lastClk data clk set clear,
    previous? (session.recorded? ⟨device.id, .q⟩) cycle = some memory ∧
    previous? (session.recordedInput? device .clk) cycle = some lastClk ∧
    session.recordedInput? device .data cycle = some data ∧
    session.recordedInput? device .clk cycle = some clk ∧
    session.recordedInput? device .set cycle = some set ∧
    session.recordedInput? device .clear cycle = some clear ∧
    session.recorded? ⟨device.id, .q⟩ cycle = some (nextMemory memory lastClk data clk set clear) ∧
    session.recorded? ⟨device.id, .qbar⟩ cycle
      = some (nextMemory memory lastClk data clk set clear).invert

/-- Without blanks, what is recorded of a cycle is what the frame shows. -/
theorem Films.recorded? (h : session.Films frames) (hpoint : point ∈ session.monitors.points)
    (hunbroken : session.monitors.Unbroken point) (hframe : frames[cycle]? = some frame) :
    ∃ level, frame.level? point = some level ∧ session.recorded? point cycle = some level := by
  -- the monitor of the output, whose history has one signal for each frame
  obtain ⟨monitor, hfound⟩ : ∃ monitor,
      session.monitors.entries.find? (fun entry => entry.point = point) = some monitor := by
    obtain ⟨monitor, hmonitor, rfl⟩ := List.mem_map.1 hpoint
    apply Option.isSome_iff_exists.1
    rw [List.find?_isSome]
    exact ⟨monitor, hmonitor, by simp⟩
  have hmonitor := List.mem_of_find?_eq_some hfound
  have hhistory : session.monitors.history? point = some monitor.history := by
    rw [Monitors.history?, hfound, Option.map_some]
  have hover := h.histories.history? hhistory
  obtain ⟨hlt, -⟩ := List.getElem?_eq_some_iff.1 hframe
  have hsize : monitor.history.size = frames.length := hover.length_eq.symm
  obtain ⟨signal, hsignal⟩ : ∃ signal, monitor.history[cycle]? = some signal :=
    ⟨_, Array.getElem?_eq_getElem (by omega)⟩
  -- a blank would stand in the history
  have hblank : signal ≠ .blank := by
    rintro rfl
    apply hunbroken monitor hmonitor (by simpa using List.find?_some hfound)
    rw [Array.mem_toList_iff]
    exact Array.mem_of_getElem? hsignal
  obtain ⟨level, hlevel, rfl⟩ := (hover.shows hframe hsignal).resolve_left hblank
  refine ⟨level, hlevel, ?_⟩
  rw [Session.recorded?, hhistory, Option.bind_some, hsignal, Option.bind_some, Signal.level?_ofLevel]

/-- The same for what reaches an input. -/
theorem Films.recordedInput? (h : session.Films frames)
    (hpoints : ∀ port source, device.driver? port = some source →
      source ∈ session.monitors.points ∧ session.monitors.Unbroken source)
    (hframe : frames[cycle]? = some frame) (port : InputPort) :
    session.recordedInput? device port cycle = some (frame.inputLevel device port) := by
  rw [Session.recordedInput?, Network.inputLevel]
  cases hsource : device.driver? port with
  | none => rfl
  | some source =>
    obtain ⟨hpoint, hunbroken⟩ := hpoints port source hsource
    obtain ⟨level, hlevel, hrecorded⟩ := h.recorded? hpoint hunbroken hframe
    rw [Network.drivenLevel, Option.bind_some, hlevel]
    exact hrecorded

/-- A flip-flop in a frame: latched from the levels of the frame, which it shows. -/
theorem Latches.device?_frame (h : session.Latches device frames) (hframe : frames[cycle]? = some frame)
    {memory lastClk : Level}
    (hheld : device.latchedThrough (frames.take cycle) = device.withElement (.dtype memory lastClk)) :
    let stored := nextMemory memory lastClk (frame.inputLevel device .data)
      (frame.inputLevel device .clk) (frame.inputLevel device .set) (frame.inputLevel device .clear)
    device.latchedThrough (frames.take (cycle + 1))
        = device.withElement (.dtype stored (frame.inputLevel device .clk)) ∧
      frame.level? ⟨device.id, .q⟩ = some stored ∧
      frame.level? ⟨device.id, .qbar⟩ = some stored.invert := by
  intro stored
  have hlatched : device.latchedThrough (frames.take (cycle + 1))
      = device.withElement (.dtype stored (frame.inputLevel device .clk)) := by
    rw [Device.latchedThrough_take hframe, hheld, Device.latched_withElement]
  have hdevice := h.shown cycle frame hframe
  rw [hlatched] at hdevice
  exact ⟨hlatched, Network.level?_of_dtype hdevice rfl⟩

/-- **The record explains itself** where it has no blanks. -/
theorem Latches.explained (h : session.Latches device frames) (hkind : device.kind = .dtype)
    (houtputs : ∀ port, port = .q ∨ port = .qbar →
      ⟨device.id, port⟩ ∈ session.monitors.points ∧ session.monitors.Unbroken ⟨device.id, port⟩)
    (hinputs : ∀ port source, device.driver? port = some source →
      source ∈ session.monitors.points ∧ session.monitors.Unbroken source)
    (hcycle : cycle < session.cyclesCompleted) : session.Explained device cycle := by
  -- what is recorded of Q and QBAR is what the frames show, and so is what is recorded of the inputs
  have houtput : ∀ port, port = .q ∨ port = .qbar → ∀ cycle frame level, frames[cycle]? = some frame →
      frame.level? ⟨device.id, port⟩ = some level →
        session.recorded? ⟨device.id, port⟩ cycle = some level := by
    intro port hport cycle frame level hframe hlevel
    obtain ⟨hpoint, hunbroken⟩ := houtputs port hport
    obtain ⟨level', hlevel', hrecorded⟩ := h.films.recorded? hpoint hunbroken hframe
    rw [hlevel, Option.some.injEq] at hlevel'
    rw [hlevel']
    exact hrecorded
  have hinput := fun frame cycle (hframe : frames[cycle]? = some frame) =>
    h.films.recordedInput? hinputs hframe
  have hframes : ∀ cycle < session.cyclesCompleted, ∃ frame, frames[cycle]? = some frame := by
    intro cycle hlt
    rw [h.films.count] at hlt
    exact ⟨_, List.getElem?_eq_getElem hlt⟩
  -- the state that the flip-flop is in before the cycle is on record
  have hbefore : ∃ memory lastClk,
      device.latchedThrough (frames.take cycle) = device.withElement (.dtype memory lastClk) ∧
      previous? (session.recorded? ⟨device.id, .q⟩) cycle = some memory ∧
      previous? (session.recordedInput? device .clk) cycle = some lastClk := by
    -- before the first cycle all is LOW, and later the frame before has it
    cases cycle with
    | zero =>
      refine ⟨.low, .low, ?_, rfl, rfl⟩
      rw [List.take_zero, Device.latchedThrough, List.foldl_nil, Device.drawn, hkind]
      rfl
    | succ cycle =>
      obtain ⟨frame, hframe⟩ := hframes cycle (by omega)
      obtain ⟨memory, lastClk, hheld⟩ := device.exists_latchedThrough hkind (frames.take cycle)
      obtain ⟨hlatched, hq, -⟩ := h.device?_frame hframe hheld
      exact ⟨_, _, hlatched, houtput .q (.inl rfl) cycle frame _ hframe hq, hinput frame cycle hframe .clk⟩
  obtain ⟨memory, lastClk, hheld, hmemory, hlastClk⟩ := hbefore
  obtain ⟨frame, hframe⟩ := hframes cycle hcycle
  obtain ⟨-, hq, hqbar⟩ := h.device?_frame hframe hheld
  exact ⟨memory, lastClk, _, _, _, _, hmemory, hlastClk, hinput frame cycle hframe .data,
    hinput frame cycle hframe .clk, hinput frame cycle hframe .set, hinput frame cycle hframe .clear,
    houtput .q (.inl rfl) cycle frame _ hframe hq, houtput .qbar (.inr rfl) cycle frame _ hframe hqbar⟩

/-- **The record of a flip-flop explains itself.** Start a run and do what you like: continue it, set
switches, try cycles that fail. If Q, QBAR and what drives the inputs of a flip-flop have been monitored
all the time, and no flip-flop is among the drivers, then in each completed cycle Q follows from the
recorded levels of the inputs, and from Q and CLK in the cycle before, and QBAR is its inverse. -/
theorem flipFlop_record (text : String) (fixedLimit : Option Nat) (before : List Operation)
    (cycles : Nat) (after : List Operation) :
    let start := (load text fixedLimit).1.performAll before
    let session := start.performAll (.run cycles :: after)
    ∀ device ∈ session.network.devices, device.kind = .dtype → session.network.LatchesAlone device →
      (∀ port ∈ [OutputPort.q, .qbar],
        start.MonitorsThroughout (.run cycles :: after) ⟨device.id, port⟩) →
      (∀ port source, device.driver? port = some source →
        start.MonitorsThroughout (.run cycles :: after) source) →
      ∀ cycle < session.cyclesCompleted, session.Explained device cycle := by
  intro start session device hmem hkind halone houtputs hinputs cycle hcycle
  have hsound : start.Sound := sound_performAll text fixedLimit before
  -- a run starts every history afresh, and from then on the monitors have missed nothing
  have hpoints : ∀ point, start.MonitorsThroughout (.run cycles :: after) point →
      point ∈ session.monitors.points ∧ session.monitors.Unbroken point := by
    intro point hpoint
    obtain ⟨hfirst, hlast⟩ := hpoint.mem_points
    have hstarted : (start.run cycles).1.monitors.Unbroken point := unbroken_run hsound hfirst cycles
    have hsound' : (start.run cycles).1.Sound := preserved_sound.perform (.run cycles) hsound
    have hended := unbroken_performAll hsound' hstarted hpoint.perform
    exact ⟨hlast, hended⟩
  -- the operations before, the run and those after it are one sequence
  obtain ⟨frames, hlatches⟩ :
      ∃ frames, session.Latches device frames := by
    have hall := exists_latches text fixedLimit (before ++ .run cycles :: after)
    rw [performAll, List.foldl_append] at hall
    exact hall device hmem hkind halone
  refine hlatches.explained hkind (fun port hport => hpoints _ (houtputs port ?_))
    (fun port source hsource => hpoints _ (hinputs port source hsource)) hcycle
  simpa using hport

/-- A flip-flop on a switch and a clock, beside a gate that does not settle while its switch is HIGH. -/
def gatedFlipFlop : String :=
  "define S T as SWITCH 0 state; define C as CLOCK period 2; define G as NAND 2 inputs;
  define D as DTYPE; connect S to G.I1; connect G to G.I2; connect T to D.DATA; connect C to D.CLK;
  monitor D.Q D.QBAR T C; END"

/-- After one cycle the data is HIGH, and in the next attempt the clock is LOW and nothing settles. -/
def skippedLow : List Operation :=
  [.setSwitch "T" .high, .setSwitch "S" .high, .continueRun 1, .setSwitch "S" .low, .addMonitor "S",
    .continueRun 3]

/-- The clock was LOW in the attempt that failed. That is not on record and is no edge: the second cycle
leaves the bit as it was, and the fourth one takes the data. -/
theorem flipFlop_record_gatedFlipFlop :
    let session := (load gatedFlipFlop none).1.performAll (.run 1 :: skippedLow)
    ∃ device ∈ session.network.devices, device.kind = .dtype ∧ session.network.LatchesAlone device ∧
      device.driver? .clk = some ⟨⟨30⟩, .main⟩ ∧ session.cyclesCompleted = 4 ∧
      (∀ cycle < 4, session.Explained device cycle) ∧
      (List.range 4).map (session.recorded? ⟨⟨30⟩, .main⟩)
        = [some .high, some .high, some .low, some .high] ∧
      (List.range 4).map (session.recorded? ⟨device.id, .q⟩)
        = [some .low, some .low, some .low, some .high] := by
  intro session
  let device : Device :=
    ⟨⟨33⟩, "D", [(.data, some ⟨⟨28⟩, .main⟩), (.clk, some ⟨⟨30⟩, .main⟩), (.set, none), (.clear, none)],
      .dtype .high .high⟩
  have hfacts : session.cyclesCompleted = 4 ∧ device ∈ session.network.devices ∧
      (∀ driver ∈ session.network.devices, driver.id = ⟨28⟩ ∨ driver.id = ⟨30⟩ → driver.kind ≠ .dtype) ∧
      (∀ earlier ∈ (Operation.run 1 :: skippedLow).inits,
        ∀ point ∈ [⟨⟨33⟩, .q⟩, ⟨⟨33⟩, .qbar⟩, ⟨⟨28⟩, .main⟩, ⟨⟨30⟩, .main⟩],
          point ∈ ((load gatedFlipFlop none).1.performAll earlier).monitors.points) ∧
      (List.range 4).map (session.recorded? ⟨⟨30⟩, .main⟩)
        = [some .high, some .high, some .low, some .high] ∧
      (List.range 4).map (session.recorded? ⟨⟨33⟩, .q⟩)
        = [some .low, some .low, some .low, some .high] := by
    decide +kernel
  obtain ⟨hcount, hmem, hkinds, hpoints, hclk, hq⟩ := hfacts
  have hsources : ∀ port source, device.driver? port = some source →
      source = ⟨⟨28⟩, .main⟩ ∨ source = ⟨⟨30⟩, .main⟩ := by
    intro port source hsource
    cases port with
    | gate number => cases hsource
    | data => exact .inl (Option.some.inj hsource).symm
    | clk => exact .inr (Option.some.inj hsource).symm
    | set => cases hsource
    | clear => cases hsource
  have halone : session.network.LatchesAlone device := by
    intro port source hsource driver hdriver hid
    apply hkinds driver hdriver
    rcases hsources port source hsource with rfl | rfl
    · exact .inl hid
    · exact .inr hid
  have hexplained := flipFlop_record gatedFlipFlop none [] 1 skippedLow device hmem rfl halone
    (fun port hport earlier hearlier => hpoints earlier hearlier _ ?_)
    (fun port source hsource earlier hearlier => hpoints earlier hearlier _ ?_)
  · exact ⟨device, hmem, rfl, halone, rfl, hcount, fun cycle hlt => hexplained cycle (hcount ▸ hlt), hclk, hq⟩
  · simp only [List.mem_cons, List.not_mem_nil, or_false] at hport
    rcases hport with rfl | rfl
    · decide
    · decide
  · rcases hsources port source hsource with rfl | rfl
    · decide
    · decide

end Session

end LogicCircuit
