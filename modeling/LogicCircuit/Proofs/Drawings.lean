import LogicCircuit.Proofs.Recording
import LogicCircuit.Proofs.SignalNames

/-!
# Drawings — traces can be read back

A blank in the drawing of the traces may be a cycle that was not monitored, the room behind a short name, or
a part of the separator. The drawing can be read back all the same. No display name has a blank, a colon or a
newline in it (`Drawable`), so a name is over at the first blank of its line, and the history begins behind
the first colon and one more blank, whatever it begins with.

* **`Trace.decode`** — reads a drawing.
* **`Trace.decode_rows`** — it reads what was drawn, row by row, at any width.
* **`Session.render_decodes`** — so it is with every session, where moreover all rows have one length.
-/

namespace LogicCircuit

/-! ## Reading a drawing -/

/-- The signal that a mark stands for. -/
def Signal.ofMark? (c : Char) : Option Signal :=
  if c = '_' then some low
  else if c = '-' then some high
  else if c = ' ' then some blank
  else none

@[simp] theorem Signal.ofMark?_mark (signal : Signal) : ofMark? signal.mark = some signal := by
  cases signal <;> rfl

theorem Signal.mark_ne_newline (signal : Signal) : signal.mark ≠ '\n' := by
  cases signal <;> decide

/-- A signal as it is drawn: its display name and its history. -/
structure Recording where
  name : String
  history : Array Signal
  deriving DecidableEq, Repr

namespace Trace

/-- A line of a drawing, without the newline. -/
def row (width : Nat) (recording : Recording) : String :=
  pad recording.name width ++ " : " ++ ofHistory recording.history

/-- Reads a line of a drawing. -/
def decodeRow (row : List Char) : Recording :=
  { name := String.ofList (row.takeWhile (· ≠ ' '))
    history := (((row.dropWhile (· ≠ ':')).drop 2).filterMap Signal.ofMark?).toArray }

/-- Reads a drawing, which ends with a newline. -/
def decode (text : String) : List Recording :=
  (text.toList.splitOn '\n').dropLast.map decodeRow

/-- A name that does not get mixed up with what is around it in a drawing. -/
def Drawable (name : String) : Prop :=
  ∀ c ∈ name.toList, c ≠ ' ' ∧ c ≠ ':' ∧ c ≠ '\n'

variable {name : String} {width : Nat} {recording : Recording}

/-! ### Rows -/

/-- What stands behind the name in a row. -/
def behindName (width : Nat) (recording : Recording) : List Char :=
  List.replicate (width - recording.name.length) ' ' ++
    ' ' :: ':' :: ' ' :: recording.history.toList.map Signal.mark

theorem toList_row (width : Nat) (recording : Recording) :
    (row width recording).toList = recording.name.toList ++ behindName width recording := by
  simp [row, pad, ofHistory, behindName]

/-- A row is as long as the margin asks for, if the name fits into it. -/
theorem length_row (h : recording.name.length ≤ width) :
    (row width recording).length = width + 3 + recording.history.size := by
  have hpadded : recording.name.length + (width - recording.name.length) = width := by omega
  rw [← String.length_toList, toList_row, behindName]
  simp only [List.length_append, List.length_replicate, List.length_cons, List.length_map,
    Array.length_toList, String.length_toList]
  omega

/-- A row is one line. -/
theorem newline_notMem_row (h : Drawable recording.name) : '\n' ∉ (row width recording).toList := by
  rw [toList_row, List.mem_append, not_or]
  constructor
  · intro hmem
    exact (h '\n' hmem).2.2 rfl
  · have hmarks : '\n' ∉ recording.history.toList.map Signal.mark := by
      intro hmem
      obtain ⟨signal, -, hmark⟩ := List.mem_map.1 hmem
      exact signal.mark_ne_newline hmark
    simp [behindName, hmarks]

/-- The name is over at the first blank, be it of the padding or of the separator. -/
theorem takeWhile_row (h : Drawable recording.name) :
    (row width recording).toList.takeWhile (· ≠ ' ') = recording.name.toList := by
  have hname : ∀ c ∈ recording.name.toList, decide (c ≠ ' ') = true :=
    fun c hc => decide_eq_true (h c hc).1
  have hbehind : (behindName width recording).takeWhile (· ≠ ' ') = [] := by
    rw [behindName]
    -- the padding may be empty, and then the blank of the separator is the first one
    cases width - recording.name.length with
    | zero => rfl
    | succ room => rfl
  rw [toList_row, List.takeWhile_append_of_pos hname, hbehind, List.append_nil]

/-- The first colon is that of the separator. -/
theorem dropWhile_row (h : Drawable recording.name) :
    (row width recording).toList.dropWhile (· ≠ ':')
      = ':' :: ' ' :: recording.history.toList.map Signal.mark := by
  have hname : ∀ c ∈ recording.name.toList, decide (c ≠ ':') = true :=
    fun c hc => decide_eq_true (h c hc).2.1
  have hroom : ∀ c ∈ List.replicate (width - recording.name.length) ' ', decide (c ≠ ':') = true := by
    intro c hc
    rw [List.eq_of_mem_replicate hc]
    rfl
  rw [toList_row, List.dropWhile_append_of_pos hname, behindName, List.dropWhile_append_of_pos hroom]
  rfl

/-- **One row.** It is read as what was drawn. -/
theorem decodeRow_row (h : Drawable recording.name) :
    decodeRow (row width recording).toList = recording := by
  obtain ⟨name, history⟩ := recording
  rw [decodeRow, takeWhile_row h, dropWhile_row h]
  simp [List.filterMap_map]

/-! ### Drawings -/

/-- Rows that end with newlines are told apart by them. -/
theorem splitOn_rows {rows : List String} (h : ∀ row ∈ rows, '\n' ∉ row.toList) :
    (String.join (rows.map (· ++ "\n"))).toList.splitOn '\n' = rows.map String.toList ++ [[]] := by
  induction rows with
  | nil => rfl
  | cons row others ih =>
    obtain ⟨hrow, hothers⟩ := List.forall_mem_cons.1 h
    have hchars : (String.join ((row :: others).map (· ++ "\n"))).toList
        -- the first newline is the one behind the first row
        = row.toList ++ '\n' :: (String.join (others.map (· ++ "\n"))).toList := by
      simp [String.toList_join]
    rw [hchars, List.splitOn_append_cons_self, List.splitOn_eq_singleton hrow, ih hothers]
    rfl

/-- **Several rows.** They are read as what was drawn, in the same order. -/
theorem decode_rows {recordings : List Recording}
    (h : ∀ recording ∈ recordings, Drawable recording.name) :
    decode (String.join ((recordings.map (row width)).map (· ++ "\n"))) = recordings := by
  have hrows : ∀ line ∈ recordings.map (row width), '\n' ∉ line.toList := by
    intro line hline
    obtain ⟨recording, hrecording, rfl⟩ := List.mem_map.1 hline
    exact newline_notMem_row (h recording hrecording)
  rw [decode, splitOn_rows hrows, List.dropLast_concat, List.map_map, List.map_map]
  conv_rhs => rw [← List.map_id recordings]
  exact List.map_congr_left fun recording hrecording => decodeRow_row (h recording hrecording)

end Trace

/-! ## Margins -/

/-- The widest of some names and of a width to start with. -/
theorem foldl_max_spec (names : List String) (start : Nat) :
    let widest := names.foldl (fun widest name => max widest name.length) start
    start ≤ widest ∧ (∀ name ∈ names, name.length ≤ widest) ∧
      (widest = start ∨ ∃ name ∈ names, name.length = widest) := by
  induction names generalizing start with
  | nil => exact ⟨Nat.le_refl start, nofun, .inl rfl⟩
  | cons name others ih =>
    rw [List.foldl_cons]
    obtain ⟨hstart, hothers, hreached⟩ := ih (max start name.length)
    refine ⟨by omega, List.forall_mem_cons.2 ⟨by omega, hothers⟩, ?_⟩
    rcases hreached with hwidest | ⟨other, hother, hwidest⟩
    · -- the widest is the first name, or the one to start with, or one further on
      rcases Nat.le_total name.length start with hle | hle
      · exact .inl (hwidest.trans (Nat.max_eq_left hle))
      · exact .inr ⟨name, List.mem_cons_self, (hwidest.trans (Nat.max_eq_right hle)).symm⟩
    · exact .inr ⟨other, List.mem_cons_of_mem name hother, hwidest⟩

/-- The margin is the length of the longest name. -/
theorem Monitors.margin_spec (monitors : Monitors) (net : Network) :
    (∀ name ∈ monitors.monitoredNames net, name.length ≤ monitors.margin net) ∧
      (monitors.monitoredNames net ≠ [] →
        ∃ name ∈ monitors.monitoredNames net, name.length = monitors.margin net) := by
  obtain ⟨-, hle, hreached⟩ := foldl_max_spec (monitors.monitoredNames net) 0
  refine ⟨hle, fun hne => ?_⟩
  rcases hreached with hzero | hname
  · -- then all names are empty
    obtain ⟨name, hname⟩ := List.exists_mem_of_ne_nil _ hne
    have hlength := hle name hname
    exact ⟨name, hname, by rw [margin]; omega⟩
  · exact hname

/-! ## Sessions -/

namespace Session

variable {session : Session}

/-- What a monitor has recorded, under the display name of its output. -/
def recording? (session : Session) (monitor : Monitor) : Option Recording :=
  (session.network.signalName? monitor.point).map fun name => ⟨name, monitor.history⟩

/-- The monitored signals with their histories, in the order in which they were added. -/
def recordings (session : Session) : List Recording :=
  session.monitors.entries.filterMap session.recording?

/-- A recording is the display name and the history of a monitor. -/
theorem recording?_eq_some_iff {monitor : Monitor} {recording : Recording} :
    session.recording? monitor = some recording ↔
      session.network.signalName? monitor.point = some recording.name ∧
        recording.history = monitor.history := by
  obtain ⟨name, history⟩ := recording
  rw [recording?, Option.map_eq_some_iff]
  constructor
  · rintro ⟨found, hname, hsame⟩
    cases hsame
    exact ⟨hname, rfl⟩
  · rintro ⟨hname, rfl⟩
    exact ⟨name, hname, rfl⟩

/-- The drawing puts the recordings in rows. -/
theorem render_eq (session : Session) :
    session.render = String.join ((session.recordings.map
      (Trace.row (session.monitors.margin session.network))).map (· ++ "\n")) := by
  rw [render, Monitors.render, recordings, List.map_filterMap, List.map_filterMap]
  congr 2
  funext monitor
  rw [recording?]
  cases session.network.signalName? monitor.point with
  | none => rfl
  | some name => rfl

/-- Every monitor has a recording. -/
theorem Sound.forall₂_recordings (h : session.Sound) :
    List.Forall₂ (fun recording monitor =>
      session.network.signalName? monitor.point = some recording.name ∧
        recording.history = monitor.history) session.recordings session.monitors.entries := by
  -- all monitored outputs exist, so each has a name; one monitor after the other
  have hwatched := h.watched
  rw [recordings]
  generalize session.monitors.entries = monitors at hwatched ⊢
  induction monitors with
  | nil => exact .nil
  | cons monitor others ih =>
    obtain ⟨hmonitor, hothers⟩ := List.forall_mem_cons.1 hwatched
    obtain ⟨name, hname⟩ := h.reachable.distinct.exists_signalName? hmonitor
    have hrecorded : session.recording? monitor = some ⟨name, monitor.history⟩ :=
      recording?_eq_some_iff.2 ⟨hname, rfl⟩
    rw [List.filterMap_cons_some hrecorded]
    exact .cons ⟨hname, rfl⟩ (ih hothers)

/-- A display name is made of letters, digits and dots. -/
theorem Legible.drawable {point : OutputRef} {name : String} (h : session.Legible)
    (hname : session.network.signalName? point = some name) : Trace.Drawable name := by
  obtain ⟨device, hdevice, -, rfl⟩ := Network.signalName?_eq_some_iff.1 hname
  obtain ⟨first, body, hspelled, hfirst, hbody⟩ :=
    (h.isIdentifier (Network.mem_of_device? hdevice).1).spelled
  have hletters : ∀ c ∈ device.name.toList, c.isAlphanum := by
    rw [hspelled]
    exact List.forall_mem_cons.2 ⟨Definition.isAlphanum_of_isAlpha hfirst, hbody⟩
  have hsuffix : ∀ c ∈ point.port.suffix.toList, c ≠ ' ' ∧ c ≠ ':' ∧ c ≠ '\n' := by
    cases point.port <;> simp [OutputPort.suffix]
  intro c hc
  rw [Device.outputName, String.toList_append, List.mem_append] at hc
  -- a character of the identifier, or one of the port
  rcases hc with hc | hc
  · have halphanum := hletters c hc
    exact ⟨Definition.ne_of_isAlphanum halphanum (by decide),
      Definition.ne_of_isAlphanum halphanum (by decide),
      Definition.ne_of_isAlphanum halphanum (by decide)⟩
  · exact hsuffix c hc

/-- **A drawing is read as what was drawn.** -/
theorem Legible.decode_render (h : session.Legible) :
    Trace.decode session.render = session.recordings := by
  rw [render_eq]
  apply Trace.decode_rows
  intro recording hrecording
  obtain ⟨monitor, -, hrecorded⟩ := List.mem_filterMap.1 hrecording
  exact h.drawable (recording?_eq_some_iff.1 hrecorded).1

/-- **Drawings lose nothing.** In every session the drawing of the traces has one line for each monitor, in
the order in which they were added, and all lines are of one length: that of the longest display name, three
characters more, and one for each completed cycle. What the drawing was made of can be read from it, and so
two sessions with the same drawing monitor signals of the same names with the same histories. -/
theorem render_decodes (text : String) (fixedLimit : Option Nat) (operations : List Operation) :
    let session := (load text fixedLimit).1.performAll operations
    let margin := session.monitors.margin session.network
    let rows := session.recordings.map (Trace.row margin)
    (session.render = String.join (rows.map (· ++ "\n")) ∧ rows.length = session.monitors.size ∧
      ∀ row ∈ rows, '\n' ∉ row.toList ∧ row.length = margin + 3 + session.cyclesCompleted) ∧
    List.Forall₂ (fun recording monitor =>
      session.network.signalName? monitor.point = some recording.name ∧
        recording.history = monitor.history) session.recordings session.monitors.entries ∧
    ((∀ name ∈ session.monitoredNames, name.length ≤ margin) ∧
      (session.monitoredNames ≠ [] → ∃ name ∈ session.monitoredNames, name.length = margin)) ∧
    Trace.decode session.render = session.recordings ∧
    ∀ (text' : String) (fixedLimit' : Option Nat) (operations' : List Operation),
      let other := (load text' fixedLimit').1.performAll operations'
      session.render = other.render → session.recordings = other.recordings := by
  intro session margin rows
  have hlegible : session.Legible := legible_performAll text fixedLimit operations
  have hstep : session.InStep := preserved_inStep.performAll operations (inStep_load text fixedLimit)
  have hmonitors := hlegible.sound.forall₂_recordings
  have hmargin := session.monitors.margin_spec session.network
  refine ⟨⟨session.render_eq, ?_, ?_⟩, hmonitors, hmargin, hlegible.decode_render, ?_⟩
  · rw [List.length_map]
    exact hmonitors.length_eq
  · intro row hrow
    obtain ⟨recording, hrecording, rfl⟩ := List.mem_map.1 hrow
    obtain ⟨monitor, hmonitor, hrecorded⟩ := List.mem_filterMap.1 hrecording
    obtain ⟨hname, hhistory⟩ := recording?_eq_some_iff.1 hrecorded
    have hlisted : recording.name ∈ session.monitoredNames :=
      Legible.mem_monitoredNames_iff.2 ⟨monitor.point, List.mem_map_of_mem hmonitor, hname⟩
    refine ⟨Trace.newline_notMem_row (hlegible.drawable hname), ?_⟩
    rw [Trace.length_row (hmargin.1 recording.name hlisted), hhistory,
      (hstep.recorded monitor hmonitor).1]
  · intro text' fixedLimit' operations' other hsame
    have hother : other.Legible := legible_performAll text' fixedLimit' operations'
    rw [← hlegible.decode_render, hsame, hother.decode_render]

/-- The gate of `gatedLoop` and its switch, among other devices. -/
def gatedLoopBeside : String :=
  "define T1 T2 as DTYPE; define S as SWITCH 0 state; define G as NAND 2 inputs; " ++
    "connect G to G.I2; connect S to G.I1; connect S to T1.DATA; monitor G; END"

/-- The switch has two blanks, for the cycles before it was monitored. -/
theorem render_decodes_gatedLoop :
    let session := (load gatedLoop none).1.performAll lateMonitor
    let other := (load gatedLoopBeside none).1.performAll lateMonitor
    session.render = "G : ---\nS :   _\n" ∧ session.render = other.render ∧
      session.recordings = other.recordings := by
  intro session other
  have hdrawn : session.render = "G : ---\nS :   _\n" ∧ session.render = other.render := by
    decide +kernel
  obtain ⟨-, -, -, -, hunique⟩ := render_decodes gatedLoop none lateMonitor
  exact ⟨hdrawn.1, hdrawn.2, hunique gatedLoopBeside none lateMonitor hdrawn.2⟩

end Session

end LogicCircuit
