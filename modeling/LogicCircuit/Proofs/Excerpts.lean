import LogicCircuit.Diagnostic
import Mathlib.Data.List.Basic
import Mathlib.Data.List.Induction
import Mathlib.Data.List.Infix
import Mathlib.Data.List.TakeWhile

/-!
# Excerpts — where the caret stands

An excerpt is cut out of the text between four offsets: the starts of a line and of a statement, the
place itself and the end of the line. `Document.excerpt?` searches two sorted tables, one of line starts
and one of boundaries, and cuts with checks: what does not lie within the text, or begins or ends in the
middle of a character, is no slice.

* **`partitionPoint?_lineStarts`**, **`partitionPoint?_reverse`** — the searches in the two tables, and
  which entry is the last one found.
* **`Document.excerpt?_eq`** — for a place whose statement begins where a boundary or a line says it does,
  all slices are there, and they make up the excerpt of the characters before and behind the place.
* **`Document.excerpt_eq`** — so does the excerpt that is cut without checks.
-/

namespace LogicCircuit.Text

/-! ## Bytes -/

section Bytes

variable (front back : List Char)

/-- Bytes add up, as no character is split. -/
theorem byteLength_append : byteLength (front ++ back) = byteLength front + byteLength back := by
  induction front with
  | nil => simp [byteLength]
  | cons c front ih =>
    show c.utf8Size + byteLength (front ++ back) = c.utf8Size + byteLength front + byteLength back
    rw [ih, Nat.add_assoc]

theorem byteLength_pos {chars : List Char} (h : chars ≠ []) : 0 < byteLength chars := by
  obtain ⟨c, others, rfl⟩ := List.exists_cons_of_ne_nil h
  have hsize := c.utf8Size_pos
  show 0 < c.utf8Size + byteLength others
  omega

/-- Bytes are taken and dropped as they were put together. -/
theorem takeBytes_byteLength : takeBytes (byteLength front) (front ++ back) = front := by
  induction front with
  | nil =>
    cases back with
    | nil => rfl
    | cons c back =>
      have hsize := c.utf8Size_pos
      rw [List.nil_append, takeBytes, if_neg]
      show ¬ c.utf8Size ≤ 0
      omega
  | cons c front ih =>
    have hsplit : c.utf8Size + byteLength front - c.utf8Size = byteLength front := by omega
    show takeBytes (c.utf8Size + byteLength front) (c :: (front ++ back)) = c :: front
    rw [takeBytes, if_pos (by omega), hsplit, ih]

theorem dropBytes_byteLength : dropBytes (byteLength front) (front ++ back) = back := by
  have h := takeBytes_append_dropBytes (byteLength front) (front ++ back)
  rw [takeBytes_byteLength] at h
  exact List.append_cancel_left h

end Bytes

/-- Of two fronts of a text, the one with fewer bytes is a front of the other. -/
theorem prefix_of_byteLength_le {front front' chars : List Char} (h : front <+: chars)
    (h' : front' <+: chars) (hle : byteLength front ≤ byteLength front') : front <+: front' := by
  rcases List.prefix_or_prefix_of_prefix h h' with hprefix | ⟨more, rfl⟩
  · exact hprefix
  · -- the other way round they have as many bytes, so there is nothing more
    have hnone : more = [] := by
      by_contra hne
      have hpos := byteLength_pos hne
      rw [byteLength_append] at hle
      omega
    rw [hnone, List.append_nil]

/-- The offset is in the text and no character lies across it. -/
def IsBoundary (chars : List Char) (offset : Nat) : Prop :=
  byteLength (takeBytes offset chars) = offset

instance (chars : List Char) (offset : Nat) : Decidable (IsBoundary chars offset) := by
  unfold IsBoundary
  infer_instance

theorem isBoundary_byteLength (front back : List Char) : IsBoundary (front ++ back) (byteLength front) := by
  rw [IsBoundary, takeBytes_byteLength]

/-- The characters between two offsets, if there is such a slice of the text. -/
def slice? (chars : List Char) (start stop : Nat) : Option (List Char) :=
  if start ≤ stop ∧ IsBoundary chars start ∧ IsBoundary chars stop then
    some (takeBytes (stop - start) (dropBytes start chars))
  else none

/-- What was put between two other pieces can be cut out again. -/
theorem slice?_append (front middle back : List Char) :
    slice? (front ++ (middle ++ back)) (byteLength front) (byteLength (front ++ middle))
      = some middle := by
  have hstop := isBoundary_byteLength (front ++ middle) back
  rw [List.append_assoc] at hstop
  have hlength := byteLength_append front middle
  have hmiddle : byteLength (front ++ middle) - byteLength front = byteLength middle := by omega
  have hordered : byteLength front ≤ byteLength (front ++ middle) := by omega
  rw [slice?, if_pos ⟨hordered, isBoundary_byteLength front _, hstop⟩, dropBytes_byteLength, hmiddle,
    takeBytes_byteLength]

/-! ## Characters behind the last of a kind -/

section SinceLast

variable (stop : Char → Bool) (front : List Char)

/-- The characters through the last one at which to stop. -/
def throughLast : List Char :=
  (front.reverse.dropWhile fun c => !stop c).reverse

/-- The characters behind it. -/
def sinceLast : List Char :=
  (front.reverse.takeWhile fun c => !stop c).reverse

theorem throughLast_append_sinceLast : throughLast stop front ++ sinceLast stop front = front := by
  rw [throughLast, sinceLast, ← List.reverse_append, List.takeWhile_append_dropWhile, List.reverse_reverse]

/-- One more character is where to stop last, or it changes nothing. -/
theorem throughLast_concat (c : Char) :
    throughLast stop (front ++ [c]) = if stop c then front ++ [c] else throughLast stop front := by
  rw [throughLast, List.reverse_concat]
  by_cases hc : stop c
  · rw [if_pos hc, List.dropWhile_cons_of_neg (by simp [hc]), ← List.reverse_concat, List.reverse_reverse]
  · rw [if_neg hc, List.dropWhile_cons_of_pos (by simp [hc])]
    rfl

/-- Where there is nothing to stop at, nothing changes. -/
theorem throughLast_append {more : List Char} (h : ∀ c ∈ more, ¬ stop c) :
    throughLast stop (front ++ more) = throughLast stop front := by
  induction more using List.reverseRecOn with
  | nil => rw [List.append_nil]
  | append_singleton more c ih =>
    rw [List.forall_mem_append, List.forall_mem_singleton] at h
    rw [← List.append_assoc, throughLast_concat, if_neg h.2, ih h.1]

theorem not_stop_of_mem_sinceLast {c : Char} (h : c ∈ sinceLast stop front) : ¬ stop c := by
  rw [sinceLast, List.mem_reverse] at h
  simpa using List.mem_takeWhile_imp h

end SinceLast

/-- The end of a line. -/
def isNewline (c : Char) : Bool :=
  c = '\n'

/-- What a statement can begin behind: the end of a line, a semicolon, or the end of a comment. -/
def isMark (c : Char) : Bool :=
  c = '\n' || c = ';' || c = '#'

/-! ## Sorted tables -/

/-- How many entries of a table pass a test. Searching for that by halves needs a table in which no entry
that passes stands behind one that fails; there is no answer for another. -/
def partitionPoint? (test : Nat → Bool) (table : List Nat) : Option Nat :=
  if ∀ entry ∈ table.dropWhile test, ¬ test entry then some (table.takeWhile test).length else none

/-- A sorted table is searched to the place where the entries begin to fail. -/
theorem partitionPoint?_append {test : Nat → Bool} {passing failing : List Nat}
    (hpassing : ∀ entry ∈ passing, test entry) (hfailing : ∀ entry ∈ failing, ¬ test entry) :
    partitionPoint? test (passing ++ failing) = some passing.length := by
  have htake : failing.takeWhile test = [] := by
    rw [List.takeWhile_eq_nil_iff]
    exact fun hne => hfailing _ (List.get_mem _ ⟨0, hne⟩)
  have hdrop : failing.dropWhile test = failing := by
    have h := @List.takeWhile_append_dropWhile _ test failing
    rw [htake] at h
    exact h
  rw [partitionPoint?, List.dropWhile_append_of_pos hpassing, List.takeWhile_append_of_pos hpassing, htake,
    hdrop, if_pos hfailing, List.append_nil]

/-- Among descending offsets, searched the other way round, the last one in front of a place is the first
that is met from behind. -/
theorem partitionPoint?_reverse {offsets : List Nat} (h : offsets.Pairwise (· > ·)) (place : Nat) :
    ∃ count, partitionPoint? (· < place) offsets.reverse = some count ∧
      (offsets.reverse.take count).getLast? = offsets.find? (· < place) := by
  let beyond := offsets.takeWhile fun offset => !decide (offset < place)
  let before := offsets.dropWhile fun offset => !decide (offset < place)
  have hsplit : offsets.reverse = before.reverse ++ beyond.reverse := by
    rw [← List.reverse_append, List.takeWhile_append_dropWhile]
  have hfailing : ∀ offset ∈ beyond.reverse, ¬ decide (offset < place) = true := by
    intro offset hoffset
    -- what is passed over from behind is not in front of the place
    have hnot := List.mem_takeWhile_imp (List.mem_reverse.1 hoffset)
    simpa using hnot
  have hfirst : before.head? = offsets.find? (· < place) := by
    exact (List.find?_eq_head?_dropWhile_not _ _).symm
  have hpassing : ∀ offset ∈ before.reverse, decide (offset < place) = true := by
    intro offset hoffset
    rw [List.mem_reverse] at hoffset
    have hdescending : before.Pairwise (· > ·) := h.sublist (List.dropWhile_sublist _)
    cases hbefore : before with
    | nil =>
      rw [hbefore] at hoffset
      cases hoffset
    | cons first others =>
      -- the first that is met is in front of the place, and all behind it in the table are further in front
      rw [hbefore, List.head?_cons] at hfirst
      have hlt : first < place := by simpa using List.find?_some hfirst.symm
      rw [hbefore] at hoffset hdescending
      rw [decide_eq_true_eq]
      rcases List.mem_cons.1 hoffset with rfl | hother
      · exact hlt
      · have hgt := List.rel_of_pairwise_cons hdescending hother
        omega
  refine ⟨before.reverse.length, ?_, ?_⟩
  · rw [hsplit, partitionPoint?_append hpassing hfailing]
  · rw [hsplit, List.take_left, List.getLast?_reverse, hfirst]

/-- The offsets behind the line ends among some characters. -/
def lineStartsFrom (offset : Nat) : List Char → List Nat
  | [] => []
  | c :: rest =>
    let next := offset + c.utf8Size
    if c = '\n' then next :: lineStartsFrom next rest else lineStartsFrom next rest

/-- The offsets at which lines start, in order. -/
def lineStarts (chars : List Char) : List Nat :=
  0 :: lineStartsFrom 0 chars

section LineStarts

variable (offset : Nat) (front back : List Char)

/-- The line starts of two pieces are those of the first, and those of the second moved behind it. -/
theorem lineStartsFrom_append : lineStartsFrom offset (front ++ back)
    = lineStartsFrom offset front ++ lineStartsFrom (offset + byteLength front) back := by
  induction front generalizing offset with
  | nil => rfl
  | cons c front ih =>
    have hoffset : offset + byteLength (c :: front) = offset + c.utf8Size + byteLength front :=
      (Nat.add_assoc ..).symm
    rw [List.cons_append, lineStartsFrom, lineStartsFrom, hoffset]
    split
    · rw [ih, List.cons_append]
    · exact ih _

/-- A line starts behind the start of a piece, and not behind its end. -/
theorem mem_lineStartsFrom {start : Nat} (h : start ∈ lineStartsFrom offset front) :
    offset < start ∧ start ≤ offset + byteLength front := by
  induction front generalizing offset with
  | nil => cases h
  | cons c front ih =>
    have hsize := c.utf8Size_pos
    have hlength : byteLength (c :: front) = c.utf8Size + byteLength front := rfl
    rw [lineStartsFrom] at h
    split at h
    · rcases List.mem_cons.1 h with rfl | hlater
      · omega
      · have hbounds := ih _ hlater
        omega
    · have hbounds := ih _ h
      omega

/-- One line starts behind each line end. -/
theorem length_lineStartsFrom : (lineStartsFrom offset front).length = front.count '\n' := by
  induction front generalizing offset with
  | nil => rfl
  | cons c front ih =>
    rw [lineStartsFrom]
    split
    · next hnewline => rw [List.length_cons, ih, hnewline, List.count_cons_self]
    · next hnewline => rw [ih, List.count_cons_of_ne hnewline]

theorem lineStarts_append :
    lineStarts (front ++ back) = lineStarts front ++ lineStartsFrom (byteLength front) back := by
  rw [lineStarts, lineStartsFrom_append, Nat.zero_add, ← List.cons_append, lineStarts]

/-- As many lines start up to a place as there are line ends in front of it, and one. -/
theorem partitionPoint?_lineStarts : partitionPoint? (· ≤ byteLength front) (lineStarts (front ++ back))
    = some (front.count '\n' + 1) := by
  -- lines start in front of the place or at it, as long as their ends are in front of it
  have hfront : ∀ start ∈ lineStarts front, decide (start ≤ byteLength front) = true := by
    intro start hstart
    rw [decide_eq_true_eq]
    rcases List.mem_cons.1 hstart with rfl | hlater
    · exact Nat.zero_le _
    · have hbounds := mem_lineStartsFrom 0 front hlater
      omega
  have hback : ∀ start ∈ lineStartsFrom (byteLength front) back,
      ¬ decide (start ≤ byteLength front) = true := by
    intro start hstart
    have hbounds := mem_lineStartsFrom _ back hstart
    rw [decide_eq_true_eq]
    omega
  rw [lineStarts_append, partitionPoint?_append hfront hback, lineStarts, List.length_cons,
    length_lineStartsFrom]

/-- The last of them starts the line of the place. -/
theorem getLast_lineStarts :
    (lineStarts front).getLast? = some (byteLength (throughLast isNewline front)) := by
  induction front using List.reverseRecOn with
  | nil => rfl
  | append_singleton front c ih =>
    rw [throughLast_concat, lineStarts, lineStartsFrom_append, Nat.zero_add, lineStartsFrom]
    by_cases hc : c = '\n'
    · have hstop : isNewline c = true := decide_eq_true hc
      rw [if_pos hc, if_pos hstop, lineStartsFrom, ← List.cons_append, List.getLast?_concat,
        byteLength_append]
      rfl
    · have hstop : ¬ isNewline c = true := by simpa [isNewline] using hc
      rw [if_neg hc, if_neg hstop, lineStartsFrom, List.append_nil]
      exact ih

/-- So the line of a place is found at the number of line ends in front of it. -/
theorem getElem?_lineStarts :
    (lineStarts (front ++ back))[front.count '\n']? = some (byteLength (throughLast isNewline front)) := by
  have hlength : (lineStarts front).length = front.count '\n' + 1 := by
    rw [lineStarts, List.length_cons, length_lineStartsFrom]
  have hlast : (lineStarts front).length - 1 = front.count '\n' := by omega
  rw [lineStarts_append, List.getElem?_append_left (by omega), ← getLast_lineStarts,
    List.getLast?_eq_getElem?, hlast]

end LineStarts

/-! ## Trimming -/

/-- What is left behind the last character that is not blank is blank. -/
theorem trimEnd_append_blanks (chars : List Char) :
    trimEnd chars ++ (chars.reverse.takeWhile isBlank).reverse = chars := by
  rw [trimEnd, ← List.reverse_append, List.takeWhile_append_dropWhile, List.reverse_reverse]

/-- Blanks at the end make no difference. -/
theorem trimEnd_append_of_isBlank (chars : List Char) {blanks : List Char} (h : ∀ c ∈ blanks, isBlank c) :
    trimEnd (chars ++ blanks) = trimEnd chars := by
  have hblanks : ∀ c ∈ blanks.reverse, isBlank c := fun c hc => h c (List.mem_reverse.1 hc)
  rw [trimEnd, List.reverse_append, List.dropWhile_append_of_pos hblanks, trimEnd]

section Trim

variable {c : Char}

/-- A character that is not blank ends the blanks in front of it. -/
theorem trimStart_append_cons (hc : ¬ isBlank c) (before after : List Char) :
    trimStart (before ++ c :: after) = trimStart before ++ c :: after := by
  have hkept : (c :: after).dropWhile isBlank = c :: after := List.dropWhile_cons_of_neg hc
  rw [trimStart, List.dropWhile_append, hkept]
  split
  · next hnone =>
    rw [List.isEmpty_iff] at hnone
    rw [trimStart, hnone, List.nil_append]
  · rfl

/-- What follows a character that is not blank is trimmed by itself. -/
theorem trimEnd_append_cons (hc : ¬ isBlank c) (before after : List Char) :
    trimEnd (before ++ c :: after) = before ++ c :: trimEnd after := by
  have h := trimStart_append_cons hc after.reverse before.reverse
  simp only [trimStart] at h
  rw [trimEnd, List.reverse_append, List.reverse_cons, List.append_assoc, List.singleton_append, h, trimEnd]
  simp

end Trim

/-! ## Excerpts -/

namespace Excerpt

/-- The excerpt for a character between others. -/
def around (front : List Char) (c : Char) (back : List Char) : Excerpt :=
  let lead := trimStart (sinceLast isMark front)
  { line := front.count '\n' + 1
    column := (sinceLast isNewline front).length + 1
    text := String.ofList (trimEnd (lead ++ c :: back.takeWhile (· ≠ '\n')))
    caret := lead.length }

variable {c : Char}

theorem toList_around (hc : ¬ isBlank c) (front back : List Char) : (around front c back).text.toList
    = trimStart (sinceLast isMark front) ++ c :: trimEnd (back.takeWhile (· ≠ '\n')) := by
  rw [around, String.toList_ofList, trimEnd_append_cons hc]

/-- The caret is under the character. -/
theorem getElem?_caret (hc : ¬ isBlank c) (front back : List Char) :
    (around front c back).text.toList[(around front c back).caret]? = some c := by
  rw [toList_around hc, around, List.getElem?_append_right (Nat.le_refl _), Nat.sub_self]
  rfl

/-- The text is a piece of one line. -/
theorem newline_not_mem (hc : ¬ isBlank c) (front back : List Char) :
    '\n' ∉ (around front c back).text.toList := by
  rw [toList_around hc, List.mem_append, List.mem_cons]
  -- the lead stops at line ends, the character is no blank, and the tail stops at the next line end
  rintro (hlead | rfl | htail)
  · have hmem := (List.dropWhile_sublist isBlank).mem hlead
    exact not_stop_of_mem_sinceLast isMark front hmem rfl
  · exact hc (by decide)
  · have hmem : '\n' ∈ back.takeWhile (· ≠ '\n') := by
      rw [trimEnd, List.mem_reverse] at htail
      exact List.mem_reverse.1 ((List.dropWhile_sublist isBlank).mem htail)
    have hne := List.mem_takeWhile_imp hmem
    simp at hne

end Excerpt

namespace Document

section Lookups

variable (doc : Document) (offset : Nat)

/-- The index of the line of an offset, searched among the line starts. -/
def lineOf? : Option Nat :=
  (partitionPoint? (· ≤ offset) (lineStarts doc.chars)).map (· - 1)

/-- The offset just after the last boundary before a given one, searched among the boundaries. -/
def boundaryBefore? : Option Nat := do
  let marks := doc.boundaries.reverse
  let count ← partitionPoint? (· < offset) marks
  some (((marks.take count).getLast?.map (· + 1)).getD 0)

/-- Line and column of an offset, with the slice in front of it checked. -/
def position? : Option (Nat × Nat) := do
  let offset := min offset doc.size
  let line ← doc.lineOf? offset
  let start ← (lineStarts doc.chars)[line]?
  let head ← slice? doc.chars start offset
  some (line + 1, head.length + 1)

/-- The excerpt for an offset, with all slices checked. -/
def excerpt? : Option Excerpt := do
  let offset := if doc.size ≤ offset then doc.contentEnd else offset
  let line ← doc.lineOf? offset
  let lineStart ← (lineStarts doc.chars)[line]?
  let fromLine ← slice? doc.chars lineStart doc.size
  let lineEnd := lineStart + byteLength (fromLine.takeWhile (· ≠ '\n'))
  let boundary ← doc.boundaryBefore? offset
  let start := max boundary lineStart
  let lead ← slice? doc.chars start offset
  let start := start + byteLength lead - byteLength (trimStart lead)
  let text ← slice? doc.chars start lineEnd
  let before ← slice? doc.chars start offset
  let (line, column) ← doc.position? offset
  some { line, column, text := String.ofList (trimEnd text), caret := before.length }

end Lookups

section

variable {doc : Document} {front back : List Char}

/-- A place is in the line behind the line ends in front of it. -/
theorem lineOf?_eq (h : doc.chars = front ++ back) :
    doc.lineOf? (byteLength front) = some (front.count '\n') := by
  rw [lineOf?, h, partitionPoint?_lineStarts]
  rfl

/-- The search among the boundaries finds the one that is met first from behind. -/
theorem boundaryBefore?_eq (h : doc.boundaries.Pairwise (· > ·)) (offset : Nat) :
    doc.boundaryBefore? offset = some (doc.boundaryBefore offset) := by
  obtain ⟨count, hcount, hlast⟩ := partitionPoint?_reverse h offset
  simp only [boundaryBefore?, hcount, Option.bind_eq_bind, Option.bind_some, hlast, boundaryBefore]
  split
  · next boundary hboundary => rw [hboundary]; rfl
  · next hnone => rw [hnone]; rfl

/-- What is behind the last character of a kind can be cut out. -/
theorem slice?_sinceLast (stop : Char → Bool) (front back : List Char) :
    slice? (front ++ back) (byteLength (throughLast stop front)) (byteLength front)
      = some (sinceLast stop front) := by
  have h := slice?_append (throughLast stop front) (sinceLast stop front) back
  rw [← List.append_assoc, throughLast_append_sinceLast] at h
  exact h

/-- Line and column count line ends and characters. -/
theorem position?_eq (h : doc.chars = front ++ back) : doc.position? (byteLength front)
    = some (front.count '\n' + 1, (sinceLast isNewline front).length + 1) := by
  have hmin : min (byteLength front) doc.size = byteLength front := by
    rw [size, h, byteLength_append]
    omega
  simp only [position?, hmin, lineOf?_eq h, Option.bind_eq_bind, Option.bind_some]
  rw [h, getElem?_lineStarts, Option.bind_some, slice?_sinceLast, Option.bind_some]

/-- A character of the document, with boundaries that say where its statement begins: behind the last mark
in front of it, or with the line if that starts later. -/
structure Shows (doc : Document) (front : List Char) (c : Char) (back : List Char) : Prop where
  chars : doc.chars = front ++ c :: back
  solid : ¬ isBlank c
  descending : doc.boundaries.Pairwise (· > ·)
  start : max (doc.boundaryBefore (byteLength front)) (byteLength (throughLast isNewline front))
    = byteLength (throughLast isMark front)

variable {c : Char}

/-- A character that is shown lies inside the document. -/
theorem Shows.inside (h : doc.Shows front c back) : byteLength front < doc.size := by
  have hpos := byteLength_pos (List.cons_ne_nil c back)
  rw [size, h.chars, byteLength_append]
  omega

/-- A character that is not blank does not end its line. -/
theorem takeWhile_line (hc : ¬ isBlank c) (back : List Char) :
    (c :: back).takeWhile (· ≠ '\n') = c :: back.takeWhile (· ≠ '\n') := by
  apply List.takeWhile_cons_of_pos
  rw [decide_eq_true_eq]
  rintro rfl
  exact hc (by decide)

/-- What is shown in front of a place begins behind the blanks that follow the last mark. -/
theorem exists_lead (front : List Char) :
    let lead := sinceLast isMark front
    ∃ start, start ++ trimStart lead = front ∧
      byteLength (throughLast isMark front) + byteLength lead - byteLength (trimStart lead)
        = byteLength start := by
  intro lead
  -- what has been read is split at the last mark and again behind the blanks
  have hsplit : throughLast isMark front ++ lead.takeWhile isBlank ++ trimStart lead = front := by
    rw [List.append_assoc, trimStart, List.takeWhile_append_dropWhile, throughLast_append_sinceLast]
  refine ⟨_, hsplit, ?_⟩
  have hwhole := congrArg byteLength (throughLast_append_sinceLast isMark front)
  have hparts := congrArg byteLength hsplit
  rw [byteLength_append] at hwhole hparts
  show byteLength (throughLast isMark front) + byteLength (sinceLast isMark front) - _ = _
  omega

/-- **All slices are there**, and they make up the excerpt. -/
theorem excerpt?_eq (h : doc.Shows front c back) :
    doc.excerpt? (byteLength front) = some (.around front c back) := by
  let tail := back.takeWhile (· ≠ '\n')
  let lead := sinceLast isMark front
  -- the line of the place and its end
  have hfromLine : slice? doc.chars (byteLength (throughLast isNewline front)) doc.size
      = some (sinceLast isNewline front ++ c :: back) := by
    have hslice := slice?_append (throughLast isNewline front) (sinceLast isNewline front ++ c :: back) []
    rw [List.append_nil, ← List.append_assoc, throughLast_append_sinceLast] at hslice
    rw [size, h.chars]
    exact hslice
  have hline : (sinceLast isNewline front ++ c :: back).takeWhile (· ≠ '\n')
      = sinceLast isNewline front ++ c :: tail := by
    have hnone : ∀ d ∈ sinceLast isNewline front, decide (d ≠ '\n') = true := by
      intro d hd
      simpa [isNewline] using not_stop_of_mem_sinceLast isNewline front hd
    rw [List.takeWhile_append_of_pos hnone, takeWhile_line h.solid]
  have hlineEnd : byteLength (throughLast isNewline front)
      + byteLength (sinceLast isNewline front ++ c :: tail) = byteLength (front ++ c :: tail) := by
    rw [← byteLength_append, ← List.append_assoc, throughLast_append_sinceLast]
  -- what is in front of the place in its statement, without the blanks it begins with
  have hlead : slice? doc.chars (byteLength (throughLast isMark front)) (byteLength front) = some lead := by
    rw [h.chars]
    exact slice?_sinceLast isMark front _
  obtain ⟨start, hstart, hoffset⟩ := exists_lead front
  -- from where the lead starts to the end of the line
  have htext : slice? doc.chars (byteLength start) (byteLength (front ++ c :: tail))
      = some (trimStart lead ++ c :: tail) := by
    have hslice := slice?_append start (trimStart lead ++ c :: tail) (back.dropWhile (· ≠ '\n'))
    rw [← List.append_assoc, ← List.append_assoc, hstart, List.append_assoc, List.cons_append,
      List.takeWhile_append_dropWhile] at hslice
    rw [h.chars]
    exact hslice
  have hbefore : slice? doc.chars (byteLength start) (byteLength front) = some (trimStart lead) := by
    have hslice := slice?_append start (trimStart lead) (c :: back)
    rw [← List.append_assoc, hstart] at hslice
    rw [h.chars]
    exact hslice
  -- the slices exist one by one, in the order in which they are cut
  simp only [excerpt?, if_neg (Nat.not_le.2 h.inside), lineOf?_eq h.chars, Option.bind_eq_bind,
    Option.bind_some]
  rw [congrArg lineStarts h.chars, getElem?_lineStarts, Option.bind_some, hfromLine, Option.bind_some, hline,
    boundaryBefore?_eq h.descending, Option.bind_some, h.start, hlead, Option.bind_some, hoffset, hlineEnd,
    htext, Option.bind_some, hbefore, Option.bind_some, position?_eq h.chars, Option.bind_some]
  rfl

/-- What is in front of a place in its line. -/
theorem lineHead_eq (h : doc.chars = front ++ back) :
    doc.lineHead (byteLength front) = sinceLast isNewline front := by
  rw [lineHead, h, takeBytes_byteLength, sinceLast]
  congr 3
  funext d
  exact decide_not

/-- What is shown in front of a place begins behind the last boundary, or with the line if that begins
later. -/
theorem lead_eq {start shown : List Char} (hchars : doc.chars = start ++ shown ++ back)
    (hstart : max (doc.boundaryBefore (byteLength (start ++ shown)))
      (byteLength (throughLast isNewline (start ++ shown))) = byteLength start) :
    doc.lead (byteLength (start ++ shown)) = trimStart shown := by
  have hwhole := throughLast_append_sinceLast isNewline (start ++ shown)
  -- the line starts in front of the piece that is shown, or with it
  obtain ⟨more, hmore⟩ : throughLast isNewline (start ++ shown) <+: start :=
    prefix_of_byteLength_le ⟨_, hwhole⟩ (List.prefix_append start shown) (by omega)
  have hline : sinceLast isNewline (start ++ shown) = more ++ shown := by
    refine @List.append_cancel_left _ (throughLast isNewline (start ++ shown)) _ _ ?_
    rw [hwhole, ← List.append_assoc, hmore]
  have hskip : doc.boundaryBefore (byteLength (start ++ shown))
      - (byteLength (start ++ shown) - byteLength (more ++ shown)) = byteLength more := by
    have hstartBytes := congrArg byteLength hmore
    have hplace := byteLength_append start shown
    have hrest := byteLength_append more shown
    rw [byteLength_append] at hstartBytes
    omega
  rw [lead, lineHead_eq hchars, hline, hskip, dropBytes_byteLength]

/-- The bytes in front of the place are those of the characters in front of it. -/
theorem Shows.takeBytes_eq (h : doc.Shows front c back) : takeBytes (byteLength front) doc.chars = front := by
  rw [h.chars, takeBytes_byteLength]

/-- The rest of the line begins with the character. -/
theorem Shows.lineTail_eq (h : doc.Shows front c back) :
    doc.lineTail (byteLength front) = c :: back.takeWhile (· ≠ '\n') := by
  rw [lineTail, h.chars, dropBytes_byteLength, takeWhile_line h.solid]

/-- What is in front of the place in its line, from where its statement begins. -/
theorem Shows.lead_eq (h : doc.Shows front c back) :
    doc.lead (byteLength front) = trimStart (sinceLast isMark front) := by
  have hchars := h.chars
  have hstart := h.start
  rw [← throughLast_append_sinceLast isMark front] at hchars
  have hlead := Document.lead_eq hchars (by rw [throughLast_append_sinceLast, hstart])
  rw [throughLast_append_sinceLast] at hlead
  exact hlead

/-- **Cut without checks**, the excerpt is the same. -/
theorem excerpt_eq (h : doc.Shows front c back) :
    doc.excerpt (byteLength front) = .around front c back := by
  rw [excerpt, if_pos h.inside, excerptWithin]
  simp only [position, lineOf, h.takeBytes_eq, lineHead_eq h.chars, h.lead_eq, h.lineTail_eq]
  rfl

end

end Document

end LogicCircuit.Text
