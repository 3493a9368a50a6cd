import LogicCircuit.Proofs.Definition.Places

/-!
# The end of the text — what is shown when a statement is cut off

A failure at the end of the text is shown behind the last character that is not blank. If only blanks follow
the last symbol, that is the end of the statement. A comment there is not passed over: what is shown goes on
through it, and behind one between two `#` nothing is shown at all, since its end is a boundary.

* **`ShownAtEnd`** — the excerpt, case by case of what follows the last symbol.
* **`exists_skipGapFrom`**, **`exists_shownAtEnd`** — the boundaries that are noted in the last gap, and
  which of them the excerpt begins behind.
* **`Scanned.exists_last`** — the scanner behind the last symbol of a text in which there is no `END`.
* **`last_of_textEnd`** — what is found at the end of the text is the failure of a statement that has no
  semicolon.
* **`textEnd_shown`** — so the excerpt of such a finding is one of these cases.
-/

namespace LogicCircuit.Text

variable {front more : List Char} {boundaries : List Nat}

/-! ## Trimming -/

/-- What is left does not end with a blank, nor does any end of it. -/
theorem trimEnd_of_suffix {chars shown : List Char} (h : shown <:+ trimEnd chars) :
    trimEnd shown = shown := by
  cases shown using List.reverseRecOn with
  | nil => rfl
  | append_singleton before c =>
    obtain ⟨front, hfront⟩ := h
    have hhead : (chars.reverse.dropWhile isBlank).head? = some c := by
      rw [← List.getLast?_reverse, ← trimEnd, ← hfront, ← List.append_assoc, List.getLast?_concat]
    have hsolid : ¬ isBlank c := by
      have hnot := List.head?_dropWhile_not isBlank chars.reverse
      rw [hhead] at hnot
      simpa using hnot
    exact trimEnd_append_cons hsolid before []

theorem mem_of_mem_trimEnd {c : Char} {chars : List Char} (h : c ∈ trimEnd chars) : c ∈ chars := by
  rw [← trimEnd_append_blanks chars]
  exact List.mem_append_left _ h

/-- Behind the last one to stop at, it does not matter what is in front. -/
theorem sinceLast_append_of_mem {stop : Char → Bool} {c : Char} (front : List Char) (hmem : c ∈ more)
    (hc : stop c) : sinceLast stop (front ++ more) = sinceLast stop more := by
  have hstop : ¬ (more.reverse.takeWhile fun c => !stop c).length = more.reverse.length := by
    intro hlength
    have hall := List.takeWhile_eq_self_iff.1 ((List.takeWhile_prefix _).eq_of_length hlength)
    have hnot := hall c (List.mem_reverse.2 hmem)
    simp [hc] at hnot
  rw [sinceLast, List.reverse_append, List.takeWhile_append, if_neg hstop, sinceLast]

namespace Document

variable {doc : Document}

/-! ## The excerpt for the end -/

/-- What is shown of the end of the text, with the caret behind it. -/
structure ShowsEnd (doc : Document) (shown : List Char) : Prop where
  text : (doc.excerpt doc.size).text = String.ofList shown
  caret : (doc.excerpt doc.size).caret = shown.length

/-- The excerpt begins behind the last boundary, or with the line if that begins later. -/
theorem showsEnd_of_start {start shown : List Char} (hcontent : trimEnd doc.chars = start ++ shown)
    (hstart : max (doc.boundaryBefore (byteLength (start ++ shown)))
      (byteLength (throughLast isNewline (start ++ shown))) = byteLength start) :
    doc.ShowsEnd (trimStart shown) := by
  have hsplit := trimEnd_append_blanks doc.chars
  have hchars := hsplit.symm
  rw [hcontent] at hchars
  have hplace : doc.contentEnd = byteLength (start ++ shown) := congrArg byteLength hcontent
  have hlead : doc.lead doc.contentEnd = trimStart shown := by
    rw [hplace, lead_eq hchars hstart]
  -- nothing but blanks follows on the line
  have htail : ∀ c ∈ doc.lineTail doc.contentEnd, isBlank c := by
    intro c hc
    have hmem := (List.takeWhile_sublist _).mem hc
    rw [hplace, hchars, dropBytes_byteLength, List.mem_reverse] at hmem
    exact List.mem_takeWhile_imp hmem
  have hsuffix : trimStart shown <:+ trimEnd doc.chars := by
    rw [hcontent]
    exact (List.dropWhile_suffix _).trans (List.suffix_append start shown)
  have hend : doc.excerpt doc.size = doc.excerptWithin doc.contentEnd := if_neg (Nat.lt_irrefl _)
  constructor
  · rw [hend]
    show String.ofList (trimEnd (doc.lead doc.contentEnd ++ doc.lineTail doc.contentEnd)) = _
    rw [trimEnd_append_of_isBlank _ htail, hlead, trimEnd_of_suffix hsuffix]
  · rw [hend]
    show (doc.lead doc.contentEnd).length = _
    rw [hlead]

/-- On the line of the last boundary, or of a mark in front of it, the excerpt begins behind that. -/
theorem showsEnd_of_current (hcontent : trimEnd doc.chars = front ++ more)
    (hnoted : Noted front doc.boundaries) (hcurrent : Current front doc.boundaries) (hline : '\n' ∉ more) :
    doc.ShowsEnd (trimStart (sinceLast isMark front ++ more)) := by
  have hstay : ∀ c ∈ more, ¬ isNewline c := by
    rintro c hc hstop
    -- what follows stays on the line
    exact hline (of_decide_eq_true hstop ▸ hc)
  have hfront := throughLast_append_sinceLast isMark front
  refine @showsEnd_of_start doc (throughLast isMark front) _ ?_ ?_
  · rw [← List.append_assoc, hfront, hcontent]
  · rw [← List.append_assoc, hfront, boundaryBefore_eq (hnoted.append more),
      throughLast_append isNewline front hstay]
    exact hcurrent

/-- On a later line the excerpt begins with that. -/
theorem showsEnd_of_newline (hcontent : trimEnd doc.chars = front ++ more)
    (hnoted : Noted front doc.boundaries) (hline : '\n' ∈ more) :
    doc.ShowsEnd (trimStart (sinceLast isNewline more)) := by
  have hwhole := throughLast_append_sinceLast isNewline (front ++ more)
  have hsince : sinceLast isNewline (front ++ more) = sinceLast isNewline more :=
    sinceLast_append_of_mem front hline (by decide)
  rw [hsince] at hwhole
  -- the line begins behind what has been read, so no boundary counts
  have hle : byteLength front ≤ byteLength (throughLast isNewline (front ++ more)) := by
    obtain ⟨others, hothers⟩ : sinceLast isNewline more <:+ more :=
      ⟨_, throughLast_append_sinceLast isNewline more⟩
    have hsame : throughLast isNewline (front ++ more) = front ++ others := by
      apply List.append_cancel_right
      rw [hwhole, List.append_assoc, hothers]
    rw [hsame, byteLength_append]
    exact Nat.le_add_right _ _
  have hboundary := hnoted.boundaryEnd_le
  refine showsEnd_of_start (hcontent.trans hwhole.symm) ?_
  rw [hwhole, boundaryBefore_eq (hnoted.append more)]
  omega

/-- Behind a boundary nothing is shown. -/
theorem showsEnd_of_boundary {c : Char} {older : List Nat} (hcontent : trimEnd doc.chars = front ++ [c])
    (hsize : c.utf8Size = 1) (hnoted : Noted (front ++ [c]) doc.boundaries)
    (hboundaries : doc.boundaries = byteLength front :: older) : doc.ShowsEnd [] := by
  have hlength : byteLength (front ++ [c]) = byteLength front + 1 := by
    rw [byteLength_append]
    show byteLength front + (c.utf8Size + 0) = _
    omega
  have hline : byteLength (throughLast isNewline (front ++ [c])) ≤ byteLength (front ++ [c]) := by
    have hwhole := congrArg byteLength (throughLast_append_sinceLast isNewline (front ++ [c]))
    rw [byteLength_append] at hwhole
    omega
  -- the boundary is the last character, so nothing is left behind it
  refine @showsEnd_of_start doc (front ++ [c]) [] (by rw [List.append_nil, hcontent]) ?_
  rw [List.append_nil, boundaryBefore_eq hnoted, hboundaries, boundaryEnd]
  omega

end Document

end LogicCircuit.Text

namespace LogicCircuit.Definition

open Text (byteLength byteLength_append Noted Current isMark isNewline isBlank trimStart trimEnd sinceLast)

/-! ## The last gap -/

section

variable (met : List Nat) (offset : Nat) (rest : List Char)

/-- A comment of a line is passed over up to its end. -/
theorem skipGapFrom_line {body : List Char} (h : '\n' ∉ body) :
    skipGapFrom .blanks met offset ('%' :: (body ++ rest))
      = skipGapFrom .lineComment met (offset + byteLength ('%' :: body)) rest := by
  have hmode : GapMode.lineComment.closer? = some '\n' := rfl
  have hbody := skipGapFrom_append hmode h met (offset + '%'.utf8Size) rest
  rw [Nat.add_assoc] at hbody
  exact hbody

/-- A comment between two marks is passed over up to the second one. -/
theorem skipGapFrom_block {body : List Char} (h : '#' ∉ body) :
    skipGapFrom .blanks met offset ('#' :: (body ++ rest))
      = skipGapFrom .blockComment met (offset + byteLength ('#' :: body)) rest := by
  have hmode : GapMode.blockComment.closer? = some '#' := rfl
  have hbody := skipGapFrom_append hmode h met (offset + '#'.utf8Size) rest
  rw [Nat.add_assoc] at hbody
  exact hbody

/-- The `#` that closes a comment is noted. -/
theorem skipGapFrom_closed {body : List Char} (h : '#' ∉ body) :
    skipGapFrom .blanks met offset ('#' :: (body ++ '#' :: rest))
      = skipGapFrom .blanks ((offset + byteLength ('#' :: body)) :: met)
          (offset + byteLength ('#' :: (body ++ ['#']))) rest := by
  have hlength : byteLength ('#' :: (body ++ ['#'])) = byteLength ('#' :: body) + '#'.utf8Size :=
    byteLength_append ('#' :: body) ['#']
  rw [skipGapFrom_block met offset _ h, skipGapFrom, if_pos rfl, hlength, Nat.add_assoc]

/-- Blanks are not noted, nor is what closes a comment of one line among them. -/
theorem boundaries_skipGapFrom_blanks (mode : GapMode) (hmode : mode ≠ .blockComment) {blanks : List Char}
    (h : ∀ c ∈ blanks, isBlank c) : (skipGapFrom mode met offset blanks).boundaries = met := by
  -- in a comment of one line blanks may close it, and the mode changes with them
  induction blanks generalizing mode offset with
  | nil => rfl
  | cons c blanks ih =>
    obtain ⟨hc, hblanks⟩ := List.forall_mem_cons.1 h
    cases mode with
    | blanks =>
      rw [skipGapFrom]
      simp only [hc, if_true]
      exact ih _ _ (by decide) hblanks
    | lineComment =>
      rw [skipGapFrom]
      split
      · exact ih _ _ (by decide) hblanks
      · exact ih _ _ (by decide) hblanks
    | blockComment => exact absurd rfl hmode

end

/-- A closed gap notes some boundaries, whatever follows it. -/
theorem exists_skipGapFrom {gap : List Char} (h : ClosedGap gap) (met : List Nat) (offset : Nat) :
    ∃ more, ∀ rest, skipGapFrom .blanks met offset (gap ++ rest)
      = skipGapFrom .blanks (more ++ met) (offset + byteLength gap) rest := by
  -- on the gap, with whatever has been met before it
  induction h generalizing met offset with
  | nil => exact ⟨[], fun rest => rfl⟩
  | @blank c gap hc _ ih =>
    obtain ⟨more, hmore⟩ := ih met (offset + c.utf8Size)
    refine ⟨more, fun rest => ?_⟩
    rw [List.cons_append, skipGapFrom]
    simp only [hc, if_true]
    rw [hmore, Nat.add_assoc]
    rfl
  | @comment comment gap hcomment _ ih =>
    -- the comment notes nothing, or the mark that closes it
    cases hcomment with
    | line body hbody =>
      obtain ⟨more, hmore⟩ := ih met (offset + byteLength ('%' :: (body ++ ['\n'])))
      have hlength : byteLength ('%' :: (body ++ ['\n'])) = byteLength ('%' :: body) + '\n'.utf8Size :=
        byteLength_append ('%' :: body) ['\n']
      refine ⟨more, fun rest => ?_⟩
      rw [byteLength_append, ← Nat.add_assoc, ← hmore, hlength, ← Nat.add_assoc]
      rw [List.append_assoc, List.cons_append, List.append_assoc, skipGapFrom_line _ _ _ hbody,
        List.singleton_append, skipGapFrom, if_pos rfl]
    | block body hbody =>
      obtain ⟨more, hmore⟩ := ih ((offset + byteLength ('#' :: body)) :: met)
        (offset + byteLength ('#' :: (body ++ ['#'])))
      refine ⟨more ++ [offset + byteLength ('#' :: body)], fun rest => ?_⟩
      rw [byteLength_append, ← Nat.add_assoc, List.append_assoc more, List.singleton_append, ← hmore,
        List.append_assoc, List.cons_append, List.append_assoc, List.singleton_append,
        skipGapFrom_closed _ _ _ hbody]

/-- Behind a closed gap the boundaries are current again. -/
theorem ClosedGap.exists_notes {front gap : List Char} {older : List Nat} (h : ClosedGap gap)
    (hnoted : Noted front older) (hcurrent : Current front older) :
    ∃ more, (∀ rest, skipGapFrom .blanks [] (byteLength front) (gap ++ rest)
        = skipGapFrom .blanks more (byteLength (front ++ gap)) rest) ∧
      Noted (front ++ gap) (more ++ older) ∧ Current (front ++ gap) (more ++ older) := by
  obtain ⟨more, hmore⟩ := exists_skipGapFrom h [] (byteLength front)
  rw [← byteLength_append, List.append_nil] at hmore
  refine ⟨more, hmore, ?_⟩
  -- what is noted in front of a symbol does not depend on the symbol
  have hnotes := skipGapFrom_notes .blanks [] older front (gap ++ ['.']) hnoted fun _ _ => hcurrent
  rw [hmore] at hnotes
  obtain ⟨passed, noted, hmet, hnotes⟩ := hnotes
  have hstop : skipGapFrom .blanks more (byteLength (front ++ gap)) ['.']
      = ⟨more, ['.'], byteLength (front ++ gap)⟩ := rfl
  rw [hstop] at hmet hnotes
  obtain rfl : more = noted := hmet.trans (List.append_nil noted)
  obtain rfl : gap = passed := List.append_cancel_right hnotes.split
  exact ⟨hnotes.noted, hnotes.current (List.cons_ne_nil _ _)⟩

/-- The last comment of a gap, with the blanks behind it. -/
theorem ClosedGap.blank_or_comment {gap : List Char} (h : ClosedGap gap) : (∀ c ∈ gap, isBlank c) ∨
    ∃ closed comment blanks, gap = closed ++ (comment ++ blanks) ∧ ClosedGap closed ∧ Comment comment ∧
      ∀ c ∈ blanks, isBlank c := by
  induction h with
  | nil => exact .inl (by simp)
  | @blank c gap hc _ ih =>
    rcases ih with hblanks | ⟨closed, comment, blanks, rfl, hclosed, hcomment, hblanks⟩
    · exact .inl (List.forall_mem_cons.2 ⟨hc, hblanks⟩)
    · exact .inr ⟨c :: closed, comment, blanks, rfl, .blank hc hclosed, hcomment, hblanks⟩
  -- the first comment is the last one if only blanks follow it
  | @comment first gap hfirst _ ih =>
    rcases ih with hblanks | ⟨closed, comment, blanks, rfl, hclosed, hcomment, hblanks⟩
    · exact .inr ⟨[], first, gap, rfl, .nil, hfirst, hblanks⟩
    · exact .inr ⟨first ++ closed, comment, blanks, (List.append_assoc ..).symm, .comment hfirst hclosed,
        hcomment, hblanks⟩

/-- What is shown of the end of a text, given what is in front of its last symbol, how that is written and
what follows it. -/
inductive ShownAtEnd (front written : List Char) : List Char → List Char → Prop where
  /-- Blanks follow: the statement is shown through its last symbol. -/
  | statement {gap : List Char} (hblanks : ∀ c ∈ gap, isBlank c) :
      ShownAtEnd front written gap (trimStart (sinceLast isMark front) ++ written)
  /-- The last comment is one of a line: it is shown behind the statement. -/
  | line {closed body blanks : List Char} (hclosed : ClosedGap closed) (hbody : '\n' ∉ body)
      (hblanks : ∀ c ∈ blanks, isBlank c) : ShownAtEnd front written (closed ++ '%' :: (body ++ blanks))
        (trimStart (sinceLast isMark (front ++ written ++ closed)) ++ '%' :: trimEnd body)
  /-- The last comment is not closed: its last line is shown, behind the statement if that is the only
  one. -/
  | unclosed {closed body : List Char} (hclosed : ClosedGap closed) (hbody : '#' ∉ body) :
      ShownAtEnd front written (closed ++ '#' :: body)
        (if '\n' ∈ trimEnd body then trimStart (sinceLast isNewline (trimEnd body))
         else trimStart (sinceLast isMark (front ++ written ++ closed)) ++ '#' :: trimEnd body)
  /-- The last comment is closed: nothing is shown. -/
  | closed {closed body blanks : List Char} (hclosed : ClosedGap closed) (hbody : '#' ∉ body)
      (hblanks : ∀ c ∈ blanks, isBlank c) :
      ShownAtEnd front written (closed ++ '#' :: (body ++ '#' :: blanks)) []

section

variable {doc : Text.Document} {front closed : List Char} {older : List Nat}

/-- A comment in which no boundary is noted is shown, its last line or behind what is in front of it. -/
theorem showsEnd_of_comment {opener : Char} {tail : List Char} (hopener : ¬ isBlank opener)
    (hquiet : ∀ met offset, (skipGapFrom .blanks met offset (opener :: tail)).boundaries = met)
    (hclosed : ClosedGap closed) (hnoted : Noted front older) (hcurrent : Current front older)
    (hchars : doc.chars = front ++ (closed ++ opener :: tail))
    (hboundaries : doc.boundaries
      = (skipGapFrom .blanks [] (byteLength front) (closed ++ opener :: tail)).boundaries ++ older) :
    doc.ShowsEnd (if '\n' ∈ trimEnd tail then trimStart (sinceLast isNewline (trimEnd tail))
      else trimStart (sinceLast isMark (front ++ closed)) ++ opener :: trimEnd tail) := by
  obtain ⟨more, hmore, hnoted', hcurrent'⟩ := hclosed.exists_notes hnoted hcurrent
  rw [hmore, hquiet] at hboundaries
  rw [← hboundaries] at hnoted' hcurrent'
  have hcontent : trimEnd doc.chars = front ++ closed ++ opener :: trimEnd tail := by
    rw [hchars, ← List.append_assoc, Text.trimEnd_append_cons hopener]
  have hnewline : opener ≠ '\n' := by
    rintro rfl
    exact hopener (by decide)
  -- the line of the end begins in the comment, or in front of it
  split
  · next hlines =>
    have hshows := Text.Document.showsEnd_of_newline hcontent hnoted' (List.mem_cons_of_mem _ hlines)
    rw [← List.singleton_append, Text.sinceLast_append_of_mem [opener] hlines (by decide)] at hshows
    exact hshows
  · next hline =>
    have hnone : '\n' ∉ opener :: trimEnd tail := by
      rw [List.mem_cons, not_or]
      exact ⟨hnewline.symm, hline⟩
    rw [← Text.trimStart_append_cons hopener]
    exact Text.Document.showsEnd_of_current hcontent hnoted' hcurrent' hnone

/-- Before blanks the statement is shown through its last symbol. -/
theorem showsEnd_of_blanks {written blanks : List Char} (hwritten : written ≠ [])
    (hsolid : ∀ c ∈ written, Solid c ∧ c ≠ ';') (hblanks : ∀ c ∈ blanks, isBlank c)
    (hnoted : Noted (front ++ written) older) (hcurrent : Current (front ++ written) older)
    (hchars : doc.chars = front ++ written ++ blanks)
    (hboundaries : doc.boundaries
      = (skipGapFrom .blanks [] (byteLength (front ++ written)) blanks).boundaries ++ older) :
    doc.ShowsEnd (trimStart (sinceLast isMark front) ++ written) := by
  rw [boundaries_skipGapFrom_blanks _ _ .blanks (by decide) hblanks, List.nil_append] at hboundaries
  rw [← hboundaries] at hnoted hcurrent
  have hcontent : trimEnd doc.chars = front ++ written ++ [] := by
    rw [hchars, Text.trimEnd_append_of_isBlank _ hblanks, List.append_nil]
    -- the last character of the symbol is not blank, so trimming stops there
    obtain ⟨before, c, rfl⟩ := (List.eq_nil_or_concat' written).resolve_left hwritten
    have hc := (hsolid c (by simp)).1.1
    rw [← List.append_assoc, Text.trimEnd_append_cons hc]
    rfl
  have hshows := Text.Document.showsEnd_of_current hcontent hnoted hcurrent List.not_mem_nil
  have hmark : ∀ c ∈ written, ¬ isMark c :=
    fun c hc => not_isMark_of_solid (hsolid c hc).1 (hsolid c hc).2
  obtain ⟨c, others, rfl⟩ := List.exists_cons_of_ne_nil hwritten
  rw [List.append_nil, Text.sinceLast_append front hmark,
    Text.trimStart_append_cons (hsolid c List.mem_cons_self).1.1] at hshows
  exact hshows

/-- A comment of one line is shown behind what is in front of it. -/
theorem showsEnd_of_line {body blanks : List Char} (hbody : '\n' ∉ body) (hblanks : ∀ c ∈ blanks, isBlank c)
    (hclosed : ClosedGap closed) (hnoted : Noted front older) (hcurrent : Current front older)
    (hchars : doc.chars = front ++ (closed ++ '%' :: (body ++ blanks)))
    (hboundaries : doc.boundaries = (skipGapFrom .blanks [] (byteLength front)
      (closed ++ '%' :: (body ++ blanks))).boundaries ++ older) :
    doc.ShowsEnd (trimStart (sinceLast isMark (front ++ closed)) ++ '%' :: trimEnd body) := by
  have hquiet : ∀ met offset,
      (skipGapFrom .blanks met offset ('%' :: (body ++ blanks))).boundaries = met := by
    intro met offset
    rw [skipGapFrom_line _ _ _ hbody, boundaries_skipGapFrom_blanks _ _ .lineComment (by decide) hblanks]
  have hshows := showsEnd_of_comment (by decide) hquiet hclosed hnoted hcurrent hchars hboundaries
  rw [Text.trimEnd_append_of_isBlank body hblanks,
    if_neg (fun hmem => hbody (Text.mem_of_mem_trimEnd hmem))] at hshows
  exact hshows

/-- So is a comment that is not closed, but for the lines in front of its last one. -/
theorem showsEnd_of_unclosed {body : List Char} (hbody : '#' ∉ body) (hclosed : ClosedGap closed)
    (hnoted : Noted front older) (hcurrent : Current front older)
    (hchars : doc.chars = front ++ (closed ++ '#' :: body))
    (hboundaries : doc.boundaries
      = (skipGapFrom .blanks [] (byteLength front) (closed ++ '#' :: body)).boundaries ++ older) :
    doc.ShowsEnd (if '\n' ∈ trimEnd body then trimStart (sinceLast isNewline (trimEnd body))
      else trimStart (sinceLast isMark (front ++ closed)) ++ '#' :: trimEnd body) := by
  have hquiet : ∀ met offset, (skipGapFrom .blanks met offset ('#' :: body)).boundaries = met := by
    intro met offset
    have hskip := skipGapFrom_block met offset [] hbody
    rw [List.append_nil] at hskip
    rw [hskip]
    rfl
  exact showsEnd_of_comment (by decide) hquiet hclosed hnoted hcurrent hchars hboundaries

/-- Behind a comment that is closed nothing is shown. -/
theorem showsEnd_of_closed {body blanks : List Char} (hbody : '#' ∉ body) (hblanks : ∀ c ∈ blanks, isBlank c)
    (hclosed : ClosedGap closed) (hnoted : Noted front older) (hcurrent : Current front older)
    (hchars : doc.chars = front ++ (closed ++ '#' :: (body ++ '#' :: blanks)))
    (hboundaries : doc.boundaries = (skipGapFrom .blanks [] (byteLength front)
      (closed ++ '#' :: (body ++ '#' :: blanks))).boundaries ++ older) : doc.ShowsEnd [] := by
  obtain ⟨more, hmore, hnoted', -⟩ := hclosed.exists_notes hnoted hcurrent
  rw [hmore, skipGapFrom_closed _ _ _ hbody, boundaries_skipGapFrom_blanks _ _ .blanks (by decide) hblanks,
    ← byteLength_append, List.cons_append] at hboundaries
  have hcontent : trimEnd doc.chars = front ++ closed ++ '#' :: body ++ ['#'] := by
    have hsplit : doc.chars = front ++ closed ++ '#' :: body ++ '#' :: blanks := by
      rw [hchars]
      simp
    have htrim := Text.trimEnd_append_of_isBlank [] hblanks
    rw [List.nil_append] at htrim
    rw [hsplit, Text.trimEnd_append_cons (by decide), htrim]
    rfl
  refine Text.Document.showsEnd_of_boundary hcontent (by decide) ?_ hboundaries
  rw [hboundaries]
  exact (hnoted'.append _).note '#'

end

/-- **The last gap.** What is shown depends on the last comment in it. -/
theorem exists_shownAtEnd {doc : Text.Document} {front written gap : List Char} {older : List Nat}
    (hwritten : written ≠ []) (hsolid : ∀ c ∈ written, Solid c ∧ c ≠ ';')
    (hnoted : Noted (front ++ written) older) (hcurrent : Current (front ++ written) older)
    (hgap : LastGap gap) (hchars : doc.chars = front ++ written ++ gap)
    (hboundaries : doc.boundaries
      = (skipGapFrom .blanks [] (byteLength (front ++ written)) gap).boundaries ++ older) :
    ∃ shown, ShownAtEnd front written gap shown ∧ doc.ShowsEnd shown := by
  cases hgap with
  | closed hgap =>
    rcases hgap.blank_or_comment with hblanks | ⟨closed, comment, blanks, rfl, hclosed, hcomment, hblanks⟩
    · exact ⟨_, .statement hblanks,
        showsEnd_of_blanks hwritten hsolid hblanks hnoted hcurrent hchars hboundaries⟩
    · cases hcomment with
      | line body hbody =>
        -- what closes the comment is blank, too
        have hsplit : '%' :: (body ++ ['\n']) ++ blanks = '%' :: (body ++ '\n' :: blanks) := by simp
        have hblanks' : ∀ c ∈ '\n' :: blanks, isBlank c := List.forall_mem_cons.2 ⟨by decide, hblanks⟩
        rw [hsplit] at hchars hboundaries ⊢
        exact ⟨_, .line hclosed hbody hblanks',
          showsEnd_of_line hbody hblanks' hclosed hnoted hcurrent hchars hboundaries⟩
      | block body hbody =>
        have hsplit : '#' :: (body ++ ['#']) ++ blanks = '#' :: (body ++ '#' :: blanks) := by simp
        rw [hsplit] at hchars hboundaries ⊢
        exact ⟨_, .closed hclosed hbody hblanks,
          showsEnd_of_closed hbody hblanks hclosed hnoted hcurrent hchars hboundaries⟩
  | @line closed hclosed body hbody =>
    have hnone : ∀ c ∈ ([] : List Char), isBlank c := by simp
    rw [← List.append_nil body] at hchars hboundaries ⊢
    exact ⟨_, .line hclosed hbody hnone,
      showsEnd_of_line hbody hnone hclosed hnoted hcurrent hchars hboundaries⟩
  | @block closed hclosed body hbody =>
    exact ⟨_, .unclosed hclosed hbody,
      showsEnd_of_unclosed hbody hclosed hnoted hcurrent hchars hboundaries⟩

/-! ## The last symbol -/

/-- One call, and those that follow it. -/
theorem Scanner.throughEnd_eq (scanner : Scanner) (names : NameTable) : scanner.throughEnd names
    = match scanner.next names with
      | (none, after, names) => ([], after, names)
      | (some symbol, after, names) =>
        if symbol.isKeyword .endWord then ([symbol], after, names)
        else (symbol :: (after.throughEnd names).1, (after.throughEnd names).2) := by
  rw [throughEnd]
  split
  · next hnext => rw [hnext]
  · next hnext => rw [hnext]

/-- **The scanner behind the last symbol**, if that is not `END`: nothing but a gap is left, and the
boundaries are current. -/
theorem Scanned.exists_last {text front : List Char} {scanner : Scanner} {symbol : Symbol} (names : NameTable)
    (h : Scanned text scanner front) (hlast : (scanner.throughEnd names).1.getLast? = some symbol)
    (hend : symbol.isKeyword .endWord = false) :
    ∃ read before names' names'', Scanned text read (before ++ symbol.kind.written) ∧
      symbol.kind.StandsBetween before read.cursor.rest ∧ byteLength before = symbol.offset ∧
      Current (before ++ symbol.kind.written) read.document.boundaries ∧
      read.next names' = (none, (scanner.throughEnd names).2.1, names'') := by
  rw [Scanner.throughEnd_eq] at hlast ⊢
  rcases hnext : scanner.next names with ⟨_ | first, after, names'⟩
  · rw [hnext] at hlast
    cases hlast
  · obtain ⟨gap, rest, more, hfinds⟩ := h.finds hnext
    have hafter := h.of_finds hfinds
    simp only [hnext] at hlast ⊢
    split at hlast
    · next hword =>
      obtain rfl : first = symbol := Option.some.inj hlast
      rw [hend] at hword
      cases hword
    · next hword =>
      rw [if_neg hword]
      have hshorter := Scanner.length_next_lt hnext
      -- the symbol is the last one unless something is read behind it
      cases hlater : (after.throughEnd names').1.getLast? with
      | some last =>
        rw [List.getLast?_cons, hlater] at hlast
        obtain rfl : last = symbol := Option.some.inj hlast
        exact hafter.exists_last names' hlater hend
      | none =>
        rw [List.getLast?_cons, hlater] at hlast
        obtain rfl : first = symbol := Option.some.inj hlast
        rw [List.getLast?_eq_none_iff, Scanner.throughEnd_eq] at hlater
        rw [Scanner.throughEnd_eq]
        rcases hstop : after.next names' with ⟨_ | second, after', names''⟩
        · obtain ⟨-, hcurrent⟩ := hfinds.stands.noted hfinds.noted hfinds.current
          refine ⟨after, front ++ gap, names', names'', hafter, ?_, hfinds.offset, ?_, hstop⟩
          · rw [hfinds.cursor]
            exact hfinds.stands
          · rw [hfinds.boundaries]
            exact hcurrent
        · simp only [hstop] at hlater
          split at hlater
          · cases hlater
          · cases hlater
  termination_by scanner.cursor.rest.length

/-- **The last symbol of a text** without `END`, what is in front of it, and how the text goes on. -/
theorem exists_last_symbolsOf {names : NameTable} {text : String} {symbol : Symbol}
    (hlast : (symbolsOf names text).getLast? = some symbol) (hend : symbol.isKeyword .endWord = false) :
    ∃ front gap older, text.toList = front ++ symbol.kind.written ++ gap ∧ byteLength front = symbol.offset ∧
      symbol.kind.StandsBetween front gap ∧ LastGap gap ∧ Noted (front ++ symbol.kind.written) older ∧
      Current (front ++ symbol.kind.written) older ∧ (documentOf names text).boundaries
        = (skipGapFrom .blanks [] (byteLength (front ++ symbol.kind.written)) gap).boundaries ++ older := by
  obtain ⟨read, front, table, table', hread, hstands, hoffset, hcurrent, hnext⟩ :=
    (scanned_new text names).exists_last _ hlast hend
  have hgap : LastGap read.cursor.rest := by
    rcases next_cases table hread.offset hread.borders with
      ⟨hgap, -⟩ | ⟨gap, kind, rest, after, table'', hnext', -⟩
    · exact hgap
    · rw [hnext] at hnext'
      cases hnext'
  obtain ⟨passed, more, hmet, hnotes⟩ := skipGapFrom_notes .blanks [] read.document.boundaries _
    read.cursor.rest hread.noted fun _ _ => hcurrent
  rw [List.append_nil] at hmet
  have hadded : read.document.addBoundaries read.cursor.skipGap.boundaries
      = { read.document with boundaries := more ++ read.document.boundaries } := by
    rw [Cursor.skipGap, hread.offset, hmet, Text.Document.addBoundaries_eq hnotes.noted.descending]
  have hdocument := (document_next_none hnext).2.trans hadded
  -- the gap behind the last symbol is what the scanner passes over when it comes to the end
  refine ⟨front, read.cursor.rest, read.document.boundaries, hread.split.symm, hoffset, hstands, hgap,
    hread.noted, hcurrent, ?_⟩
  rw [hmet]
  exact congrArg Text.Document.boundaries hdocument

/-! ## Findings at the end -/

/-- A failure at the end of the text leaves nothing unread. -/
theorem Fails.unread_of_textEnd {rest : List Symbol} {failure : Failure} (h : Fails rest failure)
    (hplace : failure.place = .textEnd) : failure.rest = [] := by
  cases h with
  | raised hraised =>
    rw [hraised.place_eq] at hplace
    cases hrest : failure.rest with
    | nil => rfl
    | cons symbol behind =>
      rw [hrest] at hplace
      cases hplace
  | taken hwhat hread hleft => cases hplace

/-- The last one of plain symbols behind the first of a statement. -/
theorem exists_last_of_plain {first : Symbol} {passed : List Symbol} (hend : first.isKeyword .endWord = false)
    (hresumes : first.resumes = true) (hplain : ∀ symbol ∈ passed, symbol.plain) :
    ∃ symbol, (first :: passed).getLast? = some symbol ∧ symbol.kind ≠ .semicolon ∧
      symbol.isKeyword .endWord = false := by
  rw [List.getLast?_cons]
  cases hlast : passed.getLast? with
  | none =>
    refine ⟨first, rfl, ?_, hend⟩
    intro hsemicolon
    rw [Symbol.resumes, hsemicolon] at hresumes
    cases hresumes
  | some last =>
    obtain ⟨hsemicolon, hlater⟩ := last.plain_bounds (hplain last (List.mem_of_getLast? hlast))
    refine ⟨last, rfl, hsemicolon, Bool.eq_false_iff.2 fun hword => ?_⟩
    rw [Symbol.resumes_of_endWord hword] at hlater
    cases hlater

/-- **A statement that is cut off.** It is read to the end of the text, and no semicolon is passed. -/
theorem last_of_resume {table : NameTable} {circuit : Circuit} {first : Symbol} {rest : List Symbol}
    {finding : Finding} (hend : first.isKeyword .endWord = false)
    (hmem : finding ∈ (resume (statement table circuit first rest).2).1)
    (hplace : finding.place = some .textEnd) :
    ∃ symbol, (first :: rest).getLast? = some symbol ∧ symbol.kind ≠ .semicolon ∧
      symbol.isKeyword .endWord = false := by
  cases houtcome : (statement table circuit first rest).2 with
  | ok outcome =>
    rw [houtcome] at hmem
    cases hmem
  | error failure =>
    rw [houtcome, resume, recover_eq] at hmem
    -- stray characters are found where they stand
    have hfailed : failure.place = .textEnd := by
      rcases List.mem_cons.1 hmem with rfl | hstray
      · exact Option.some.inj hplace
      · obtain ⟨other, -, -, hat, -⟩ := exists_of_mem_strays (List.mem_filter.1 hstray).1
        rw [hat] at hplace
        cases hplace
    have hunread := (statement_fails houtcome).unread_of_textEnd hfailed
    rcases statement_orderly hend table circuit rest with ⟨hresumes, hcloses⟩ | ⟨-, hfailed⟩
    · rw [houtcome] at hcloses
      obtain ⟨⟨passed, hplain, hpassed⟩, -⟩ := hcloses
      rw [hunread, List.append_nil] at hpassed
      subst hpassed
      exact exists_last_of_plain hend hresumes hplain
    · rw [houtcome] at hfailed
      cases hfailed
      rw [Failure.rest_wanted] at hunread
      cases hunread

/-- What is found at the end of the text is the failure of such a statement. -/
theorem last_of_textEnd {table : NameTable} {circuit : Circuit} {input : List Symbol} {finding : Finding}
    (hmem : finding ∈ (statements table circuit input).2) (hplace : finding.place = some .textEnd) :
    ∃ symbol, input.getLast? = some symbol ∧ symbol.kind ≠ .semicolon ∧
      symbol.isKeyword .endWord = false := by
  rw [statements.eq_def] at hmem
  split at hmem
  · -- the want of `END` has no place
    rw [List.mem_singleton] at hmem
    rw [hmem] at hplace
    cases hplace
  · next first rest =>
    split at hmem
    · cases hmem
    · next hend =>
      have hend' : first.isKeyword .endWord = false := Bool.eq_false_iff.2 hend
      -- the statement leaves less of the input, so what is found behind it is found there
      have hleft := @resume_statement_suffix table circuit first rest hend'
      have hshorter := Nat.lt_succ_of_le hleft.length_le
      rcases List.mem_append.1 hmem with hhere | hlater
      · exact last_of_resume hend' hhere hplace
      · obtain ⟨symbol, hlast, hsymbol⟩ := last_of_textEnd hlater hplace
        obtain ⟨passed, hpassed⟩ := hleft.trans (List.suffix_cons first rest)
        refine ⟨symbol, ?_, hsymbol⟩
        rw [← hpassed, List.getLast?_append, hlast]
        rfl
  termination_by input.length

/-- **The end of the text**, as it is shown when a statement is cut off there. The last symbol is not a
semicolon, and nothing but a gap follows it. The caret is behind all that is shown, and line and column are
those of the last character that is not blank; what is shown goes by the last comment in the gap. -/
theorem textEnd_shown (names : NameTable) (circuit : Circuit) (text : String) {finding : Finding}
    (hmem : finding ∈ findingsOf names circuit text) (hplace : finding.place = some .textEnd) :
    let reading := readOnto names circuit text
    let diagnostic := finding.diagnostic reading.codes (documentOf names text)
    diagnostic ∈ reading.diagnostics ∧
      ∃ front symbol gap shown, (symbolsOf names text).getLast? = some symbol ∧
        symbol.kind ≠ .semicolon ∧ symbol.isKeyword .endWord = false ∧
        text.toList = front ++ symbol.kind.written ++ gap ∧ byteLength front = symbol.offset ∧
        LastGap gap ∧ ShownAtEnd front symbol.kind.written gap shown ∧
        ∃ excerpt, diagnostic.excerpt = some excerpt ∧ excerpt.Counts (trimEnd text.toList) ∧
          excerpt.text = String.ofList shown ∧ excerpt.caret = shown.length := by
  intro reading diagnostic
  let doc := documentOf names text
  have hreported : diagnostic ∈ reading.diagnostics := by
    rw [diagnostics_readOnto]
    exact List.mem_append_left _ (List.mem_map_of_mem hmem)
  have hexcerpt : diagnostic.excerpt = some (doc.excerpt doc.size) := by
    simp [diagnostic, Finding.diagnostic, hplace, Place.offset, doc]
  obtain ⟨symbol, hlast, hsemicolon, hend⟩ := last_of_textEnd hmem hplace
  obtain ⟨front, gap, older, hsplit, hoffset, hstands, hgap, hnoted, hcurrent, hboundaries⟩ :=
    exists_last_symbolsOf hlast hend
  have hsolid : ∀ c ∈ symbol.kind.written, Solid c ∧ c ≠ ';' := by
    intro c hc
    obtain ⟨hsolid, hne⟩ := hstands.of_mem_written c hc
    exact ⟨hsolid, hne hsemicolon⟩
  have hchars : doc.chars = text.toList := (hasRead_symbolsOf names text).1
  obtain ⟨shown, hshown, hshows⟩ := exists_shownAtEnd hstands.written_ne_nil hsolid hnoted hcurrent hgap
    (hchars.trans hsplit) hboundaries
  have hcounts := doc.excerpt_size_counts
  rw [hchars] at hcounts
  exact ⟨hreported, front, symbol, gap, shown, hlast, hsemicolon, hend, hsplit, hoffset, hgap, hshown, _,
    hexcerpt, hcounts, hshows.text, hshows.caret⟩

/-- A comment of a line is shown behind the statement that is cut off, with the caret behind it. -/
theorem textEnd_shown_line :
    let text := "define A as XOR; define B % note \n"
    let finding : Finding := ⟨.wanted (.keyword .as), some .textEnd⟩
    finding ∈ findingsOf .empty .empty text ∧
      ShownAtEnd "define A as XOR; define ".toList ['B'] " % note \n".toList "define B % note".toList := by
  intro text finding
  have hmem : finding ∈ findingsOf .empty .empty text := by decide +kernel
  obtain ⟨-, front, symbol, gap, shown, hlast, -, -, hsplit, hoffset, -, hshown, excerpt, hexcerpt, -, htext,
    -⟩ := textEnd_shown .empty .empty text hmem rfl
  have hsymbol : (symbolsOf .empty text).getLast? = some ⟨.name "B" ⟨28⟩, 24⟩ := by decide +kernel
  obtain rfl : (⟨.name "B" ⟨28⟩, 24⟩ : Symbol) = symbol := Option.some.inj (hsymbol.symm.trans hlast)
  have hfront : front = "define A as XOR; define ".toList := by
    have hsame : front ++ ("B".toList ++ gap)
        = "define A as XOR; define ".toList ++ "B % note \n".toList := by
      rw [← List.append_assoc]
      exact hsplit.symm.trans (by decide)
    exact eq_of_byteLength_eq hsame hoffset
  subst hfront
  have hgap : gap = " % note \n".toList := by
    have hsame : "define A as XOR; define B".toList ++ gap
        = "define A as XOR; define B".toList ++ " % note \n".toList := hsplit.symm.trans (by decide)
    exact List.append_cancel_left hsame
  subst hgap
  have hshowsText : (finding.diagnostic (readOnto .empty .empty text).codes (documentOf .empty text)).excerpt
      = some ⟨1, 33, "define B % note", 15⟩ := by decide +kernel
  obtain rfl := Option.some.inj (hexcerpt.symm.trans hshowsText)
  obtain rfl : shown = "define B % note".toList :=
    String.toList_ofList.symm.trans (congrArg String.toList htext).symm
  exact ⟨hmem, hshown⟩

/-- A comment that is closed behind the statement hides it. -/
theorem textEnd_hidden :
    let text := "define A #x#"
    let finding : Finding := ⟨.wanted (.keyword .as), some .textEnd⟩
    finding ∈ findingsOf .empty .empty text ∧
      (symbolsOf .empty text).getLast? = some ⟨.name "A" ⟨27⟩, 7⟩ ∧
      (finding.diagnostic (readOnto .empty .empty text).codes (documentOf .empty text)).excerpt
        = some ⟨1, 13, "", 0⟩ := by
  decide +kernel

end LogicCircuit.Definition
