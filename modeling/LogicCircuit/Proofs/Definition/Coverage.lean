import LogicCircuit.Proofs.Definition.Layout
import LogicCircuit.Proofs.Definition.Scanning
import LogicCircuit.Proofs.Excerpts

/-!
# Coverage — a text is its symbols and the gaps between them

A scanner moves over its text character by character, in loops that share one place. That nothing is left
out, read twice or cut in the wrong place is said here by putting the text together again: `Covers` is
the text as gaps and symbols in turn, each symbol as it is written and as long as it can be, and the last
gap with a comment that nobody closed.

* **`skipGapFrom_spec`**, **`lexeme?_spec`** — one gap and one symbol: what was passed over is what is
  missing from the text that is left, and the offset has moved by its bytes.
* **`Borders`** — why no run could have begun earlier: in front of a number is no letter and no digit, and
  in front of a word there are at most the digits of a number.
* **`exists_covers`** — the run over the text, symbol by symbol.
* **`scanner_covers`** — the same for any calls of a scanner, since what is reported does not move it
  (`callAll_unreported`).
-/

namespace LogicCircuit.Definition

open Text (byteLength byteLength_append)

/-! ## Gaps -/

/-- The gap at the end of a text, with or without a comment that is not closed. -/
inductive LastGap : List Char → Prop where
  | closed {gap : List Char} (h : ClosedGap gap) : LastGap gap
  | line {gap : List Char} (h : ClosedGap gap) (body : List Char) (hbody : '\n' ∉ body) :
      LastGap (gap ++ '%' :: body)
  | block {gap : List Char} (h : ClosedGap gap) (body : List Char) (hbody : '#' ∉ body) :
      LastGap (gap ++ '#' :: body)

/-- Two closed gaps are one. -/
theorem ClosedGap.append {gap more : List Char} (h : ClosedGap gap) (hmore : ClosedGap more) :
    ClosedGap (gap ++ more) := by
  induction h with
  | nil => exact hmore
  | blank hc _ ih => exact .blank hc ih
  | comment hcomment _ ih =>
    rw [List.append_assoc]
    exact .comment hcomment ih

/-- A closed gap is part of the last gap behind it. -/
theorem ClosedGap.append_last {gap more : List Char} (h : ClosedGap gap) (hmore : LastGap more) :
    LastGap (gap ++ more) := by
  cases hmore with
  | closed hclosed => exact .closed (h.append hclosed)
  | line hclosed body hbody =>
    rw [← List.append_assoc]
    exact .line (h.append hclosed) body hbody
  | block hclosed body hbody =>
    rw [← List.append_assoc]
    exact .block (h.append hclosed) body hbody

/-- What is passed over between symbols, given what is left: a gap in front of a symbol, or the last one. -/
def Passed (gap rest : List Char) : Prop :=
  (rest = [] ∧ LastGap gap) ∨ (ClosedGap gap ∧ ∃ c others, rest = c :: others ∧ Solid c)

/-- What is passed over may begin with a closed gap. -/
theorem Passed.prepend {gap more rest : List Char} (hgap : ClosedGap gap) (h : Passed more rest) :
    Passed (gap ++ more) rest := by
  rcases h with ⟨hend, hlast⟩ | ⟨hclosed, hsolid⟩
  · exact .inl ⟨hend, hgap.append_last hlast⟩
  · exact .inr ⟨hgap.append hclosed, hsolid⟩

/-- The same from within a comment, where the gap starts with what is left of the comment. -/
def PassedFrom (mode : GapMode) (gap rest : List Char) : Prop :=
  match mode.closer? with
  | none => Passed gap rest
  | some closer => (rest = [] ∧ closer ∉ gap) ∨
      ∃ body more, gap = body ++ closer :: more ∧ closer ∉ body ∧ Passed more rest

/-- A character that does not close a comment belongs to it. -/
theorem PassedFrom.cons {mode : GapMode} {closer c : Char} {gap rest : List Char}
    (hmode : mode.closer? = some closer) (hc : c ≠ closer) (h : PassedFrom mode gap rest) :
    PassedFrom mode (c :: gap) rest := by
  simp only [PassedFrom, hmode] at h ⊢
  rcases h with ⟨hend, hopen⟩ | ⟨body, more, rfl, hbody, hmore⟩
  · exact .inl ⟨hend, fun hmem => (List.mem_cons.1 hmem).elim (fun h => hc h.symm) hopen⟩
  · refine .inr ⟨c :: body, more, rfl, ?_, hmore⟩
    exact fun hmem => (List.mem_cons.1 hmem).elim (fun h => hc h.symm) hbody

/-- One character more in front of a gap. -/
theorem PassedFrom.open_comment {mode : GapMode} {closer opener : Char} {gap rest : List Char}
    (hmode : mode.closer? = some closer)
    (hlast : ∀ body, closer ∉ body → LastGap (opener :: body))
    (hcomment : ∀ body, closer ∉ body → Comment (opener :: (body ++ [closer])))
    (h : PassedFrom mode gap rest) : Passed (opener :: gap) rest := by
  simp only [PassedFrom, hmode] at h
  rcases h with ⟨hend, hopen⟩ | ⟨body, more, rfl, hbody, hmore⟩
  · exact .inl ⟨hend, hlast gap hopen⟩
  · have hclosed : ClosedGap (opener :: (body ++ [closer]) ++ []) := .comment (hcomment body hbody) .nil
    have hpassed := hmore.prepend hclosed
    simpa using hpassed

/-- **One gap.** By induction on the characters, in whatever mode the ones in front of them have led to. -/
theorem skipGapFrom_spec (mode : GapMode) (boundaries : List Nat) (offset : Nat) (chars : List Char) :
    ∃ gap, chars = gap ++ (skipGapFrom mode boundaries offset chars).after.rest ∧
      (skipGapFrom mode boundaries offset chars).after.offset = offset + byteLength gap ∧
      PassedFrom mode gap (skipGapFrom mode boundaries offset chars).after.rest := by
  induction chars generalizing mode boundaries offset with
  | nil =>
    refine ⟨[], rfl, rfl, ?_⟩
    cases mode with
    | blanks => exact .inl ⟨rfl, .closed .nil⟩
    | lineComment => exact .inl ⟨rfl, List.not_mem_nil⟩
    | blockComment => exact .inl ⟨rfl, List.not_mem_nil⟩
  | cons c others ih =>
    -- a character that is passed over belongs to the gap, and leads to some mode
    have hpass : ∀ mode' boundaries',
        let left := skipGapFrom mode' boundaries' (offset + c.utf8Size) others
        (∀ gap, PassedFrom mode' gap left.after.rest → PassedFrom mode (c :: gap) left.after.rest) →
          ∃ gap, c :: others = gap ++ left.after.rest ∧
            left.after.offset = offset + byteLength gap ∧ PassedFrom mode gap left.after.rest := by
      intro mode' boundaries' left hmode
      obtain ⟨gap, hothers, hoffset, hpassed⟩ := ih mode' boundaries' (offset + c.utf8Size)
      refine ⟨c :: gap, ?_, ?_, hmode gap hpassed⟩
      · rw [List.cons_append, ← hothers]
      · rw [hoffset, Nat.add_assoc]
        rfl
    cases mode with
    | blanks =>
      simp only [skipGapFrom]
      split
      · next hblank => exact hpass _ _ fun gap h => Passed.prepend (.blank hblank .nil) h
      · next hblank =>
        split
        · next hline =>
          subst hline
          exact hpass _ _ fun gap => PassedFrom.open_comment rfl (fun body => .line .nil body) .line
        · next hline =>
          split
          · next hblock =>
            subst hblock
            exact hpass _ _ fun gap => PassedFrom.open_comment rfl (fun body => .block .nil body) .block
          · next hblock => exact ⟨[], rfl, rfl, .inr ⟨.nil, c, others, rfl, hblank, hline, hblock⟩⟩
    | lineComment =>
      simp only [skipGapFrom]
      split
      · next hclose => exact hpass _ _ fun gap h => .inr ⟨[], gap, by rw [hclose]; rfl, List.not_mem_nil, h⟩
      · next hopen => exact hpass _ _ fun gap => PassedFrom.cons rfl hopen
    | blockComment =>
      simp only [skipGapFrom]
      split
      · next hclose => exact hpass _ _ fun gap h => .inr ⟨[], gap, by rw [hclose]; rfl, List.not_mem_nil, h⟩
      · next hopen => exact hpass _ _ fun gap => PassedFrom.cons rfl hopen

/-- The gap at a place of a text. -/
theorem Cursor.skipGap_spec {cursor : Cursor} {front : List Char}
    (hoffset : cursor.offset = byteLength front) :
    ∃ gap, cursor.rest = gap ++ cursor.skipGap.after.rest ∧
      cursor.skipGap.after.offset = byteLength (front ++ gap) ∧ Passed gap cursor.skipGap.after.rest := by
  have h := skipGapFrom_spec .blanks [] cursor.offset cursor.rest
  simp only [hoffset, ← byteLength_append] at h
  rw [skipGap, hoffset]
  exact h

/-! ## Symbols -/

namespace SymbolKind

/-- The symbol as it is written. -/
def written : SymbolKind → List Char
  | fullStop => ['.']
  | semicolon => [';']
  | keyword word _ => word.spelling.toList
  | number digits _ => digits.toList
  | name text _ => text.toList
  | invalid c => [c]

end SymbolKind

/-- A letter, and then letters and digits. -/
def IsWord (chars : List Char) : Prop :=
  (∃ c ∈ chars.head?, c.isAlpha) ∧ ∀ c ∈ chars, c.isAlphanum

/-- Digits. -/
def IsNumber (chars : List Char) : Prop :=
  chars ≠ [] ∧ ∀ c ∈ chars, c.isDigit

/-- What is written between `front` and `back` is a run of some kind, and no longer run is around it. -/
def Maximal (run : List Char → Prop) (front written back : List Char) : Prop :=
  run written ∧ ∀ before after, before <:+ front → after <+: back →
    run (before ++ written ++ after) → before = [] ∧ after = []

/-- A symbol stands between what is in front of it and what is behind it. A word is reserved exactly if
it is the spelling of a keyword. -/
def SymbolKind.StandsBetween (front back : List Char) : SymbolKind → Prop
  | keyword word _ => Maximal IsWord front word.spelling.toList back
  | name text _ => Maximal IsWord front text.toList back ∧ ∀ word : Keyword, word.spelling ≠ text
  | number digits _ => Maximal IsNumber front digits.toList back
  | fullStop | semicolon => True
  | invalid c => c ≠ '.' ∧ c ≠ ';' ∧ ¬ c.isAlphanum ∧ Solid c

/-- The characters that are left, when those in `front` have been read, are gaps and symbols in turn. -/
inductive Covers : List Char → List Char → List Symbol → Prop where
  | last {front gap : List Char} (h : LastGap gap) : Covers front gap []
  | symbol {front gap rest : List Char} {kind : SymbolKind} {symbols : List Symbol}
      (hgap : ClosedGap gap) (hstands : kind.StandsBetween (front ++ gap) rest)
      (hrest : Covers (front ++ gap ++ kind.written) rest symbols) :
      Covers front (gap ++ (kind.written ++ rest)) (⟨kind, byteLength (front ++ gap)⟩ :: symbols)

/-! ## Where runs begin -/

/-- What is in front of the rest of a text does not belong to a run that goes on there: the rest begins
with no letter and no digit, or there is a number in front of it that is over, or nothing of a run. -/
def Borders (front rest : List Char) : Prop :=
  (∀ c ∈ rest.head?, ¬ c.isAlphanum) ∨
    ∃ before digits, front = before ++ digits ∧ (∀ c ∈ before.getLast?, ¬ c.isAlphanum) ∧
      (∀ c ∈ digits, c.isDigit) ∧ (digits = [] ∨ ∀ c ∈ rest.head?, ¬ c.isDigit)

/-- Nothing of a run is in front. -/
theorem Borders.of_getLast {front : List Char} (h : ∀ c ∈ front.getLast?, ¬ c.isAlphanum)
    (rest : List Char) : Borders front rest := by
  refine .inr ⟨front, [], (List.append_nil front).symm, h, ?_, .inl rfl⟩
  intro c hc
  cases hc

/-- A gap ends with no letter and no digit: with a blank, or with what closes a comment. -/
theorem getLast_of_closedGap {gap : List Char} (h : ClosedGap gap) :
    ∀ c ∈ gap.getLast?, ¬ c.isAlphanum := by
  induction h with
  | nil =>
    intro c hc
    cases hc
  | @blank c gap hblank _ ih =>
    cases gap with
    | nil =>
      intro d hd
      cases hd
      exact not_isAlphanum_of_isBlank hblank
    | cons d gap => exact ih
  | @comment comment gap hcomment _ ih =>
    -- the comment is the end of the gap
    cases gap with
    | nil =>
      rw [List.append_nil]
      cases hcomment with
      | line body hbody =>
        rw [← List.cons_append, List.getLast?_concat]
        simp
      | block body hbody =>
        rw [← List.cons_append, List.getLast?_concat]
        simp
    -- what follows the comment ends the gap
    | cons d gap =>
      rw [List.getLast?_append_of_ne_nil _ (List.cons_ne_nil d gap)]
      exact ih

/-- Behind a gap nothing of a run is in front. -/
theorem Borders.gap {front gap rest : List Char} (h : Borders front (gap ++ rest))
    (hgap : ClosedGap gap) : Borders (front ++ gap) rest := by
  by_cases hne : gap = []
  · subst hne
    rw [List.append_nil]
    exact h
  · apply Borders.of_getLast
    rw [List.getLast?_append_of_ne_nil _ hne]
    exact getLast_of_closedGap hgap

/-- A run that ends at a border is made of digits, and there is none if a digit follows. -/
theorem Borders.digits {front rest before : List Char} {c : Char} (h : Borders front rest)
    (hc : c ∈ rest.head?) (halphanum : c.isAlphanum) (hbefore : before <:+ front)
    (hrun : ∀ d ∈ before, d.isAlphanum) :
    (∀ d ∈ before, d.isDigit) ∧ (c.isDigit → before = []) := by
  rcases h with hover | ⟨earlier, digits, rfl, hearlier, hdigits, hend⟩
  · exact absurd halphanum (hover c hc)
  · have hsuffix : before <:+ digits := by
      obtain ⟨others, hothers⟩ := hbefore
      -- the run and the digits end at the same place, so one of them is a part of the other
      rcases List.append_eq_append_iff.1 hothers with ⟨more, hsplit, hmore⟩ | ⟨more, -, hmore⟩
      · -- the run would go on in front of the digits
        cases hlast : more.getLast? with
        | none =>
          rw [List.getLast?_eq_none_iff.1 hlast, List.nil_append] at hmore
          rw [hmore]
        | some d =>
          have hd : ¬ d.isAlphanum := by
            apply hearlier
            rw [hsplit, List.getLast?_append, hlast]
            rfl
          have hmem : d ∈ before := by
            rw [hmore]
            exact List.mem_append_left _ (List.mem_of_getLast? hlast)
          exact absurd (hrun d hmem) hd
      · exact ⟨more, hmore.symm⟩
    refine ⟨fun d hd => hdigits d (hsuffix.mem hd), fun hdigit => ?_⟩
    rcases hend with hnone | hover
    · rw [hnone] at hsuffix
      exact List.suffix_nil.1 hsuffix
    · exact absurd hdigit (hover c hc)

/-- A run is not longer than it is read. -/
theorem eq_nil_of_prefix {test : Char → Bool} {after rest : List Char} (hafter : after <+: rest)
    (hend : ∀ d ∈ rest.head?, ¬ test d) (hrun : ∀ d ∈ after, test d) : after = [] := by
  cases after with
  | nil => rfl
  | cons d after =>
    obtain ⟨others, rfl⟩ := hafter
    exact absurd (hrun d List.mem_cons_self) (hend d rfl)

/-- **Words.** -/
theorem maximal_word {front written rest : List Char} (hborders : Borders front (written ++ rest))
    (hword : IsWord written) (hend : ∀ d ∈ rest.head?, ¬ d.isAlphanum) :
    Maximal IsWord front written rest := by
  refine ⟨hword, fun before after hbefore hafter hlonger => ?_⟩
  obtain ⟨⟨first, hfirst, hletter⟩, hall⟩ := hlonger
  obtain ⟨⟨c, hc, -⟩, hwritten⟩ := hword
  have hmem : c ∈ written := List.mem_of_head? hc
  have hhead : c ∈ (written ++ rest).head? := by
    rw [List.head?_append, hc]
    rfl
  have hdigits := (hborders.digits hhead (hwritten c hmem) hbefore
    fun d hd => hall d (by simp [hd])).1
  refine ⟨?_, eq_nil_of_prefix hafter hend fun d hd => hall d (by simp [hd])⟩
  cases before with
  | nil => rfl
  | cons d before =>
    -- a longer word would begin with a digit
    have hsame : d = first := Option.some.inj hfirst
    have hdigit := isAlpha_eq_false_of_isDigit (hdigits d List.mem_cons_self)
    rw [hsame, hletter] at hdigit
    cases hdigit

/-- **Numbers.** -/
theorem maximal_number {front written rest : List Char} (hborders : Borders front (written ++ rest))
    (hnumber : IsNumber written) (hend : ∀ d ∈ rest.head?, ¬ d.isDigit) :
    Maximal IsNumber front written rest := by
  refine ⟨hnumber, fun before after hbefore hafter hlonger => ?_⟩
  obtain ⟨-, hall⟩ := hlonger
  obtain ⟨hne, hwritten⟩ := hnumber
  cases written with
  | nil => exact absurd rfl hne
  | cons c others =>
    have hdigit := hwritten c List.mem_cons_self
    have hnone := (hborders.digits rfl (isAlphanum_of_isDigit hdigit) hbefore
      fun d hd => isAlphanum_of_isDigit (hall d (by simp [hd]))).2 hdigit
    exact ⟨hnone, eq_nil_of_prefix hafter hend fun d hd => hall d (by simp [hd])⟩

/-- What follows a maximal run does not go on with it. -/
theorem Maximal.end {run : List Char → Prop} {test : Char → Bool} {front written back : List Char}
    (h : Maximal run front written back)
    (hextend : ∀ d, test d → run written → run (written ++ [d])) :
    ∀ d ∈ back.head?, ¬ test d := by
  intro d hd htest
  obtain ⟨others, rfl⟩ := List.head?_eq_some_iff.1 hd
  have hnone := (h.2 [] [d] List.nil_suffix ⟨others, rfl⟩ (hextend d htest h.1)).2
  cases hnone

/-- A word is not followed by a letter or a digit. -/
theorem Maximal.word_end {front written back : List Char} (h : Maximal IsWord front written back) :
    ∀ d ∈ back.head?, ¬ d.isAlphanum := by
  apply h.end
  rintro d hd ⟨⟨c, hc, hletter⟩, hall⟩
  refine ⟨⟨c, ?_, hletter⟩, ?_⟩
  · rw [List.head?_append, hc]
    rfl
  · rw [List.forall_mem_append, List.forall_mem_singleton]
    exact ⟨hall, hd⟩

/-- A number is not followed by a digit. -/
theorem Maximal.number_end {front written back : List Char} (h : Maximal IsNumber front written back) :
    ∀ d ∈ back.head?, ¬ d.isDigit := by
  apply h.end
  rintro d hd ⟨hne, hall⟩
  refine ⟨by simp, ?_⟩
  rw [List.forall_mem_append, List.forall_mem_singleton]
  exact ⟨hall, hd⟩

/-- Behind a symbol there is a border again. -/
theorem Borders.symbol {front rest : List Char} {kind : SymbolKind}
    (h : Borders front (kind.written ++ rest)) (hstands : kind.StandsBetween front rest) :
    Borders (front ++ kind.written) rest := by
  have hsingle : ∀ c : Char, ¬ c.isAlphanum → Borders (front ++ [c]) rest := by
    intro c hc
    apply Borders.of_getLast
    rw [List.getLast?_concat]
    simpa using hc
  cases kind with
  | fullStop => exact hsingle '.' (by decide)
  | semicolon => exact hsingle ';' (by decide)
  | keyword word id => exact .inl hstands.word_end
  | name text id => exact .inl hstands.1.word_end
  | invalid c => exact hsingle c hstands.2.2.1
  | number digits id =>
    obtain ⟨hne, hall⟩ := hstands.1
    obtain ⟨c, others, hdigits⟩ := List.exists_cons_of_ne_nil hne
    have hdigit : c.isDigit := by
      apply hall
      rw [hdigits]
      exact List.mem_cons_self
    refine .inr ⟨front, digits.toList, rfl, fun d hd halphanum => ?_, hall, .inr hstands.number_end⟩
    -- the number would have begun earlier
    have hhead : c ∈ (SymbolKind.written (.number digits id) ++ rest).head? := by
      show c ∈ (digits.toList ++ rest).head?
      rw [hdigits]
      rfl
    have hnone := (h.digits hhead (isAlphanum_of_isDigit hdigit)
      (List.singleton_suffix_iff_getLast?_eq_some.2 hd) (List.forall_mem_singleton.2 halphanum)).2 hdigit
    cases hnone

/-! ## One symbol -/

namespace Lexeme

/-- The lexeme as it is written. -/
def written : Lexeme → List Char
  | fullStop => ['.']
  | semicolon => [';']
  | word text => text.toList
  | number digits => digits.toList
  | stray c => [c]

/-- What a lexeme is in front of the rest of the text. -/
def Precedes (rest : List Char) : Lexeme → Prop
  | fullStop | semicolon => True
  | word text => IsWord text.toList ∧ ∀ d ∈ rest.head?, ¬ d.isAlphanum
  | number digits => IsNumber digits.toList ∧ ∀ d ∈ rest.head?, ¬ d.isDigit
  | stray c => c ≠ '.' ∧ c ≠ ';' ∧ ¬ c.isAlphanum

end Lexeme

/-- A run is split off the text, as long as it can be. -/
theorem Cursor.takeRun_spec (cursor : Cursor) (test : Char → Bool) :
    cursor.rest = (cursor.takeRun test).1.toList ++ (cursor.takeRun test).2.rest ∧
      (cursor.takeRun test).2.offset = cursor.offset + byteLength (cursor.takeRun test).1.toList ∧
      (∀ d ∈ (cursor.takeRun test).1.toList, test d) ∧
      ∀ d ∈ (cursor.takeRun test).2.rest.head?, ¬ test d := by
  rw [takeRun, String.toList_ofList]
  refine ⟨List.takeWhile_append_dropWhile.symm, rfl, fun d => List.mem_takeWhile_imp, fun d hd => ?_⟩
  have hnot := List.head?_dropWhile_not test cursor.rest
  rw [hd] at hnot
  simpa using hnot

/-- A run that takes the first character begins with it. -/
theorem Cursor.head_takeRun {cursor : Cursor} {c : Char} {others : List Char} {test : Char → Bool}
    (hrest : cursor.rest = c :: others) (hc : test c) :
    c ∈ (cursor.takeRun test).1.toList.head? := by
  rw [takeRun, String.toList_ofList, hrest, List.takeWhile_cons_of_pos hc]
  rfl

/-- **One lexeme.** -/
theorem Cursor.lexeme?_spec {cursor : Cursor} {c : Char} {others : List Char}
    (hrest : cursor.rest = c :: others) : ∃ lexeme next, cursor.lexeme? = some (lexeme, next) ∧
      cursor.rest = lexeme.written ++ next.rest ∧
      next.offset = cursor.offset + byteLength lexeme.written ∧ lexeme.Precedes next.rest := by
  rw [lexeme?, hrest]
  simp only
  split
  · next hdot => exact ⟨.fullStop, _, rfl, by rw [hdot]; rfl, by rw [hdot]; rfl, trivial⟩
  · next hdot =>
    split
    · next hsemicolon =>
      exact ⟨.semicolon, _, rfl, by rw [hsemicolon]; rfl, by rw [hsemicolon]; rfl, trivial⟩
    · next hsemicolon =>
      split
      · next hletter =>
        obtain ⟨hsplit, hoffset, hall, hend⟩ := cursor.takeRun_spec Char.isAlphanum
        have hfirst := cursor.head_takeRun hrest (isAlphanum_of_isAlpha hletter)
        exact ⟨.word _, _, rfl, hrest ▸ hsplit, hoffset, ⟨⟨c, hfirst, hletter⟩, hall⟩, hend⟩
      · next hletter =>
        split
        · next hdigit =>
          obtain ⟨hsplit, hoffset, hall, hend⟩ := cursor.takeRun_spec Char.isDigit
          have hfirst := cursor.head_takeRun hrest hdigit
          have hne : (cursor.takeRun Char.isDigit).1.toList ≠ [] :=
            List.ne_nil_of_mem (List.mem_of_head? hfirst)
          exact ⟨.number _, _, rfl, hrest ▸ hsplit, hoffset, ⟨hne, hall⟩, hend⟩
        · next hdigit =>
          have hother : ¬ c.isAlphanum := by simp [Char.isAlphanum, hletter, hdigit]
          exact ⟨.stray c, _, rfl, rfl, rfl, hdot, hsemicolon, hother⟩

/-- The symbol of a lexeme is written like it, and its text is interned. -/
theorem written_ofLexeme (names : NameTable) (lexeme : Lexeme) :
    (SymbolKind.ofLexeme names lexeme).1.written = lexeme.written ∧
      ∀ id, (SymbolKind.ofLexeme names lexeme).1.id? = some id →
        (SymbolKind.ofLexeme names lexeme).2.text? id = some (String.ofList lexeme.written) := by
  have hintern : ∀ text, (names.intern text).2.text? (names.intern text).1
      = some (String.ofList text.toList) := by
    intro text
    rw [String.ofList_toList, ← NameTable.id?_eq_some_iff]
    exact names.id?_intern text
  cases lexeme with
  | word text =>
    simp only [SymbolKind.ofLexeme]
    cases hword : Keyword.ofSpelling? text with
    | some word =>
      obtain rfl := Keyword.eq_spelling hword
      refine ⟨rfl, fun id hid => ?_⟩
      cases hid
      exact hintern _
    | none =>
      refine ⟨rfl, fun id hid => ?_⟩
      cases hid
      exact hintern text
  | number digits =>
    refine ⟨rfl, fun id hid => ?_⟩
    cases hid
    exact hintern digits
  | _ =>
    refine ⟨rfl, fun id hid => ?_⟩
    cases hid

/-- A symbol stands where its lexeme has been read. -/
theorem standsBetween_ofLexeme {front rest : List Char} {c : Char} {lexeme : Lexeme} (names : NameTable)
    (hborders : Borders front (lexeme.written ++ rest)) (hc : c ∈ (lexeme.written ++ rest).head?)
    (hsolid : Solid c) (h : lexeme.Precedes rest) :
    (SymbolKind.ofLexeme names lexeme).1.StandsBetween front rest := by
  cases lexeme with
  | fullStop => trivial
  | semicolon => trivial
  | word text =>
    have hmaximal := maximal_word hborders h.1 h.2
    simp only [SymbolKind.ofLexeme]
    cases hword : Keyword.ofSpelling? text with
    | some word =>
      obtain rfl := Keyword.eq_spelling hword
      exact hmaximal
    -- the text of a keyword would have been found
    | none =>
      refine ⟨hmaximal, ?_⟩
      rintro word rfl
      rw [Keyword.ofSpelling?_spelling] at hword
      cases hword
  | number digits => exact maximal_number hborders h.1 h.2
  | stray d =>
    obtain ⟨hdot, hsemicolon, hother⟩ := h
    cases hc
    exact ⟨hdot, hsemicolon, hother, hsolid⟩

/-- **The next symbol**, or the end of the text. -/
theorem next_cases {scanner : Scanner} {front : List Char} (names : NameTable)
    (hoffset : scanner.cursor.offset = byteLength front)
    (hborders : Borders front scanner.cursor.rest) :
    (LastGap scanner.cursor.rest ∧ ∃ after, scanner.next names = (none, after, names) ∧
      after.cursor = ⟨[], byteLength (front ++ scanner.cursor.rest)⟩ ∧
      after.lastOffset = byteLength (front ++ scanner.cursor.rest)) ∨
    ∃ gap kind rest after names',
      scanner.next names = (some ⟨kind, byteLength (front ++ gap)⟩, after, names') ∧
      scanner.cursor.rest = gap ++ (kind.written ++ rest) ∧ ClosedGap gap ∧
      kind.StandsBetween (front ++ gap) rest ∧
      after.cursor = ⟨rest, byteLength (front ++ gap ++ kind.written)⟩ ∧
      after.lastOffset = byteLength (front ++ gap) ∧ names.Grows names' ∧
      ∀ id, kind.id? = some id → names'.text? id = some (String.ofList kind.written) := by
  -- the gap is passed over first, and what is behind it decides
  obtain ⟨gap, hsplit, hafter, hpassed⟩ := Cursor.skipGap_spec hoffset
  rw [Scanner.next]
  rcases hpassed with ⟨hend, hlast⟩ | ⟨hclosed, c, others, hsolid, hrest⟩
  · have hnone : scanner.cursor.skipGap.after.lexeme? = none := by rw [Cursor.lexeme?, hend]
    rw [hend, List.append_nil] at hsplit
    rw [hsplit]
    simp only [hnone]
    refine .inl ⟨hlast, _, rfl, ?_, hafter⟩
    show scanner.cursor.skipGap.after = _
    rw [← hend, ← hafter]
  · obtain ⟨lexeme, next, hlexeme, hwritten, hnext, hprecedes⟩ := Cursor.lexeme?_spec hsolid
    rw [hwritten] at hsplit
    obtain ⟨hsame, hinterned⟩ := written_ofLexeme names lexeme
    have hgapBorders : Borders (front ++ gap) (lexeme.written ++ next.rest) := by
      rw [hsplit] at hborders
      exact hborders.gap hclosed
    have hhead : c ∈ (lexeme.written ++ next.rest).head? := by
      rw [← hwritten, hsolid]
      rfl
    have hstands := standsBetween_ofLexeme names hgapBorders hhead hrest hprecedes
    have hgrows := grows_ofLexeme names lexeme
    rw [← hsame] at hsplit hinterned
    rw [hafter, ← byteLength_append, ← hsame] at hnext
    simp only [hlexeme]
    refine .inr ⟨gap, (SymbolKind.ofLexeme names lexeme).1, next.rest, _,
      (SymbolKind.ofLexeme names lexeme).2, Prod.ext ?_ rfl, hsplit, hclosed, hstands, ?_, hafter, hgrows,
      hinterned⟩
    · rw [hafter]
    · rw [← hnext]

/-! ## All symbols -/

namespace SymbolKind

/-- A symbol has at least one character. -/
theorem StandsBetween.written_ne_nil {front back : List Char} {kind : SymbolKind}
    (h : kind.StandsBetween front back) : kind.written ≠ [] := by
  have hword : ∀ {chars : List Char}, Maximal IsWord front chars back → chars ≠ [] := by
    rintro chars ⟨⟨⟨c, hc, -⟩, -⟩, -⟩
    exact List.ne_nil_of_mem (List.mem_of_head? hc)
  cases kind with
  | keyword word id => exact hword h
  | name text id => exact hword h.1
  | number digits id => exact h.1.1
  | _ => exact List.cons_ne_nil _ _

end SymbolKind

namespace Covers

variable {front rest : List Char} {symbols : List Symbol}

/-- The symbols stand one behind the other. -/
theorem increasing (h : Covers front rest symbols) :
    (∀ symbol ∈ symbols, byteLength front ≤ symbol.offset) ∧ Increasing symbols := by
  induction h with
  | last h =>
    refine ⟨fun symbol hsymbol => ?_, .nil⟩
    cases hsymbol
  | @symbol front gap rest kind symbols hgap hstands hrest ih =>
    obtain ⟨hlater, hincreasing⟩ := ih
    have hpos := Text.byteLength_pos hstands.written_ne_nil
    simp only [byteLength_append] at hlater ⊢
    refine ⟨List.forall_mem_cons.2 ⟨by simp, fun symbol hsymbol => ?_⟩,
      List.pairwise_cons.2 ⟨fun symbol hsymbol => ?_, hincreasing⟩⟩
    · have hle := hlater symbol hsymbol
      omega
    · have hle := hlater symbol hsymbol
      show byteLength front + byteLength gap < symbol.offset
      omega

/-- Each symbol is written at its offset. -/
theorem exists_split (h : Covers front rest symbols) : ∀ symbol ∈ symbols, ∃ before after,
    front ++ rest = before ++ (symbol.kind.written ++ after) ∧ byteLength before = symbol.offset ∧
      symbol.kind.StandsBetween before after := by
  induction h with
  | last h =>
    intro symbol hsymbol
    cases hsymbol
  | @symbol front gap rest kind symbols hgap hstands hrest ih =>
    rw [← List.append_assoc front gap]
    refine List.forall_mem_cons.2 ⟨⟨front ++ gap, rest, rfl, rfl, hstands⟩, fun symbol hsymbol => ?_⟩
    rw [← List.append_assoc]
    exact ih symbol hsymbol

end Covers

/-! ## Calls -/

namespace Scanner

/-- What a scanner is asked while a text is read. -/
inductive Call where
  | next
  | report (diagnostic : Diagnostic) (place : Option Nat)
  | reportLast (message : String) (caret : Bool)
  deriving DecidableEq

/-- The scanner and the table after a call. -/
def call (state : Scanner × NameTable) : Call → Scanner × NameTable
  | .next => (state.1.next state.2).2
  | .report diagnostic place => (state.1.report diagnostic place, state.2)
  | .reportLast message caret => (state.1.reportLast message caret, state.2)

def callAll (state : Scanner × NameTable) (calls : List Call) : Scanner × NameTable :=
  calls.foldl call state

/-- The answers to the calls for a symbol: the symbol, or nothing at the end of the text, and the offset
that the scanner has noted. -/
def answers (state : Scanner × NameTable) : List Call → List (Option Symbol × Nat)
  | [] => []
  | .next :: calls =>
    ((state.1.next state.2).1, (call state .next).1.lastOffset) :: answers (call state .next) calls
  | other :: calls => answers (call state other) calls

/-- The scanner without what has been reported. -/
def unreported (scanner : Scanner) : Scanner :=
  { scanner with diagnostics := #[] }

/-- What has been reported makes no difference to a call for a symbol. -/
theorem next_unreported (scanner : Scanner) (names : NameTable) : scanner.unreported.next names
    = ((scanner.next names).1, (scanner.next names).2.1.unreported, (scanner.next names).2.2) := by
  simp only [next, unreported]
  split <;> rfl

theorem unreported_report (scanner : Scanner) (diagnostic : Diagnostic) (place : Option Nat) :
    (scanner.report diagnostic place).unreported = scanner.unreported := by
  cases place <;> rfl

variable {scanner other : Scanner} {names : NameTable}

/-- What has been reported makes no difference to the symbols that are read. -/
theorem asked_congr (h : other.unreported = scanner.unreported) (asked : Nat) :
    let calls := List.replicate asked Call.next
    (callAll (other, names) calls).1.unreported = (callAll (scanner, names) calls).1.unreported ∧
      (callAll (other, names) calls).2 = (callAll (scanner, names) calls).2 ∧
      answers (other, names) calls = answers (scanner, names) calls := by
  induction asked generalizing scanner other names with
  | zero => exact ⟨h, rfl, rfl⟩
  | succ asked ih =>
    have hnext := next_unreported other names
    rw [h, next_unreported scanner names, Prod.mk.injEq, Prod.mk.injEq] at hnext
    obtain ⟨hsymbol, hafter, hnames⟩ := hnext
    have hlast : (other.next names).2.1.lastOffset = (scanner.next names).2.1.lastOffset :=
      (congrArg lastOffset hafter).symm
    have hother : (other.next names).2 = ((other.next names).2.1, (scanner.next names).2.2) :=
      Prod.ext rfl hnames.symm
    obtain ⟨hscanner, htable, hanswers⟩ := @ih _ _ (scanner.next names).2.2 hafter.symm
    rw [List.replicate_succ]
    refine ⟨?_, ?_, ?_⟩
    · show (callAll (other.next names).2 _).1.unreported = _
      rw [hother]
      exact hscanner
    · show (callAll (other.next names).2 _).2 = _
      rw [hother]
      exact htable
    · rw [answers, answers, call, call, hother, ← hsymbol]
      exact congrArg₂ List.cons (Prod.ext rfl hlast) hanswers

/-- **Only calls for a symbol count.** Reports in between change nothing but the log. -/
theorem callAll_unreported (state : Scanner × NameTable) (calls : List Call) :
    let asked := List.replicate (calls.count .next) Call.next
    (callAll state calls).1.unreported = (callAll state asked).1.unreported ∧
      (callAll state calls).2 = (callAll state asked).2 ∧ answers state calls = answers state asked := by
  induction calls generalizing state with
  | nil => exact ⟨rfl, rfl, rfl⟩
  | cons first calls ih =>
    -- a call that reports leads to a scanner that differs in its log
    have hreport : ∀ other : Scanner, first ≠ .next → call state first = (other, state.2) →
        answers state (first :: calls) = answers (other, state.2) calls →
        other.unreported = state.1.unreported →
          let asked := List.replicate ((first :: calls).count .next) Call.next
          (callAll state (first :: calls)).1.unreported = (callAll state asked).1.unreported ∧
            (callAll state (first :: calls)).2 = (callAll state asked).2 ∧
            answers state (first :: calls) = answers state asked := by
      intro other hne hcall hanswers hother
      obtain ⟨hscanner, hnames, hlater⟩ := ih (other, state.2)
      obtain ⟨hscanner', hnames', hlater'⟩ := @asked_congr state.1 other state.2 hother (calls.count .next)
      rw [List.count_cons_of_ne hne, hanswers]
      refine ⟨?_, ?_, hlater.trans hlater'⟩
      · show (callAll (call state first) calls).1.unreported = _
        rw [hcall]
        exact hscanner.trans hscanner'
      · show (callAll (call state first) calls).2 = _
        rw [hcall]
        exact hnames.trans hnames'
    cases first with
    | next =>
      obtain ⟨hscanner, hnames, hanswers⟩ := ih (call state .next)
      rw [List.count_cons_self, List.replicate_succ]
      exact ⟨hscanner, hnames, congrArg (List.cons _) hanswers⟩
    | report diagnostic place =>
      exact hreport _ (by simp) rfl rfl (unreported_report state.1 diagnostic place)
    | reportLast message caret =>
      exact hreport _ (by simp) rfl rfl (unreported_report state.1 _ _)

theorem grows_next (scanner : Scanner) (names : NameTable) : names.Grows (scanner.next names).2.2 := by
  rw [next]
  split
  · exact .refl names
  · exact grows_ofLexeme names _

/-- Calls keep the handles. -/
theorem grows_callAll (state : Scanner × NameTable) (calls : List Call) :
    state.2.Grows (callAll state calls).2 := by
  induction calls generalizing state with
  | nil => exact .refl state.2
  | cons first calls ih =>
    refine .trans ?_ (ih (call state first))
    cases first with
    | next => exact grows_next state.1 state.2
    | _ => exact .refl state.2

/-- At the end of the text there is no more symbol, however often one is asked for. -/
theorem answers_at_end {offset : Nat} (h : scanner.cursor = ⟨[], offset⟩) (asked : Nat) :
    answers (scanner, names) (List.replicate asked .next) = List.replicate asked (none, offset) := by
  induction asked generalizing scanner with
  | zero => rfl
  | succ asked ih =>
    have hnext : scanner.next names = (none, { scanner with lastOffset := offset }, names) := by
      obtain ⟨cursor, document, lastOffset, diagnostics⟩ := scanner
      obtain rfl : cursor = ⟨[], offset⟩ := h
      rfl
    rw [List.replicate_succ, List.replicate_succ, answers, call, hnext]
    exact congrArg (List.cons _) (ih h)

end Scanner

/-- The answer to a call for the symbol. -/
def Symbol.answer (symbol : Symbol) : Option Symbol × Nat :=
  (some symbol, symbol.offset)

open Scanner (Call call callAll answers)

/-- **All symbols.** What a scanner answers, asked as often as one likes, covers the text that it has not
read. By induction on that text, which a symbol shortens. -/
theorem exists_covers (scanner : Scanner) (names : NameTable) {front : List Char}
    (hoffset : scanner.cursor.offset = byteLength front)
    (hborders : Borders front scanner.cursor.rest) :
    ∃ symbols, Covers front scanner.cursor.rest symbols ∧ ∀ asked,
      answers (scanner, names) (List.replicate asked .next)
        = (symbols.map Symbol.answer ++
            List.replicate asked (none, byteLength (front ++ scanner.cursor.rest))).take asked ∧
      ∀ symbol ∈ symbols.take asked, ∀ id, symbol.kind.id? = some id →
        (callAll (scanner, names) (List.replicate asked .next)).2.text? id
          = some (String.ofList symbol.kind.written) := by
  rcases next_cases names hoffset hborders with
    ⟨hlast, after, hnext, hcursor, hlastOffset⟩ |
    ⟨gap, kind, rest, after, names', hnext, hrest, hgap, hstands, hcursor, hlastOffset, hgrows, hid⟩
  · -- at the end of the text, every call answers the same
    refine ⟨[], .last hlast, fun asked => ⟨?_, fun symbol hsymbol => ?_⟩⟩
    · rw [List.map_nil, List.nil_append, List.take_of_length_le (by simp)]
      cases asked with
      | zero => rfl
      | succ asked =>
        rw [List.replicate_succ, List.replicate_succ, answers, call, hnext, hlastOffset]
        exact congrArg (List.cons _) (Scanner.answers_at_end hcursor asked)
    · rw [List.take_nil] at hsymbol
      cases hsymbol
  · -- what is left behind the symbol is shorter, and is covered by the symbols of the later calls
    have hshorter := Scanner.length_next_lt hnext
    have hborders' : Borders (front ++ gap ++ kind.written) after.cursor.rest := by
      rw [hcursor]
      rw [hrest] at hborders
      exact (hborders.gap hgap).symbol hstands
    obtain ⟨symbols, hcovers, hanswers⟩ :=
      exists_covers after names' (by rw [hcursor]) hborders'
    rw [hcursor] at hcovers
    have hsplit : front ++ scanner.cursor.rest = front ++ gap ++ kind.written ++ after.cursor.rest := by
      rw [hrest, hcursor]
      simp
    refine ⟨⟨kind, byteLength (front ++ gap)⟩ :: symbols, ?_, fun asked => ?_⟩
    · rw [hrest]
      exact .symbol hgap hstands hcovers
    · cases asked with
      | zero => exact ⟨rfl, fun symbol hsymbol => by cases hsymbol⟩
      | succ asked =>
        obtain ⟨hlater, htexts⟩ := hanswers asked
        rw [List.replicate_succ, answers, call, hnext, hlastOffset, hsplit, hlater, List.map_cons,
          List.cons_append, List.take_succ_cons]
        refine ⟨congrArg (List.cons _) ?_, ?_⟩
        · -- asked once more, there are as many ends of the text as are looked at
          rw [List.take_append, List.take_append, List.take_replicate, List.take_replicate]
          congr 2
          omega
        · rw [List.take_succ_cons]
          have htable : (callAll (scanner, names) (.next :: List.replicate asked .next)).2
              = (callAll (after, names') (List.replicate asked .next)).2 := by
            show (callAll (scanner.next names).2 _).2 = _
            rw [hnext]
          rw [htable]
          refine List.forall_mem_cons.2 ⟨fun id hkind => ?_, htexts⟩
          exact Scanner.grows_callAll (after, names') _ id _ (hid id hkind)
  termination_by scanner.cursor.rest.length

/-- **A scanner covers its text.** There is one list of symbols that, with the gaps between them, makes up
the text: it is what any calls for symbols answer, one after the other, and then the end of the text for
good, whatever is reported in between. The offsets increase; each symbol is written at its own and as long
as it can be; and the handle of a symbol has its text in the table, so that two handles are equal exactly
if the texts are. -/
theorem scanner_covers (text : String) (names : NameTable) :
    let start := Scanner.new text names
    ∃ symbols, Covers [] text.toList symbols ∧ Increasing symbols ∧
      (∀ symbol ∈ symbols, ∃ front back, text.toList = front ++ (symbol.kind.written ++ back) ∧
        byteLength front = symbol.offset ∧ symbol.kind.StandsBetween front back) ∧
      (∀ symbol ∈ symbols, ∀ other ∈ symbols, ∀ id id', symbol.kind.id? = some id →
        other.kind.id? = some id' → (id = id' ↔ symbol.kind.written = other.kind.written)) ∧
      ∀ calls : List Call, let asked := calls.count .next
        answers start calls = (symbols.map Symbol.answer ++
            List.replicate asked (none, byteLength text.toList)).take asked ∧
        ∀ symbol ∈ symbols.take asked, ∀ id, symbol.kind.id? = some id →
          (callAll start calls).2.text? id = some (String.ofList symbol.kind.written) := by
  intro start
  have hcursor : start.1.cursor = ⟨text.toList, 0⟩ := (new_spec text names).1
  have hborders : Borders [] start.1.cursor.rest := by
    -- nothing is in front of the text
    apply Borders.of_getLast
    intro c hc
    cases hc
  obtain ⟨symbols, hcovers, hasked⟩ := exists_covers start.1 start.2 (by rw [hcursor]; rfl) hborders
  rw [hcursor] at hcovers
  refine ⟨symbols, hcovers, hcovers.increasing.2, hcovers.exists_split, ?_, fun calls => ?_⟩
  · intro symbol hsymbol other hother id id' hid hid'
    -- both texts are in the table once all symbols have been read
    obtain ⟨-, htexts⟩ := hasked symbols.length
    rw [List.take_length] at htexts
    have htext := htexts symbol hsymbol id hid
    have htext' := htexts other hother id' hid'
    constructor
    · rintro rfl
      rw [htext, Option.some.injEq, String.ofList_inj] at htext'
      exact htext'
    · intro hwritten
      rw [← hwritten, ← NameTable.id?_eq_some_iff] at htext'
      rw [← NameTable.id?_eq_some_iff, htext'] at htext
      exact (Option.some.inj htext).symm
  · obtain ⟨-, hnames, hanswers⟩ := Scanner.callAll_unreported start calls
    obtain ⟨hanswers', htexts⟩ := hasked (calls.count .next)
    rw [hcursor] at hanswers'
    exact ⟨hanswers.trans hanswers', hnames ▸ htexts⟩

end LogicCircuit.Definition
