import LogicCircuit.Proofs.Definition.Language

/-!
# Gaps — what stands between symbols

Texts are made of symbols with gaps between them, and gaps of blanks and comments. This is said here of
the characters themselves: `Spelled` for a symbol that is as long as it can be, `ClosedGap` for a gap
without a comment that runs on, and `Stands` for the places that are between symbols and outside of
comments.

* **`tokensOf_gap`** — a closed gap has no tokens, and the tokens behind it are those of what follows. A
  comment is closed by the first character that can close it, whatever else is in it.
* **`lexemeOf_spelled`** — a symbol is read as it is spelled, also if something else follows that does
  not make it longer (`Unextended`).
* **`Stands.exists_tokens`** — from a place where reading can stand, the tokens are those in front of it, which
  no change behind it touches, and those of what follows.
-/

namespace LogicCircuit.Definition

/-! ## Characters -/

/-- Letters and digits lie in a range of characters. -/
theorem toNat_of_isAlphanum {c : Char} (h : c.isAlphanum) : 48 ≤ c.toNat ∧ c.toNat ≤ 122 := by
  unfold Char.isAlphanum Char.isAlpha Char.isUpper Char.isLower Char.isDigit at h
  simp only [Bool.or_eq_true, Bool.and_eq_true, decide_eq_true_eq, ge_iff_le, UInt32.le_iff_toNat_le,
    Char.toNat_val] at h
  simp at h
  omega

/-- A character that does not begin a gap. -/
def Solid (c : Char) : Prop :=
  ¬ Text.isBlank c ∧ c ≠ '%' ∧ c ≠ '#'

theorem ne_of_isAlphanum {c d : Char} (h : c.isAlphanum) (hd : ¬ d.isAlphanum) : c ≠ d := by
  rintro rfl
  exact hd h

/-- No letter or digit begins a gap. -/
theorem solid_of_isAlphanum {c : Char} (h : c.isAlphanum) : Solid c := by
  obtain ⟨hmin, hmax⟩ := toNat_of_isAlphanum h
  have hblank : ¬ Text.isBlank c := by
    simp [Text.isBlank, Text.blankRanges]
    omega
  exact ⟨hblank, ne_of_isAlphanum h (by decide), ne_of_isAlphanum h (by decide)⟩

theorem not_isAlphanum_of_isBlank {c : Char} (h : Text.isBlank c) : ¬ c.isAlphanum :=
  fun hc => (solid_of_isAlphanum hc).1 h

theorem isAlphanum_of_isAlpha {c : Char} (h : c.isAlpha) : c.isAlphanum := by
  rw [Char.isAlphanum, h, Bool.true_or]

theorem isAlphanum_of_isDigit {c : Char} (h : c.isDigit) : c.isAlphanum := by
  rw [Char.isAlphanum, h, Bool.or_true]

/-- No digit is a letter. -/
theorem isAlpha_eq_false_of_isDigit {c : Char} (h : c.isDigit) : c.isAlpha = false := by
  unfold Char.isDigit at h
  unfold Char.isAlpha Char.isUpper Char.isLower
  simp only [Bool.and_eq_true, decide_eq_true_eq, ge_iff_le, UInt32.le_iff_toNat_le] at h
  simp [UInt32.le_iff_toNat_le] at h ⊢
  omega

/-! ## Reading without offsets -/

/-- What follows the gap at the start. -/
def afterGap (chars : List Char) : List Char :=
  (skipGapFrom .blanks [] 0 chars).after.rest

/-- The lexeme at the start, and what follows it. -/
def lexemeOf? (chars : List Char) : Option (Lexeme × List Char) :=
  (Cursor.lexeme? ⟨chars, 0⟩).map fun (lexeme, next) => (lexeme, next.rest)

/-- The tokens of a list of characters. -/
def tokensOf (chars : List Char) : List Token :=
  Cursor.tokens ⟨chars, 0⟩

/-- Offsets and boundaries are only noted while a gap is skipped. -/
theorem rest_skipGapFrom (mode : GapMode) (boundaries boundaries' : List Nat) (offset offset' : Nat)
    (chars : List Char) : (skipGapFrom mode boundaries offset chars).after.rest
      = (skipGapFrom mode boundaries' offset' chars).after.rest := by
  -- every character changes the offset, and some the mode, so all of them are generalized
  induction chars generalizing mode boundaries boundaries' offset offset' with
  | nil => rfl
  | cons c rest ih =>
    cases mode with
    | blanks =>
      simp only [skipGapFrom]
      split
      · exact ih ..
      · split
        · exact ih ..
        · split
          · exact ih ..
          · rfl
    | lineComment =>
      simp only [skipGapFrom]
      split <;> exact ih ..
    | blockComment =>
      simp only [skipGapFrom]
      split <;> exact ih ..

/-- What follows a gap depends on the characters alone. -/
theorem rest_skipGap (cursor : Cursor) : cursor.skipGap.after.rest = afterGap cursor.rest :=
  rest_skipGapFrom ..

/-- So does the lexeme that is read. -/
theorem lexeme?_map_rest (cursor : Cursor) :
    cursor.lexeme?.map (fun (lexeme, next) => (lexeme, next.rest)) = lexemeOf? cursor.rest := by
  obtain ⟨_ | ⟨c, rest⟩, offset⟩ := cursor
  · rfl
  · -- the same character decides on both sides what is read
    simp only [lexemeOf?, Cursor.lexeme?]
    split
    · rfl
    · split
      · rfl
      · split
        · rfl
        · split <;> rfl

/-- Without a lexeme behind the gap there are no tokens. -/
theorem tokens_eq_nil_of_lexemeOf? {cursor : Cursor} (h : lexemeOf? (afterGap cursor.rest) = none) :
    cursor.tokens = [] := by
  rw [← rest_skipGap, ← lexeme?_map_rest, Option.map_eq_none_iff] at h
  exact Cursor.tokens_eq_nil h

/-- The token of a lexeme stands in front of those of what follows it. -/
theorem tokens_eq_cons_of_lexemeOf? {cursor : Cursor} {lexeme : Lexeme} {rest : List Char}
    (h : lexemeOf? (afterGap cursor.rest) = some (lexeme, rest)) :
    ∃ next : Cursor, next.rest = rest ∧ next.rest.length < cursor.rest.length ∧
      cursor.tokens = Token.ofLexeme lexeme :: next.tokens := by
  rw [← rest_skipGap, ← lexeme?_map_rest, Option.map_eq_some_iff] at h
  obtain ⟨⟨found, next⟩, hnext, heq⟩ := h
  obtain ⟨rfl, hrest⟩ := Prod.mk.inj heq
  exact ⟨next, hrest, Nat.lt_of_lt_of_le (Cursor.length_lexeme?_lt hnext) cursor.length_skipGap_le,
    Cursor.tokens_eq_cons hnext⟩

/-- The tokens do not depend on where the text starts, nor on the gap at its start. -/
theorem tokens_eq_of_afterGap_eq {cursor other : Cursor}
    (h : afterGap cursor.rest = afterGap other.rest) : cursor.tokens = other.tokens := by
  cases hlexeme : lexemeOf? (afterGap cursor.rest) with
  | none =>
    rw [tokens_eq_nil_of_lexemeOf? hlexeme, tokens_eq_nil_of_lexemeOf? (h ▸ hlexeme)]
  | some read =>
    obtain ⟨lexeme, rest⟩ := read
    obtain ⟨next, hnext, hshorter, htokens⟩ := tokens_eq_cons_of_lexemeOf? hlexeme
    obtain ⟨next', hnext', -, htokens'⟩ := tokens_eq_cons_of_lexemeOf? (h ▸ hlexeme)
    -- behind the same lexeme the same characters are left, so their gaps end alike as well
    have hrest : next.tokens = next'.tokens :=
      tokens_eq_of_afterGap_eq (by rw [hnext, hnext'])
    rw [htokens, htokens', hrest]
  termination_by cursor.rest.length

/-- Where there is no gap, a lexeme gives the first token. -/
theorem tokensOf_eq_cons {chars rest : List Char} {lexeme : Lexeme}
    (hgap : afterGap chars = chars) (h : lexemeOf? chars = some (lexeme, rest)) :
    tokensOf chars = Token.ofLexeme lexeme :: tokensOf rest := by
  have hlexeme : lexemeOf? (afterGap (Cursor.mk chars 0).rest) = some (lexeme, rest) := by
    rw [hgap, h]
  obtain ⟨next, hnext, -, htokens⟩ := tokens_eq_cons_of_lexemeOf? hlexeme
  have hrest : next.tokens = tokensOf rest := tokens_eq_of_afterGap_eq (by rw [hnext])
  rw [tokensOf, htokens, hrest]

/-! ## Gaps -/

/-- A comment that is closed: from `%` through the end of the line, or between two `#`. -/
inductive Comment : List Char → Prop where
  | line (body : List Char) (h : '\n' ∉ body) : Comment ('%' :: (body ++ ['\n']))
  | block (body : List Char) (h : '#' ∉ body) : Comment ('#' :: (body ++ ['#']))

/-- Blanks and closed comments. -/
inductive ClosedGap : List Char → Prop where
  | nil : ClosedGap []
  | blank {c : Char} {gap : List Char} (hc : Text.isBlank c) (h : ClosedGap gap) : ClosedGap (c :: gap)
  | comment {comment gap : List Char} (hcomment : Comment comment) (h : ClosedGap gap) :
      ClosedGap (comment ++ gap)

theorem afterGap_blank {c : Char} (hc : Text.isBlank c) (rest : List Char) :
    afterGap (c :: rest) = afterGap rest := by
  rw [afterGap, skipGapFrom]
  simp only [hc, if_true]
  exact rest_skipGapFrom ..

/-- The character that closes a comment. -/
def GapMode.closer? : GapMode → Option Char
  | blanks => none
  | lineComment => some '\n'
  | blockComment => some '#'

/-- The character that closes a comment ends it. -/
theorem skipGapFrom_closer {mode : GapMode} {closer : Char} (hmode : mode.closer? = some closer)
    (boundaries : List Nat) (offset : Nat) (rest : List Char) :
    (skipGapFrom mode boundaries offset (closer :: rest)).after.rest = afterGap rest := by
  cases mode with
  | blanks => cases hmode
  | lineComment =>
    cases hmode
    rw [skipGapFrom, if_pos rfl]
    exact rest_skipGapFrom ..
  | blockComment =>
    cases hmode
    rw [skipGapFrom, if_pos rfl]
    exact rest_skipGapFrom ..

/-- In a comment a character that does not close it is passed over. -/
theorem skipGapFrom_cons {mode : GapMode} {closer c : Char} (hmode : mode.closer? = some closer)
    (hc : c ≠ closer) (boundaries : List Nat) (offset : Nat) (rest : List Char) :
    skipGapFrom mode boundaries offset (c :: rest)
      = skipGapFrom mode boundaries (offset + c.utf8Size) rest := by
  cases mode with
  | blanks => cases hmode
  | lineComment =>
    cases hmode
    rw [skipGapFrom, if_neg hc]
  | blockComment =>
    cases hmode
    rw [skipGapFrom, if_neg hc]

/-- The body of a comment is passed over. -/
theorem skipGapFrom_append {mode : GapMode} {closer : Char} (hmode : mode.closer? = some closer)
    {body : List Char} (h : closer ∉ body) (boundaries : List Nat) (offset : Nat) (rest : List Char) :
    skipGapFrom mode boundaries offset (body ++ rest)
      = skipGapFrom mode boundaries (offset + Text.byteLength body) rest := by
  induction body generalizing offset with
  | nil => rfl
  | cons c body ih =>
    obtain ⟨hc, hbody⟩ := not_or.1 (fun hmem => h (List.mem_cons.2 hmem))
    rw [List.cons_append, skipGapFrom_cons hmode (Ne.symm hc), ih hbody, Nat.add_assoc]
    rfl

/-- It is passed over to the first character that closes it. -/
theorem skipGapFrom_body {mode : GapMode} {closer : Char} (hmode : mode.closer? = some closer)
    {body : List Char} (h : closer ∉ body) (boundaries : List Nat) (offset : Nat) (rest : List Char) :
    (skipGapFrom mode boundaries offset (body ++ closer :: rest)).after.rest = afterGap rest := by
  rw [skipGapFrom_append hmode h, skipGapFrom_closer hmode]

/-- A closed comment belongs to the gap. -/
theorem afterGap_comment {comment : List Char} (h : Comment comment) (rest : List Char) :
    afterGap (comment ++ rest) = afterGap rest := by
  cases h with
  | line body hbody =>
    have hmode : GapMode.lineComment.closer? = some '\n' := rfl
    rw [List.cons_append, List.append_assoc]
    exact skipGapFrom_body hmode hbody [] _ rest
  | block body hbody =>
    have hmode : GapMode.blockComment.closer? = some '#' := rfl
    rw [List.cons_append, List.append_assoc]
    exact skipGapFrom_body hmode hbody [] _ rest

/-- All of a closed gap is skipped. -/
theorem afterGap_append {gap : List Char} (h : ClosedGap gap) (rest : List Char) :
    afterGap (gap ++ rest) = afterGap rest := by
  induction h with
  | nil => rfl
  | blank hc _ ih =>
    rw [List.cons_append, afterGap_blank hc, ih]
  | comment hcomment _ ih => rw [List.append_assoc, afterGap_comment hcomment, ih]

/-- **A closed gap has no tokens.** -/
theorem tokensOf_gap {gap : List Char} (h : ClosedGap gap) (rest : List Char) :
    tokensOf (gap ++ rest) = tokensOf rest :=
  tokens_eq_of_afterGap_eq (afterGap_append h rest)

/-! ## Symbols -/

/-- What is written is a symbol if `rest` follows: a word or a number that does not go on, or another
character that does not begin a gap. -/
inductive Spelled (rest : List Char) : List Char → Prop where
  | word {c : Char} {body : List Char} (hc : c.isAlpha) (hbody : ∀ d ∈ body, d.isAlphanum)
      (hend : ∀ d ∈ rest.head?, ¬ d.isAlphanum) : Spelled rest (c :: body)
  | number {c : Char} {body : List Char} (hc : c.isDigit) (hbody : ∀ d ∈ body, d.isDigit)
      (hend : ∀ d ∈ rest.head?, ¬ d.isDigit) : Spelled rest (c :: body)
  | single {c : Char} (hc : ¬ c.isAlphanum) (hsolid : Solid c) : Spelled rest [c]

/-- What follows instead begins with the same character, or with one that makes no symbol longer. -/
def Unextended (rest rest' : List Char) : Prop :=
  rest'.head? = rest.head? ∨ ∀ c ∈ rest'.head?, ¬ c.isAlphanum

/-- A closed gap makes no symbol longer. -/
theorem unextended_of_closedGap {gap : List Char} (h : ClosedGap gap) (hne : gap ≠ [])
    (rest rest' : List Char) : Unextended rest (gap ++ rest') := by
  have hfirst : ∀ {c : Char} {others : List Char}, ¬ c.isAlphanum → Unextended rest (c :: others) :=
    fun hc => .inr fun d hd => by cases hd; exact hc
  cases h with
  | nil => exact absurd rfl hne
  | blank hc _ => exact hfirst (not_isAlphanum_of_isBlank hc)
  | comment hcomment _ =>
    cases hcomment with
    | line body _ => exact hfirst (by decide)
    | block body _ => exact hfirst (by decide)

/-- No gap is skipped in front of a character that begins none. -/
theorem afterGap_of_solid {c : Char} (hc : Solid c) (rest : List Char) :
    afterGap (c :: rest) = c :: rest := by
  obtain ⟨hblank, hline, hblock⟩ := hc
  rw [afterGap, skipGapFrom]
  simp only [hblank, hline, hblock, Bool.false_eq_true, if_false]

/-- A run of characters ends where it is written to. -/
theorem takeRun_append {test : Char → Bool} {c : Char} {body rest : List Char}
    (hrun : ∀ d ∈ c :: body, test d) (hend : ∀ d ∈ rest.head?, ¬ test d) (offset : Nat) :
    (Cursor.takeRun ⟨c :: body ++ rest, offset⟩ test).1 = String.ofList (c :: body) ∧
      (Cursor.takeRun ⟨c :: body ++ rest, offset⟩ test).2.rest = rest := by
  -- the run takes all of its characters, and none of what follows
  have hnone : rest.takeWhile test = [] ∧ rest.dropWhile test = rest := by
    cases rest with
    | nil => exact ⟨rfl, rfl⟩
    | cons d rest =>
      have hd : ¬ test d := hend d rfl
      exact ⟨List.takeWhile_cons_of_neg hd, List.dropWhile_cons_of_neg hd⟩
  rw [Cursor.takeRun]
  refine ⟨?_, ?_⟩
  · rw [List.takeWhile_append_of_pos hrun, hnone.1, List.append_nil]
  · show (c :: body ++ rest).dropWhile test = rest
    rw [List.dropWhile_append_of_pos hrun, hnone.2]

/-- A word is read up to its end. -/
theorem lexemeOf_word {c : Char} {body rest : List Char} (hc : c.isAlpha)
    (hbody : ∀ d ∈ body, d.isAlphanum) (hend : ∀ d ∈ rest.head?, ¬ d.isAlphanum) :
    lexemeOf? (c :: body ++ rest) = some (.word (String.ofList (c :: body)), rest) := by
  have halphanum := isAlphanum_of_isAlpha hc
  obtain ⟨htext, hnext⟩ := takeRun_append (List.forall_mem_cons.2 ⟨halphanum, hbody⟩) hend 0
  have hdot : c ≠ '.' := ne_of_isAlphanum halphanum (by decide)
  have hsemicolon : c ≠ ';' := ne_of_isAlphanum halphanum (by decide)
  rw [List.cons_append] at htext hnext ⊢
  simp only [lexemeOf?, Cursor.lexeme?, hdot, hsemicolon, hc, if_false, if_true, Option.map_some, htext,
    hnext]

/-- A number is read up to its end. -/
theorem lexemeOf_number {c : Char} {body rest : List Char} (hc : c.isDigit)
    (hbody : ∀ d ∈ body, d.isDigit) (hend : ∀ d ∈ rest.head?, ¬ d.isDigit) :
    lexemeOf? (c :: body ++ rest) = some (.number (String.ofList (c :: body)), rest) := by
  have halphanum := isAlphanum_of_isDigit hc
  obtain ⟨htext, hnext⟩ := takeRun_append (List.forall_mem_cons.2 ⟨hc, hbody⟩) hend 0
  have hdot : c ≠ '.' := ne_of_isAlphanum halphanum (by decide)
  have hsemicolon : c ≠ ';' := ne_of_isAlphanum halphanum (by decide)
  have hletter : c.isAlpha = false := isAlpha_eq_false_of_isDigit hc
  rw [List.cons_append] at htext hnext ⊢
  simp only [lexemeOf?, Cursor.lexeme?, hdot, hsemicolon, hletter, hc, Bool.false_eq_true, if_false,
    if_true, Option.map_some, htext, hnext]

/-- A character that is no part of a word or a number is a lexeme by itself. -/
theorem lexemeOf_single {c : Char} (hc : ¬ c.isAlphanum) :
    ∃ lexeme, ∀ rest, lexemeOf? (c :: rest) = some (lexeme, rest) := by
  rw [Char.isAlphanum, Bool.or_eq_true, not_or] at hc
  obtain ⟨hletter, hdigit⟩ := hc
  simp only [lexemeOf?, Cursor.lexeme?, hletter, hdigit, Bool.false_eq_true, if_false]
  by_cases hdot : c = '.'
  · exact ⟨.fullStop, fun rest => by simp [hdot]⟩
  · by_cases hsemicolon : c = ';'
    · exact ⟨.semicolon, fun rest => by simp [hsemicolon]⟩
    · exact ⟨.stray c, fun rest => by simp [hdot, hsemicolon]⟩

/-- **Symbols.** What is spelled is read as one lexeme, whatever follows that does not extend it. -/
theorem lexemeOf_spelled {written rest : List Char} (h : Spelled rest written) :
    ∃ lexeme, ∀ rest', Unextended rest rest' →
      afterGap (written ++ rest') = written ++ rest' ∧
        lexemeOf? (written ++ rest') = some (lexeme, rest') := by
  cases h with
  | @word c body hc hbody hend =>
    refine ⟨.word (String.ofList (c :: body)), fun rest' hrest' =>
      ⟨afterGap_of_solid (solid_of_isAlphanum (isAlphanum_of_isAlpha hc)) _,
        lexemeOf_word hc hbody ?_⟩⟩
    rcases hrest' with hsame | hother
    · rw [hsame]
      exact hend
    · exact hother
  | @number c body hc hbody hend =>
    refine ⟨.number (String.ofList (c :: body)), fun rest' hrest' =>
      ⟨afterGap_of_solid (solid_of_isAlphanum (isAlphanum_of_isDigit hc)) _,
        lexemeOf_number hc hbody ?_⟩⟩
    rcases hrest' with hsame | hother
    · rw [hsame]
      exact hend
    · exact fun d hd hdigit => hother d hd (isAlphanum_of_isDigit hdigit)
  | @single c hc hsolid =>
    obtain ⟨lexeme, hlexeme⟩ := lexemeOf_single hc
    exact ⟨lexeme, fun rest' _ => ⟨afterGap_of_solid hsolid rest', hlexeme rest'⟩⟩

/-! ## Places between symbols -/

/-- The reading of a text comes to stand in front of what is left, between symbols and outside of
comments. -/
inductive Stands (text : List Char) : List Char → Prop where
  | start : Stands text text
  | gap {gap rest : List Char} (h : Stands text (gap ++ rest)) (hgap : ClosedGap gap) :
      Stands text rest
  | symbol {written rest : List Char} (h : Stands text (written ++ rest))
      (hspelled : Spelled rest written) : Stands text rest

/-- A run of characters and what follows it, which does not go on with the run. -/
theorem exists_run (test : Char → Bool) (chars : List Char) :
    ∃ run rest, chars = run ++ rest ∧ (∀ d ∈ run, test d) ∧ ∀ d ∈ rest.head?, ¬ test d := by
  refine ⟨chars.takeWhile test, chars.dropWhile test, List.takeWhile_append_dropWhile.symm,
    fun d hd => List.mem_takeWhile_imp hd, fun d hd => ?_⟩
  have hnot := List.head?_dropWhile_not test chars
  rw [hd] at hnot
  simpa using hnot

/-- A text that does not start with a comment that runs on starts with a gap or with a symbol. -/
theorem exists_gap_or_spelled {c : Char} {others : List Char} (hline : c = '%' → '\n' ∈ others)
    (hblock : c = '#' → '#' ∈ others) : ∃ written rest, c :: others = written ++ rest ∧ written ≠ [] ∧
      (ClosedGap written ∨ Spelled rest written) := by
  by_cases hblank : Text.isBlank c
  · exact ⟨[c], others, rfl, List.cons_ne_nil _ _, .inl (.blank hblank .nil)⟩
  · -- a comment ends at the first character that can close it
    by_cases hpercent : c = '%'
    · obtain ⟨body, rest, rfl, hbody⟩ := List.eq_append_cons_of_mem (hline hpercent)
      subst hpercent
      refine ⟨'%' :: (body ++ ['\n']) ++ [], rest, by simp, by simp, .inl (.comment (.line body hbody) .nil)⟩
    · by_cases hhash : c = '#'
      · obtain ⟨body, rest, rfl, hbody⟩ := List.eq_append_cons_of_mem (hblock hhash)
        subst hhash
        exact ⟨'#' :: (body ++ ['#']) ++ [], rest, by simp, by simp,
          .inl (.comment (.block body hbody) .nil)⟩
      · -- what begins no gap is a symbol, as long as the run of its characters
        by_cases hletter : c.isAlpha
        · obtain ⟨body, rest, rfl, hbody, hend⟩ := exists_run Char.isAlphanum others
          exact ⟨c :: body, rest, rfl, List.cons_ne_nil _ _, .inr (.word hletter hbody hend)⟩
        · by_cases hdigit : c.isDigit
          · obtain ⟨body, rest, rfl, hbody, hend⟩ := exists_run Char.isDigit others
            exact ⟨c :: body, rest, rfl, List.cons_ne_nil _ _, .inr (.number hdigit hbody hend)⟩
          · have hother : ¬ c.isAlphanum := by simp [Char.isAlphanum, hletter, hdigit]
            exact ⟨[c], others, rfl, List.cons_ne_nil _ _,
              .inr (.single hother ⟨hblank, hpercent, hhash⟩)⟩

/-- **Every text** is read place by place, until it ends or a comment is not closed in it. -/
theorem Stands.next {text rest : List Char} (h : Stands text rest) :
    rest = [] ∨ (∃ body, rest = '%' :: body ∧ '\n' ∉ body) ∨ (∃ body, rest = '#' :: body ∧ '#' ∉ body) ∨
      ∃ rest', Stands text rest' ∧ rest'.length < rest.length := by
  cases rest with
  | nil => exact .inl rfl
  | cons c others =>
    refine .inr ?_
    by_cases hline : c = '%' ∧ '\n' ∉ others
    · exact .inl ⟨others, by rw [hline.1], hline.2⟩
    · by_cases hblock : c = '#' ∧ '#' ∉ others
      · exact .inr (.inl ⟨others, by rw [hblock.1], hblock.2⟩)
      · rw [not_and, not_not] at hline hblock
        -- no comment runs on from here, so there is something to pass over
        obtain ⟨written, rest, hrest, hne, hwritten⟩ := exists_gap_or_spelled hline hblock
        rw [hrest] at h
        have hpos := List.length_pos_iff.2 hne
        refine .inr (.inr ⟨rest, ?_, by rw [hrest, List.length_append]; omega⟩)
        rcases hwritten with hgap | hspelled
        · exact .gap h hgap
        · exact .symbol h hspelled

/-- Behind a closed gap may stand what would extend the symbol in front of the gap. -/
theorem unextended_gap {gap : List Char} (h : ClosedGap gap) {rest rest' : List Char}
    (hrest : Unextended rest rest') : Unextended (gap ++ rest) (gap ++ rest') := by
  cases gap with
  | nil => exact hrest
  | cons c others => exact .inl rfl

/-- A symbol is followed by itself, whatever follows it. -/
theorem unextended_spelled {written rest rest' : List Char} (h : Spelled rest written) :
    Unextended (written ++ rest) (written ++ rest') := by
  cases h <;> exact .inl rfl

/-- **Places.** What is in front of a place has its tokens, whatever follows that extends no symbol. -/
theorem Stands.exists_tokens {text rest : List Char} (h : Stands text rest) :
    ∃ front tokens, text = front ++ rest ∧ ∀ rest', Unextended rest rest' →
      tokensOf (front ++ rest') = tokens ++ tokensOf rest' := by
  induction h with
  | start => exact ⟨[], [], rfl, fun _ _ => rfl⟩
  | @gap gap rest _ hgap ih =>
    obtain ⟨front, tokens, rfl, htokens⟩ := ih
    refine ⟨front ++ gap, tokens, (List.append_assoc ..).symm, fun rest' hrest' => ?_⟩
    -- what follows the place in front of the gap is the gap, then what follows now
    rw [List.append_assoc, htokens _ (unextended_gap hgap hrest'), tokensOf_gap hgap]
  | @symbol written rest _ hspelled ih =>
    obtain ⟨front, tokens, rfl, htokens⟩ := ih
    obtain ⟨lexeme, hlexeme⟩ := lexemeOf_spelled hspelled
    refine ⟨front ++ written, tokens ++ [Token.ofLexeme lexeme], (List.append_assoc ..).symm,
      fun rest' hrest' => ?_⟩
    obtain ⟨hgap, hread⟩ := hlexeme rest' hrest'
    rw [List.append_assoc, htokens _ (unextended_spelled hspelled), tokensOf_eq_cons hgap hread,
      List.append_assoc]
    rfl

/-- The tokens in front of a place stay as they are, and the others are those of what follows. -/
theorem Stands.exists_tokensOf {front rest : List Char} (h : Stands (front ++ rest) rest) :
    ∃ tokens, ∀ rest', Unextended rest rest' →
      tokensOf (front ++ rest') = tokens ++ tokensOf rest' := by
  obtain ⟨front', tokens, heq, htokens⟩ := h.exists_tokens
  rw [List.append_cancel_right heq]
  exact ⟨tokens, htokens⟩

/-- **Comments can be replaced** by any gap that is closed and not empty. -/
theorem tokensOf_replace {front comment gap rest : List Char}
    (h : Stands (front ++ (comment ++ rest)) (comment ++ rest)) (hcomment : Comment comment)
    (hgap : ClosedGap gap) (hne : gap ≠ []) :
    tokensOf (front ++ (gap ++ rest)) = tokensOf (front ++ (comment ++ rest)) := by
  obtain ⟨tokens, htokens⟩ := h.exists_tokensOf
  -- the comment itself is closed, so both texts have the tokens of what follows it
  have hgapRest := unextended_of_closedGap hgap hne (comment ++ rest) rest
  have hclosed : ClosedGap comment := by
    rw [← List.append_nil comment]
    exact .comment hcomment .nil
  rw [htokens _ hgapRest, htokens _ (.inl rfl), tokensOf_gap hgap, tokensOf_gap hclosed]

/-- **Gaps can be inserted** behind a symbol if they are closed. -/
theorem tokensOf_insert {front written gap rest : List Char}
    (h : Stands (front ++ (written ++ rest)) (written ++ rest)) (hspelled : Spelled rest written)
    (hgap : ClosedGap gap) :
    tokensOf (front ++ (written ++ (gap ++ rest))) = tokensOf (front ++ (written ++ rest)) := by
  have hbehind : Stands (front ++ written ++ rest) rest := by
    rw [List.append_assoc]
    exact .symbol h hspelled
  obtain ⟨tokens, htokens⟩ := hbehind.exists_tokensOf
  have hgapRest : Unextended rest (gap ++ rest) := by
    by_cases hne : gap = []
    · subst hne
      exact .inl rfl
    · exact unextended_of_closedGap hgap hne rest rest
  rw [← List.append_assoc, htokens _ hgapRest, ← List.append_assoc, htokens _ (.inl rfl),
    tokensOf_gap hgap]

end LogicCircuit.Definition
