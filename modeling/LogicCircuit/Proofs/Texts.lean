import LogicCircuit.Text.Count
import LogicCircuit.Text.Quoted
import LogicCircuit.Text.Terminal
import Mathlib.Data.List.Induction
import Mathlib.Data.Nat.Digits.Defs

/-!
# Texts — numbers that are read, and texts that are shown

* **`Decimal.exists_zeros`** — a literal is the decimal spelling of its value, but for zeros in front of it.
* **`Text.readCount_eq_ok_iff`** — which arguments are counts.
* **`Text.quote_injective`** — a quoted text stays on its line, and tells what has been quoted.
* **`Text.Terminal.shows_of_mem_plain`** — no control sequence is left in a plain text, and one without control
  characters is left as it is.
-/

namespace LogicCircuit

/-! ## Numbers -/

namespace Decimal

variable {digits : List Char} {c : Char}

/-- A digit more at the end is one decimal place more. -/
theorem value_append_singleton (digits : List Char) (c : Char) :
    value (digits ++ [c]) = 10 * value digits + digitValue c := by
  simp [value]

/-- The last digit counts least. -/
theorem value_eq_ofDigits (digits : List Char) :
    value digits = Nat.ofDigits 10 (digits.reverse.map digitValue) := by
  induction digits using List.reverseRecOn with
  | nil => rfl
  | append_singleton front c ih =>
    rw [value_append_singleton, ih, List.reverse_append, List.reverse_singleton, List.singleton_append,
      List.map_cons, Nat.ofDigits_cons, Nat.add_comm]

/-- The value of a digit, and the digit of that value. -/
theorem digitValue_lt (hc : c.isDigit) : digitValue c < 10 ∧ Nat.digitChar (digitValue c) = c := by
  rw [Char.isDigit, Bool.and_eq_true, decide_eq_true_eq, decide_eq_true_eq] at hc
  have hlow : 48 ≤ c.toNat := hc.1
  have hhigh : c.toNat ≤ 57 := hc.2
  have hvalue : digitValue c = c.toNat - 48 := rfl
  refine ⟨by omega, Char.toNat_inj.1 ?_⟩
  rw [Nat.toNat_digitChar_of_lt_ten (by omega)]
  omega

theorem isLiteral_iff : isLiteral digits ↔ digits ≠ [] ∧ ∀ c ∈ digits, c.isDigit := by
  simp [isLiteral]

/-- **A literal** is the decimal spelling of its value, with any number of zeros in front of it. -/
theorem exists_zeros (h : isLiteral digits) :
    ∃ zeros, digits = List.replicate zeros '0' ++ Nat.toDigits 10 (value digits) := by
  induction digits using List.reverseRecOn with
  | nil => cases h
  | append_singleton front c ih =>
    obtain ⟨-, hdigits⟩ := isLiteral_iff.1 h
    obtain ⟨hlt, hchar⟩ := digitValue_lt (hdigits c (by simp))
    rw [value_append_singleton]
    cases front with
    | nil => exact ⟨0, by simp [value, Nat.toDigits_of_lt_base hlt, hchar]⟩
    | cons first others =>
      obtain ⟨zeros, hzeros⟩ := ih (isLiteral_iff.2 ⟨List.cons_ne_nil _ _, fun d hd =>
        hdigits d (List.mem_append_left _ hd)⟩)
      rcases Nat.eq_zero_or_pos (value (first :: others)) with hvalue | hpos
      · -- so far there are zeros only, of which the last is the spelling of 0
        rw [hvalue, Nat.toDigits_zero, ← List.replicate_succ'] at hzeros
        refine ⟨zeros + 1, ?_⟩
        rw [hvalue, Nat.mul_zero, Nat.zero_add, Nat.toDigits_of_lt_base hlt, hchar, ← hzeros]
      · refine ⟨zeros, ?_⟩
        rw [← Nat.toDigits_append_toDigits (by decide) hpos hlt, Nat.toDigits_of_lt_base hlt, hchar,
          ← List.append_assoc, ← hzeros]

end Decimal

namespace Text

/-! ## Counts -/

/-- A number does not get smaller by reading on. -/
theorem le_ofDigitChars (before : Nat) (chars : List Char) : before ≤ Nat.ofDigitChars 10 chars before := by
  induction chars generalizing before with
  | nil => exact Nat.le_refl before
  | cons c rest ih =>
    rw [Nat.ofDigitChars_cons]
    exact Nat.le_trans (by omega) (ih _)

/-- Digits are read on as long as the number fits, and it does not get smaller. -/
theorem readDigits_eq_ok_iff {before n : Nat} (hbefore : before ≤ Decimal.maxCount) (chars : List Char) :
    readDigits before chars = .ok n ↔ (∀ c ∈ chars, c.isDigit) ∧ n ≤ Decimal.maxCount ∧
      n = Nat.ofDigitChars 10 chars before := by
  induction chars generalizing before with
  | nil =>
    rw [readDigits, Except.ok.injEq, Nat.ofDigitChars_nil]
    constructor
    · rintro rfl
      exact ⟨by simp, hbefore, rfl⟩
    · rintro ⟨-, -, rfl⟩
      rfl
  | cons c rest ih =>
    have hstep : Nat.ofDigitChars 10 (c :: rest) before
        = Nat.ofDigitChars 10 rest (10 * before + Decimal.digitValue c) := Nat.ofDigitChars_cons
    rw [readDigits, List.forall_mem_cons, hstep]
    dsimp only
    by_cases hdigit : c.isDigit
    · rw [if_pos hdigit]
      by_cases hlarge : Decimal.maxCount < 10 * before + Decimal.digitValue c
      · -- the number is too large by now, and more digits make it no smaller
        have hgrows := le_ofDigitChars (10 * before + Decimal.digitValue c) rest
        rw [if_pos hlarge]
        refine ⟨nofun, ?_⟩
        rintro ⟨-, hmax, rfl⟩
        omega
      · rw [if_neg hlarge, ih (Nat.le_of_not_lt hlarge)]
        simp [hdigit]
    · rw [if_neg hdigit]
      exact ⟨nofun, fun h => absurd h.1.1 hdigit⟩

/-- **Counts** are digits, perhaps after a plus sign, whose value has 64 bits. -/
theorem readCount_eq_ok_iff {text : String} {n : Nat} : readCount text = .ok n ↔
    ∃ digits, (text.toList = digits ∨ text.toList = '+' :: digits) ∧ Decimal.isLiteral digits ∧
      n = Decimal.value digits ∧ n ≤ Decimal.maxCount := by
  have hread {digits : List Char} (hdigits : digits ≠ []) : readDigits 0 digits = .ok n ↔
      Decimal.isLiteral digits ∧ n = Decimal.value digits ∧ n ≤ Decimal.maxCount := by
    rw [readDigits_eq_ok_iff (Nat.zero_le _), Decimal.isLiteral_iff, Decimal.value_eq_ofDigitChars]
    tauto
  -- the sign is no digit, so no literal begins with it
  have hplus (rest : List Char) : ¬ Decimal.isLiteral ('+' :: rest) := by
    rw [Decimal.isLiteral_iff, List.forall_mem_cons]
    rintro ⟨-, hdigit, -⟩
    cases hdigit
  unfold readCount
  split
  · next hnil =>
    refine ⟨nofun, ?_⟩
    rintro ⟨digits, hdigits | hdigits, hliteral, -⟩
    · rw [hnil] at hdigits
      subst hdigits
      cases hliteral
    · rw [hnil] at hdigits
      cases hdigits
  · next hsign =>
    refine ⟨nofun, ?_⟩
    rintro ⟨digits, hdigits | hdigits, hliteral, -⟩
    · rw [hsign] at hdigits
      exact absurd (hdigits ▸ hliteral) (hplus [])
    · rw [hsign] at hdigits
      cases hdigits
      cases hliteral
  · next digits hne hchars =>
    rw [hread (by rintro rfl; exact hne rfl)]
    constructor
    · intro h
      exact ⟨digits, .inr hchars, h⟩
    · -- what begins with the sign is read behind it, and is no literal as a whole
      rintro ⟨found, hfound | hfound, hliteral, h⟩
      · rw [hchars] at hfound
        exact absurd (hfound ▸ hliteral) (hplus digits)
      · rw [hchars] at hfound
        cases hfound
        exact ⟨hliteral, h⟩
  · next hne hsign hplain =>
    rw [hread hne]
    constructor
    · intro h
      exact ⟨_, .inl rfl, h⟩
    · rintro ⟨found, rfl | hfound, h⟩
      · exact h
      · exact absurd hfound (hplain found)

/-! ## Quoted texts -/

section Hexadecimal

/-- The digits of a number are digits of its base. -/
theorem mem_toDigits {base n : Nat} (hbase : 1 < base) {c : Char} (h : c ∈ Nat.toDigits base n) :
    ∃ digit < base, c = Nat.digitChar digit := by
  induction n using Nat.strongRecOn with
  | _ n ih =>
    rw [Nat.toDigits_eq_if hbase] at h
    split at h
    · next hlt => exact ⟨n, hlt, List.mem_singleton.1 h⟩
    · next hle =>
      have hpos : 0 < n := by omega
      rcases List.mem_append.1 h with hfront | hlast
      · exact ih _ (Nat.div_lt_self hpos hbase) hfront
      · exact ⟨n % base, Nat.mod_lt _ (by omega), List.mem_singleton.1 hlast⟩

theorem digitChar_inj : ∀ digit < 16, ∀ other < 16, Nat.digitChar digit = Nat.digitChar other →
    digit = other := by
  decide +kernel

theorem digitChar_ne_brace : ∀ digit < 16, decide (Nat.digitChar digit ≠ '\x7d') = true := by
  decide +kernel

/-- The digits of a number tell the number. -/
theorem toDigits_inj {m n : Nat} (h : Nat.toDigits 16 m = Nat.toDigits 16 n) : m = n := by
  induction m using Nat.strongRecOn generalizing n with
  | _ m ih =>
    -- both end with their last digit, or both numbers are digits
    rw [Nat.toDigits_eq_if (by decide), Nat.toDigits_eq_if (by decide) (n := n)] at h
    by_cases hm : m < 16
    · by_cases hn : n < 16
      · rw [if_pos hm, if_pos hn, List.singleton_inj] at h
        exact digitChar_inj m hm n hn h
      · rw [if_pos hm, if_neg hn, ← List.nil_append [m.digitChar]] at h
        exact absurd (List.append_inj_left' h rfl).symm Nat.toDigits_ne_nil
    · by_cases hn : n < 16
      · rw [if_neg hm, if_pos hn, ← List.nil_append [n.digitChar]] at h
        exact absurd (List.append_inj_left' h rfl) Nat.toDigits_ne_nil
      · rw [if_neg hm, if_neg hn] at h
        have hfront := ih (m / 16) (by omega) (List.append_inj_left' h rfl)
        have hlast := digitChar_inj (m % 16) (by omega) (n % 16) (by omega)
          (List.singleton_inj.1 (List.append_inj_right' h rfl))
        omega

end Hexadecimal

/-- What a quoted character is told by: the character itself, or the digits of its code point. -/
def quoteKey (c : Char) : Char ⊕ List Char :=
  if c ∈ ['"', '\\', '\x00', '\t', '\n', '\r'] ∨ isPrintable c then .inl c
  else .inr (Nat.toDigits 16 c.toNat)

/-- Takes a quoted character from the front of a quoted text. -/
def readQuoted : List Char → (Char ⊕ List Char) × List Char
  | '\\' :: 'u' :: '\x7b' :: rest =>
    (.inr (rest.takeWhile (· ≠ '\x7d')), (rest.dropWhile (· ≠ '\x7d')).tail)
  | '\\' :: '0' :: rest => (.inl '\x00', rest)
  | '\\' :: 't' :: rest => (.inl '\t', rest)
  | '\\' :: 'n' :: rest => (.inl '\n', rest)
  | '\\' :: 'r' :: rest => (.inl '\r', rest)
  | '\\' :: c :: rest => (.inl c, rest)
  | c :: rest => (.inl c, rest)
  | [] => (.inr [], [])

/-- **A quoted character** can be told from what is behind it. -/
theorem readQuoted_append (c : Char) (rest : List Char) :
    readQuoted (quoteChar c ++ rest) = (quoteKey c, rest) := by
  unfold quoteChar
  split
  · next h => subst h; rfl
  split
  · next h => subst h; rfl
  split
  · next h => subst h; rfl
  split
  · next h => subst h; rfl
  split
  · next h => subst h; rfl
  split
  · next h => subst h; rfl
  -- what is left is shown as it is or by its code point
  next hquote hslash hnul htab hline hreturn =>
  have hspecial : c ∉ ['"', '\\', '\x00', '\t', '\n', '\r'] := by
    simp [hquote, hslash, hnul, htab, hline, hreturn]
  split
  · next hprint =>
    rw [quoteKey, if_pos (.inr hprint), List.singleton_append, readQuoted]
    all_goals
      intros
      contradiction
  · next hprint =>
    -- the closing brace ends the code point, as it is none of its digits
    have hdigits : ∀ c' ∈ Nat.toDigits 16 c.toNat, decide (c' ≠ '\x7d') = true := by
      intro c' hmem
      obtain ⟨digit, hdigit, rfl⟩ := mem_toDigits (by decide) hmem
      exact digitChar_ne_brace digit hdigit
    rw [quoteKey, if_neg (not_or.2 ⟨hspecial, hprint⟩), codePoint]
    simp only [List.cons_append, List.nil_append, List.append_assoc, readQuoted]
    rw [List.takeWhile_append_of_pos hdigits, List.dropWhile_append_of_pos hdigits]
    simp

/-- The key tells the character. -/
theorem quoteKey_injective {c c' : Char} (h : quoteKey c = quoteKey c') : c = c' := by
  unfold quoteKey at h
  split at h
  · split at h
    · exact Sum.inl.inj h
    · cases h
  · split at h
    · cases h
    · exact Char.toNat_inj.1 (toDigits_inj (Sum.inr.inj h))

/-- The characters are told one after the other. -/
theorem flatMap_quoteChar_injective {chars others : List Char}
    (h : chars.flatMap quoteChar = others.flatMap quoteChar) : chars = others := by
  -- a quoted character is never empty, since something can be read from it
  have hne (c : Char) (rest : List Char) : quoteChar c ++ rest ≠ [] := by
    intro hnil
    have hread := readQuoted_append c rest
    rw [hnil, readQuoted, Prod.mk.injEq, quoteKey] at hread
    split at hread
    · cases hread.1
    · exact Nat.toDigits_ne_nil (Sum.inr.inj hread.1).symm
  induction chars generalizing others with
  | nil =>
    cases others with
    | nil => rfl
    | cons c' others =>
      rw [List.flatMap_cons] at h
      exact absurd h.symm (hne c' _)
  | cons c chars ih =>
    cases others with
    | nil =>
      rw [List.flatMap_cons] at h
      exact absurd h (hne c _)
    | cons c' others =>
      rw [List.flatMap_cons, List.flatMap_cons] at h
      have hread := congrArg readQuoted h
      rw [readQuoted_append, readQuoted_append, Prod.mk.injEq] at hread
      rw [quoteKey_injective hread.1, ih hread.2]

/-- **A quoted text** tells what has been quoted. -/
theorem quote_injective {text other : String} (h : quote text = quote other) : text = other := by
  rw [quote, quote, String.ofList_inj, List.cons_append, List.cons_append, List.cons.injEq] at h
  exact String.toList_inj.1 (flatMap_quoteChar_injective (List.append_cancel_right h.2))

theorem isPrintable_digitChar : ∀ digit < 16, isPrintable (Nat.digitChar digit) := by
  decide +kernel

/-- Nothing that is shown of a quoted character needs to be quoted. -/
theorem isPrintable_of_mem_quoteChar {c shown : Char} (h : shown ∈ quoteChar c) : isPrintable shown := by
  have hletters : ['"', '\\', '0', 't', 'n', 'r'].all isPrintable := by
    decide +kernel
  have hframe : ['\\', 'u', '\x7b', '\x7d'].all isPrintable := by
    decide +kernel
  rw [List.all_eq_true] at hletters hframe
  have hescape : ∀ letter, letter ∈ ['"', '\\', '0', 't', 'n', 'r'] →
      ∀ shown, shown ∈ ['\\', letter] → isPrintable shown := by
    intro letter hletter shown hshown
    rcases List.mem_cons.1 hshown with rfl | hlast
    · exact hframe '\\' (by simp)
    · rw [List.mem_singleton.1 hlast]
      exact hletters letter hletter
  unfold quoteChar at h
  split at h
  · exact hescape '"' (by simp) shown h
  split at h
  · exact hescape '\\' (by simp) shown h
  split at h
  · exact hescape '0' (by simp) shown h
  split at h
  · exact hescape 't' (by simp) shown h
  split at h
  · exact hescape 'n' (by simp) shown h
  split at h
  · exact hescape 'r' (by simp) shown h
  split at h
  · next hprint =>
    rw [List.mem_singleton.1 h]
    exact hprint
  · rw [codePoint, List.append_assoc] at h
    rcases List.mem_append.1 h with hopen | hrest
    · exact hframe shown (List.mem_append_left ['\x7d'] hopen)
    · rcases List.mem_append.1 hrest with hdigit | hclose
      · obtain ⟨digit, hlt, rfl⟩ := mem_toDigits (by decide) hdigit
        exact isPrintable_digitChar digit hlt
      · exact hframe shown (List.mem_append_right ['\\', 'u', '\x7b'] hclose)

/-- It is on one line, and nothing in it acts on what shows it. -/
theorem isPrintable_of_mem_quote {text : String} {c : Char} (h : c ∈ (quote text).toList) :
    isPrintable c := by
  have hmark : isPrintable '"' := by decide +kernel
  rw [quote, String.toList_ofList, List.cons_append, List.mem_cons, List.mem_append] at h
  rcases h with rfl | hinner | hclose
  · exact hmark
  · obtain ⟨quoted, -, hmem⟩ := List.mem_flatMap.1 hinner
    exact isPrintable_of_mem_quoteChar hmem
  · rw [List.mem_singleton.1 hclose]
    exact hmark

/-! ## Texts for terminals -/

namespace Terminal

variable {text : String} {c : Char}

theorem shows_of_shows {mode : Mode} (h : mode.shows c) : Mode.text.shows c := by
  cases mode <;> simp_all [Mode.shows]

/-- Whatever the state of the reading is, only text is shown. -/
theorem shows_of_mem_shown {mode : Mode} {interrupted : Bool} {chars : List Char}
    (h : c ∈ shown mode interrupted chars) : Mode.text.shows c := by
  induction chars generalizing mode interrupted with
  | nil => cases h
  | cons first rest ih =>
    rw [shown] at h
    by_cases hshows : (if interrupted then Mode.text else mode).shows first
    · rw [if_pos hshows] at h
      rcases List.mem_cons.1 h with rfl | hrest
      · exact shows_of_shows hshows
      · exact ih hrest
    · rw [if_neg hshows] at h
      exact ih h

/-- Text is shown as it is, up to the next control character. -/
theorem shown_append {interrupted : Bool} {chars : List Char} (h : ∀ c ∈ chars, Mode.text.shows c)
    (rest : List Char) : shown .text interrupted (chars ++ rest) = chars ++ shown .text false rest := by
  induction chars generalizing interrupted with
  | nil => cases rest <;> simp [shown]
  | cons c chars ih =>
    obtain ⟨hc, hchars⟩ := List.forall_mem_cons.1 h
    simp only [List.cons_append, shown, ite_self, hc, if_true, ih hchars]

/-- **A plain text** has nothing but text in it, whatever sequences there were. -/
theorem shows_of_mem_plain (h : c ∈ (plain text).toList) : Mode.text.shows c := by
  rw [plain, String.toList_ofList] at h
  exact shows_of_mem_shown h

theorem plain_eq_self (h : ∀ c ∈ text.toList, Mode.text.shows c) : plain text = text := by
  have hshown : shown .text false text.toList = text.toList := by
    simpa [shown] using shown_append h []
  rw [plain, hshown, String.ofList_toList]

theorem plain_plain (text : String) : plain (plain text) = plain text :=
  plain_eq_self fun _ => shows_of_mem_plain

/-- Emphasis is no part of a text. -/
theorem plain_emphasize (h : ∀ c ∈ text.toList, Mode.text.shows c) : plain (emphasize text) = text := by
  have hstart (rest : List Char) : shown .text false ('\x1b' :: '[' :: '1' :: 'm' :: rest)
      = shown .text false rest := rfl
  have hstop : shown .text false ['\x1b', '[', '0', 'm'] = [] := rfl
  have hchars : (emphasize text).toList
      = '\x1b' :: '[' :: '1' :: 'm' :: (text.toList ++ ['\x1b', '[', '0', 'm']) := by
    rw [emphasize, String.toList_append, String.toList_append]
    rfl
  rw [plain, hchars, hstart, shown_append h, hstop, List.append_nil, String.ofList_toList]

end Terminal

end Text

end LogicCircuit
