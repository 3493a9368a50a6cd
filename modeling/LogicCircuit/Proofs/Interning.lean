import LogicCircuit.Proofs.NameTable

/-!
# Interning — handles in the order of first appearance

Interning lists of texts one after the other is interning them at once (`NameTable.internAll_append`), so all
that happens to the texts of a table over its lifetime is told by one list.

* **`NameTable.toList_internAll`** — what the table holds then: each text once, where it appears first.
* **`NameTable.text?_of_mem_zip`** — what is answered: a handle for each text, which has that text.
* **`IndexedTable`** — a table with an index from texts to handles, so that no text is searched for. The two
  directions stay inverse, and it answers like the table that it represents (`Represents.internAll`).
-/

namespace LogicCircuit

namespace NameTable

variable {table after : NameTable} {text : String}

/-! ## Texts -/

/-- A text has a handle exactly if it is among the texts. -/
theorem isSome_id?_iff : (table.id? text).isSome ↔ text ∈ table.texts.toList := by
  rw [id?, Option.isSome_map, ← not_iff_not, Bool.not_eq_true, Option.isSome_eq_false_iff,
    Option.isNone_iff_eq_none, Array.idxOf?_eq_none_iff, Array.mem_toList_iff]

/-- Interning adds a text that is not there, at the end. -/
theorem toList_intern (table : NameTable) (text : String) : (table.intern text).2.texts.toList =
    if text ∈ table.texts.toList then table.texts.toList else table.texts.toList ++ [text] := by
  cases h : table.id? text with
  | some id =>
    have hmem : text ∈ table.texts.toList := isSome_id?_iff.1 (by rw [h]; rfl)
    rw [intern_of_id? h, if_pos hmem]
  | none =>
    rw [(intern_of_id?_eq_none h).2, Array.toList_push, if_neg (not_mem_of_id?_eq_none h)]

/-- **What is interned is kept once**, in the order of first appearance, behind what there was. -/
theorem toList_internAll (table : NameTable) (texts : List String) :
    (table.internAll texts).2.texts.toList =
      table.texts.toList ++ (texts.removeAll table.texts.toList).eraseDups := by
  induction texts generalizing table with
  | nil => simp [internAll, List.removeAll]
  | cons text others ih =>
    have htexts := toList_intern table text
    show ((table.intern text).2.internAll others).2.texts.toList = _
    -- the others are new if they are not known by now, so the text itself is filtered out of them
    rw [ih, htexts]
    generalize table.texts.toList = known
    by_cases hmem : text ∈ known
    · simp [hmem, List.removeAll]
    · have hothers : others.removeAll (known ++ [text])
          = (others.removeAll known).filter (fun other => !other == text) := by
        simp only [List.removeAll, List.filter_filter]
        refine List.filter_congr fun other _ => ?_
        rw [Bool.eq_iff_iff]
        simp [and_comm]
      have hcons : (text :: others).removeAll known = text :: others.removeAll known := by
        simp [List.removeAll, hmem]
      rw [if_neg hmem, hothers, hcons, List.eraseDups_cons, List.append_assoc]
      rfl

/-- From the empty table on, each text is kept once. -/
theorem toList_internAll_empty (texts : List String) :
    (empty.internAll texts).2.texts.toList = texts.eraseDups := by
  rw [toList_internAll]
  simp [empty, List.removeAll]

/-- Lists interned one after the other are one list. -/
theorem internAll_append (table : NameTable) (texts others : List String) :
    table.internAll (texts ++ others) =
      ((table.internAll texts).1 ++ ((table.internAll texts).2.internAll others).1,
        ((table.internAll texts).2.internAll others).2) := by
  induction texts generalizing table with
  | nil => rfl
  | cons text rest ih => simp only [List.cons_append, internAll, ih]

/-- Only the texts of a table count for what interning does. -/
theorem internAll_congr (h : table.texts = after.texts) (texts : List String) :
    (table.internAll texts).1 = (after.internAll texts).1 ∧
      (table.internAll texts).2.texts = (after.internAll texts).2.texts := by
  induction texts generalizing table after with
  | nil => exact ⟨rfl, h⟩
  | cons text others ih =>
    obtain ⟨hid, htexts⟩ := intern_congr h text
    obtain ⟨hids, hlater⟩ := ih htexts
    exact ⟨congrArg₂ List.cons hid hids, hlater⟩

/-! ## Handles -/

/-- Handles are equal exactly if their texts are. -/
theorem eq_iff_of_text? {id id' : NameId} {other : String} (h : table.text? id = some text)
    (h' : table.text? id' = some other) : id = id' ↔ text = other := by
  constructor
  · rintro rfl
    exact Option.some.inj (h.symm.trans h')
  · rintro rfl
    rw [← id?_eq_some_iff] at h h'
    exact Option.some.inj (h.symm.trans h')

/-- **What is answered**: a handle for each text. -/
theorem text?_of_mem_zip (table : NameTable) (texts : List String) :
    ∀ entry ∈ texts.zip (table.internAll texts).1,
      (table.internAll texts).2.text? entry.2 = some entry.1 := by
  induction texts generalizing table with
  | nil => exact nofun
  | cons text others ih =>
    obtain ⟨hgrows, -⟩ := internAll_spec (table.intern text).2 others
    refine List.forall_mem_cons.2 ⟨?_, ih _⟩
    -- the handle of the first text stays with it while the others are interned
    exact hgrows _ _ (id?_eq_some_iff.1 (id?_intern table text))

/-- New texts get the next handles, one after the other. -/
theorem internAll_of_new {texts : List String} (hnodup : texts.Nodup)
    (hnew : ∀ text ∈ texts, text ∉ table.texts.toList) :
    (table.internAll texts).1 = (List.range' table.size texts.length).map NameId.mk := by
  induction texts generalizing table with
  | nil => rfl
  | cons text others ih =>
    obtain ⟨htext, hothers⟩ := List.forall_mem_cons.1 hnew
    obtain ⟨hnot, hnodup'⟩ := List.nodup_cons.1 hnodup
    have hnone : table.id? text = none := by
      rw [← Option.not_isSome_iff_eq_none, isSome_id?_iff]
      exact htext
    obtain ⟨hid, hpush⟩ := intern_of_id?_eq_none hnone
    have hsize : (table.intern text).2.size = table.size + 1 := by
      rw [size, hpush, Array.size_push, size]
    -- the other texts are new to the table with this one, as it is none of them
    have hlater := @ih (table.intern text).2 hnodup' fun other hother => by
      rw [hpush, Array.toList_push, List.mem_append, List.mem_singleton, not_or]
      exact ⟨hothers other hother, fun heq => hnot (heq ▸ hother)⟩
    show (table.intern text).1 :: ((table.intern text).2.internAll others).1 = _
    rw [hid, hlater, hsize]
    rfl

/-! ## Codes -/

theorem codesIssued_intern (table : NameTable) (text : String) :
    (table.intern text).2.codesIssued = table.codesIssued := by
  unfold intern
  split <;> rfl

/-- Handles do not use up codes. -/
theorem codesIssued_internAll (table : NameTable) (texts : List String) :
    (table.internAll texts).2.codesIssued = table.codesIssued := by
  induction texts generalizing table with
  | nil => rfl
  | cons text others ih => exact (ih _).trans (codesIssued_intern table text)

end NameTable

/-! ## An index of the texts -/

/-- A table that is kept in both directions: the texts by handle, and the handles by text. -/
structure IndexedTable where
  texts : Array String
  index : Std.HashMap String NameId
  codesIssued : UInt64

namespace IndexedTable

variable {indexed : IndexedTable} {table : NameTable}

def empty : IndexedTable :=
  { texts := #[], index := ∅, codesIssued := 0 }

/-- The handle of a text, by the index. -/
def id? (indexed : IndexedTable) (text : String) : Option NameId :=
  indexed.index[text]?

/-- The text of a handle. -/
def text? (indexed : IndexedTable) (id : NameId) : Option String :=
  indexed.texts[id.index]?

/-- The handle of a text. A new one is put on both sides. -/
def intern (indexed : IndexedTable) (text : String) : NameId × IndexedTable :=
  match indexed.id? text with
  | some id => (id, indexed)
  | none =>
    let id : NameId := ⟨indexed.texts.size⟩
    (id, { indexed with texts := indexed.texts.push text, index := indexed.index.insert text id })

/-- The handles of several texts, interned from left to right. -/
def internAll (indexed : IndexedTable) : List String → List NameId × IndexedTable
  | [] => ([], indexed)
  | text :: rest =>
    let (id, indexed) := indexed.intern text
    let (ids, indexed) := indexed.internAll rest
    (id :: ids, indexed)

/-- The two directions are inverse to each other, and hold what the table holds. -/
structure Represents (indexed : IndexedTable) (table : NameTable) : Prop where
  texts : indexed.texts = table.texts
  inverse : ∀ text id, indexed.id? text = some id ↔ indexed.text? id = some text
  codesIssued : indexed.codesIssued = table.codesIssued

theorem represents_empty : empty.Represents .empty := by
  refine ⟨rfl, fun text id => ?_, rfl⟩
  simp [empty, id?, text?]

namespace Represents

theorem text? (h : indexed.Represents table) (id : NameId) : indexed.text? id = table.text? id := by
  rw [IndexedTable.text?, NameTable.text?, h.texts]

theorem id? (h : indexed.Represents table) (text : String) : indexed.id? text = table.id? text := by
  apply Option.ext
  intro id
  rw [h.inverse, h.text?, NameTable.id?_eq_some_iff]

/-- **A text more.** Both directions gain the same entry, or neither gains any. -/
theorem intern (h : indexed.Represents table) (text : String) :
    (indexed.intern text).1 = (table.intern text).1 ∧
      (indexed.intern text).2.Represents (table.intern text).2 := by
  cases hid : table.id? text with
  | some id =>
    have hindexed : indexed.intern text = (id, indexed) := by
      rw [IndexedTable.intern, h.id?, hid]
    rw [hindexed, NameTable.intern_of_id? hid]
    exact ⟨rfl, h⟩
  | none =>
    obtain ⟨hfirst, htexts⟩ := NameTable.intern_of_id?_eq_none hid
    have hindexed : indexed.intern text = (⟨indexed.texts.size⟩,
        { indexed with
          texts := indexed.texts.push text
          index := indexed.index.insert text ⟨indexed.texts.size⟩ }) := by
      rw [IndexedTable.intern, h.id?, hid]
    rw [hindexed]
    refine ⟨?_, ?_, fun other id => ?_, ?_⟩
    · rw [hfirst, h.texts]
      rfl
    · rw [htexts, ← h.texts]
    · have hold := h.inverse other id
      simp only [IndexedTable.id?, IndexedTable.text?] at hold ⊢
      rw [Std.HashMap.getElem?_insert, Array.getElem?_push]
      by_cases hnew : id.index = indexed.texts.size
      · -- the new handle has the new text, and had none
        have hnone : indexed.texts[id.index]? = none := by
          rw [hnew]
          exact Array.getElem?_eq_none (Nat.le_refl _)
        have hsame : id = ⟨indexed.texts.size⟩ := congrArg NameId.mk hnew
        rw [hnone] at hold
        rw [if_pos hnew]
        by_cases hother : text = other
        · simp [hother, hsame]
        · simp [hother, hold]
      · -- any other handle has another text, as the new one had no handle
        have hdiffer : id ≠ ⟨indexed.texts.size⟩ := fun heq => hnew (congrArg NameId.index heq)
        rw [if_neg hnew]
        by_cases hother : text = other
        · have hnone : indexed.index[other]? = none := by
            rw [← hother]
            exact (h.id? text).trans hid
          rw [← hold, hnone]
          simp [hother, hdiffer.symm]
        · simpa [hother] using hold
    · rw [NameTable.codesIssued_intern, ← h.codesIssued]

theorem internAll (h : indexed.Represents table) (texts : List String) :
    (indexed.internAll texts).1 = (table.internAll texts).1 ∧
      (indexed.internAll texts).2.Represents (table.internAll texts).2 := by
  induction texts generalizing indexed table with
  | nil => exact ⟨rfl, h⟩
  | cons text others ih =>
    obtain ⟨hid, htext⟩ := h.intern text
    obtain ⟨hids, hothers⟩ := ih htext
    exact ⟨congrArg₂ List.cons hid hids, hothers⟩

end Represents

end IndexedTable

end LogicCircuit
