import LogicCircuit.NameTable
import Mathlib.Data.List.Nodup

/-!
# Name tables — handles and texts

A table is read in two directions, from a text to its handle and back. The two are inverse to each
other (`NameTable.id?_eq_some_iff`), and interning keeps all that was there (`NameTable.Grows`), so a
handle that is found once is found in every later table. Interning a text again changes nothing.
-/

namespace LogicCircuit.NameTable

variable {table after later : NameTable} {text other : String} {id : NameId}

/-- Looking up a text and looking up a handle are inverse to each other. -/
theorem id?_eq_some_iff : table.id? text = some id ↔ table.text? id = some text := by
  rw [id?, text?, Option.map_eq_some_iff, Array.idxOf?_eq_map_finIdxOf?_val]
  constructor
  · rintro ⟨index, hindex, rfl⟩
    obtain ⟨place, hplace, rfl⟩ := Option.map_eq_some_iff.1 hindex
    obtain ⟨htext, -⟩ := Array.finIdxOf?_eq_some_iff.1 hplace
    exact Array.getElem?_eq_some_iff.2 ⟨place.isLt, htext⟩
  · intro h
    obtain ⟨hlt, htext⟩ := Array.getElem?_eq_some_iff.1 h
    refine ⟨id.index, Option.map_eq_some_iff.2 ⟨⟨id.index, hlt⟩, ?_, rfl⟩, rfl⟩
    refine Array.finIdxOf?_eq_some_iff.2 ⟨htext, fun place hplace heq => ?_⟩
    -- a text stands at one place only
    have htexts : table.texts.toList[place.val] = table.texts.toList[id.index] :=
      heq.trans htext.symm
    have hsame : place.val = id.index := table.distinct.getElem_inj_iff.1 htexts
    have hlt' : place.val < id.index := hplace
    omega

/-! ## Interning -/

/-- All handles of one table have the same texts in the other. -/
def Grows (table after : NameTable) : Prop :=
  ∀ id text, table.text? id = some text → after.text? id = some text

theorem Grows.refl (table : NameTable) : table.Grows table :=
  fun _ _ h => h

theorem Grows.trans (h : table.Grows after) (h' : after.Grows later) : table.Grows later :=
  fun id text htext => h' id text (h id text htext)

theorem Grows.id? (h : table.Grows after) (hid : table.id? text = some id) :
    after.id? text = some id :=
  id?_eq_some_iff.2 (h id text (id?_eq_some_iff.1 hid))

theorem grows_intern (table : NameTable) (text : String) : table.Grows (table.intern text).2 := by
  unfold intern
  split
  · exact .refl table
  · -- what has a handle stands in front of the place of the new text
    intro id other hother
    obtain ⟨hlt, -⟩ := Array.getElem?_eq_some_iff.1 hother
    show (table.texts.push text)[id.index]? = some other
    rw [Array.getElem?_push_lt hlt, ← Array.getElem?_eq_getElem hlt]
    exact hother

/-- The handle that interning answers is that of the text. -/
theorem id?_intern (table : NameTable) (text : String) :
    (table.intern text).2.id? text = some (table.intern text).1 := by
  unfold intern
  split
  · next id h => exact h
  · rw [id?_eq_some_iff]
    exact Array.getElem?_push_size

/-- Interning a text that the table holds changes nothing. -/
theorem intern_of_id? (h : table.id? text = some id) : table.intern text = (id, table) := by
  unfold intern
  split
  · next hfound =>
    rw [h] at hfound
    cases hfound
    rfl
  · next hnone =>
    rw [h] at hnone
    cases hnone

/-- A text that the table does not hold goes to its end, and gets the next handle. -/
theorem intern_of_id?_eq_none (h : table.id? text = none) :
    (table.intern text).1 = ⟨table.size⟩ ∧
      (table.intern text).2.texts = table.texts.push text := by
  unfold intern
  split
  · next hfound =>
    rw [h] at hfound
    cases hfound
  · exact ⟨rfl, rfl⟩

/-- The codes that have been issued make no difference to handles. -/
theorem intern_congr (h : table.texts = after.texts) (text : String) :
    (table.intern text).1 = (after.intern text).1 ∧
      (table.intern text).2.texts = (after.intern text).2.texts := by
  have hid : table.id? text = after.id? text := by rw [id?, id?, h]
  cases hfound : after.id? text with
  | some id =>
    rw [intern_of_id? hfound, intern_of_id? (hid.trans hfound)]
    exact ⟨rfl, h⟩
  | none =>
    obtain ⟨hfirst, hsecond⟩ := intern_of_id?_eq_none hfound
    obtain ⟨hfirst', hsecond'⟩ := intern_of_id?_eq_none (hid.trans hfound)
    rw [hfirst, hsecond, hfirst', hsecond', size, size, h]
    exact ⟨rfl, rfl⟩

/-- All texts have handles after they have been interned, and all handles from before are kept. -/
theorem internAll_spec (table : NameTable) (texts : List String) :
    table.Grows (table.internAll texts).2 ∧
      ∀ text ∈ texts, ((table.internAll texts).2.id? text).isSome := by
  induction texts generalizing table with
  | nil => exact ⟨.refl table, nofun⟩
  | cons text others ih =>
    obtain ⟨hgrows, hothers⟩ := ih (table.intern text).2
    -- the handle of the first text stays while the others are interned
    have htext : (((table.intern text).2.internAll others).2.id? text).isSome := by
      rw [hgrows.id? (id?_intern table text)]
      rfl
    exact ⟨(grows_intern table text).trans hgrows, List.forall_mem_cons.2 ⟨htext, hothers⟩⟩

/-- Nothing changes if the table holds all texts already. -/
theorem internAll_of_isSome {texts : List String} (h : ∀ text ∈ texts, (table.id? text).isSome) :
    (table.internAll texts).2 = table := by
  induction texts with
  | nil => rfl
  | cons text others ih =>
    obtain ⟨htext, hothers⟩ := List.forall_mem_cons.1 h
    obtain ⟨id, hid⟩ := Option.isSome_iff_exists.1 htext
    rw [internAll, intern_of_id? hid]
    exact ih hothers

/-! ## Handles of texts -/

/-- The handle of a text, or the next free one if the table does not hold the text. -/
def handle (table : NameTable) (text : String) : NameId :=
  (table.id? text).getD ⟨table.size⟩

theorem handle_of_id? (h : table.id? text = some id) : table.handle text = id := by
  rw [handle, h, Option.getD_some]

theorem text?_handle (h : (table.id? text).isSome) : table.text? (table.handle text) = some text := by
  obtain ⟨id, hid⟩ := Option.isSome_iff_exists.1 h
  rw [handle_of_id? hid, ← id?_eq_some_iff, hid]

/-- Only a text itself has its handle. -/
theorem handle_eq_handle_iff (h : (table.id? text).isSome) :
    table.handle other = table.handle text ↔ other = text := by
  obtain ⟨id, hid⟩ := Option.isSome_iff_exists.1 h
  refine ⟨fun heq => ?_, fun heq => by rw [heq]⟩
  rw [handle_of_id? hid] at heq
  have htext := id?_eq_some_iff.1 hid
  cases hother : table.id? other with
  -- the next free handle is behind all that are in use
  | none =>
    obtain ⟨hlt, -⟩ := Array.getElem?_eq_some_iff.1 htext
    rw [handle, hother, Option.getD_none] at heq
    rw [← heq] at hlt
    exact absurd hlt (Nat.lt_irrefl table.size)
  | some id' =>
    rw [handle_of_id? hother] at heq
    rw [heq, id?_eq_some_iff, htext] at hother
    exact (Option.some.inj hother).symm

end LogicCircuit.NameTable
