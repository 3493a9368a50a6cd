import LogicCircuit.Build
import LogicCircuit.ErrorCode
import LogicCircuit.Fault

/-!
# Name tables

A name table keeps every keyword, name and number literal of the definitions read so far, each once.
The handle of a text is its place in the table: handles count up from 0 in the order of first
appearance, and a text keeps its handle for good. The table also issues blocks of error codes, from
a counter of its own.
-/

namespace LogicCircuit

/-- The texts seen so far, none twice, and how many error codes have been issued. -/
structure NameTable where
  texts : Array String
  distinct : texts.toList.Nodup
  codesIssued : UInt64

namespace NameTable

/-- The table with no texts. -/
def empty : NameTable :=
  { texts := #[], distinct := List.nodup_nil, codesIssued := 0 }

def size (table : NameTable) : Nat :=
  table.texts.size

def isEmpty (table : NameTable) : Bool :=
  table.texts.isEmpty

/-! ## Looking up -/

/-- The handle of a text, if the table holds it. -/
def id? (table : NameTable) (text : String) : Option NameId :=
  (table.texts.idxOf? text).map NameId.mk

/-- The text of a handle, if that handle has been issued. -/
def text? (table : NameTable) (id : NameId) : Option String :=
  table.texts[id.index]?

/-- The text of a handle; a handle never issued is a misuse. -/
def textOf (table : NameTable) (id : NameId) : Except Fault String :=
  match table.text? id with
  | some text => .ok text
  | none => .error (.invalidArgument (.unissuedId id))

theorem not_mem_of_id?_eq_none {table : NameTable} {text : String}
    (h : table.id? text = none) : text ∉ table.texts.toList := by
  simp only [id?, Option.map_eq_none_iff, Array.idxOf?_eq_none_iff] at h
  simpa using h

/-! ## Interning -/

/-- The handle of a text, issuing the next free one when the text is new. -/
def intern (table : NameTable) (text : String) : NameId × NameTable :=
  match h : table.id? text with
  | some id => (id, table)
  | none =>
    (⟨table.size⟩,
      { table with
        texts := table.texts.push text
        distinct := by
          rw [Array.toList_push, List.nodup_append]
          refine ⟨table.distinct, by simp, fun a ha b hb hab => ?_⟩
          rw [List.mem_singleton] at hb
          exact not_mem_of_id?_eq_none h (hb ▸ hab ▸ ha) })

/-- The handles of several texts, interned from left to right. -/
def internAll (table : NameTable) : List String → List NameId × NameTable
  | [] => ([], table)
  | text :: rest =>
    let (id, table) := table.intern text
    let (ids, table) := table.internAll rest
    (id :: ids, table)

/-! ## Error codes -/

/-- The next `count` codes, with the counter moved behind them. The sum wraps around, as in a build without
overflow checks. -/
def takeCodes (table : NameTable) (count : UInt64) : ErrorCodes × NameTable :=
  let stop := table.codesIssued + count
  (⟨table.codesIssued, stop⟩, { table with codesIssued := stop })

/-- The next `count` codes in a build, which may be stopped by the sum. -/
def takeCodesIn (build : Build) (table : NameTable) (count : UInt64) :
    Except Panic (ErrorCodes × NameTable) :=
  (build.add table.codesIssued count).map fun stop =>
    (⟨table.codesIssued, stop⟩, { table with codesIssued := stop })

/-- In any build the codes are those of a build without overflow checks, unless the sum stops it. -/
theorem takeCodesIn_eq (build : Build) (table : NameTable) (count : UInt64) :
    table.takeCodesIn build count
      = (build.add table.codesIssued count).map fun _ => table.takeCodes count := by
  rw [takeCodesIn, takeCodes]
  cases hadd : build.add table.codesIssued count with
  | error panic => rfl
  | ok stop =>
    rw [Build.eq_of_add_eq_ok hadd]
    rfl

/-- A fresh block of `count` error codes, without overflow checks. An empty block is not issued. -/
def issueCodes (table : NameTable) (count : UInt64) : Except Fault (ErrorCodes × NameTable) :=
  if count = 0 then .error (.invalidArgument .noCodes) else .ok (table.takeCodes count)

/-- A fresh block of `count` error codes in a build. -/
def issueCodesIn (build : Build) (table : NameTable) (count : UInt64) :
    Except Panic (Except Fault (ErrorCodes × NameTable)) :=
  if count = 0 then .ok (.error (.invalidArgument .noCodes))
  else (table.takeCodesIn build count).map .ok

end NameTable

/-- The handle with a given number; a negative number is a misuse. -/
def NameId.ofInt (raw : Int) : Except Fault NameId :=
  if raw < 0 then .error (.invalidArgument (.negativeId raw)) else .ok ⟨raw.toNat⟩

end LogicCircuit
