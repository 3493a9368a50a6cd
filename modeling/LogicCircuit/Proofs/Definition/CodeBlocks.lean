import LogicCircuit.Proofs.Definition.Lifetime

/-!
# Blocks of error codes — what the counter does over a lifetime

Every block starts where the counter stands, and the counter is then moved on by as many codes as have been
asked for. It has 64 bits. Without overflow checks it wraps around, so what it shows is the number of all codes
issued before, without the multiples of `2 ^ 64` (`NameTable.blocks_eq_issue`). A block that would reach `2 ^ 64`
has its end not behind its start and holds no code at all, and the blocks after it start over with codes that
have been issued. With overflow checks the program stops in such a call (`NameTable.callAllIn_checked`).

* **`ErrorCodes.size_behind`** — a block holds all of its codes, or none.
* **`ErrorCodes.pairwise_issue`** — blocks have no code in common unless they span more than `2 ^ 64` codes.
* **`NameTable.blocks_of_calls`** — all blocks of a lifetime are full exactly if fewer than `2 ^ 64` codes are
  issued in it; with overflow checks all that are given are full and keep apart.
-/

namespace LogicCircuit

/-! ## Blocks -/

namespace ErrorCodes

variable {codes : ErrorCodes} {code : ErrorCode} {before count : Nat}

/-- The block of `count` codes that is issued when `before` codes have been. -/
def behind (before count : Nat) : ErrorCodes :=
  ⟨UInt64.ofNat before, UInt64.ofNat (before + count)⟩

theorem contains_iff :
    codes.contains code ↔ codes.start.toNat ≤ code.number.toNat ∧ code.number.toNat < codes.stop.toNat := by
  simp [contains, UInt64.le_iff_toNat_le, UInt64.lt_iff_toNat_lt]

/-- The codes of a block are those at its offsets. -/
theorem contains_iff_exists_get? : codes.contains code ↔ ∃ offset, codes.get? offset = some code := by
  have hstop := codes.stop.toNat_lt
  rw [contains_iff]
  constructor
  · rintro ⟨hstart, hlt⟩
    have hoffset : code.number.toNat - codes.start.toNat < codes.size := by
      rw [size]
      omega
    refine ⟨code.number.toNat - codes.start.toNat, ?_⟩
    rw [get?, if_pos hoffset]
    refine congrArg (fun number => some (ErrorCode.mk number)) (UInt64.toNat_inj.1 ?_)
    rw [UInt64.toNat_add, UInt64.toNat_ofNat']
    omega
  · rintro ⟨offset, hget⟩
    rw [get?] at hget
    split at hget
    · next hoffset =>
      cases hget
      rw [size] at hoffset
      rw [UInt64.toNat_add, UInt64.toNat_ofNat']
      omega
    · cases hget

theorem start_behind : (behind before count).start.toNat = before % 2 ^ 64 :=
  UInt64.toNat_ofNat'

theorem stop_behind : (behind before count).stop.toNat = (before + count) % 2 ^ 64 :=
  UInt64.toNat_ofNat'

/-- **One block** holds all of its codes, or none if it reaches the end of the counter. -/
theorem size_behind (hcount : count < 2 ^ 64) : (behind before count).size =
    if before % 2 ^ 64 + count < 2 ^ 64 then count else 0 := by
  rw [size, start_behind, stop_behind]
  split <;> omega

/-- A code tells how many codes were issued before it, but for the rounds of the counter. -/
theorem exists_place_of_contains (hcount : count < 2 ^ 64) (h : (behind before count).contains code) :
    ∃ place, before ≤ place ∧ place < before + count ∧ code.number.toNat = place % 2 ^ 64 := by
  rw [contains_iff, start_behind, stop_behind] at h
  refine ⟨before + (code.number.toNat - before % 2 ^ 64), ?_⟩
  omega

/-- Two blocks without a common code. -/
def Apart (codes other : ErrorCodes) : Prop :=
  ∀ code, ¬ (codes.contains code ∧ other.contains code)

/-- Two blocks that lie behind each other within one round of the counter. -/
theorem apart_behind {before' count' : Nat} (hcount : count < 2 ^ 64) (hcount' : count' < 2 ^ 64)
    (horder : before + count ≤ before') (hspan : before' + count' ≤ before + 2 ^ 64) :
    (behind before count).Apart (behind before' count') := by
  -- two places less than a round apart cannot have the same number
  rintro code ⟨h, h'⟩
  obtain ⟨place, hle, hlt, hplace⟩ := exists_place_of_contains hcount h
  obtain ⟨place', hle', hlt', hplace'⟩ := exists_place_of_contains hcount' h'
  omega

/-! ## Blocks one after the other -/

variable {counts : List UInt64}

/-- How many codes are asked for in all. -/
def total (counts : List UInt64) : Nat :=
  (counts.map UInt64.toNat).sum

@[simp] theorem total_nil : total [] = 0 := rfl

@[simp] theorem total_cons (count : UInt64) (counts : List UInt64) :
    total (count :: counts) = count.toNat + total counts :=
  List.sum_cons

theorem total_append (counts others : List UInt64) :
    total (counts ++ others) = total counts + total others := by
  rw [total, List.map_append, List.sum_append]
  rfl

/-- The blocks of given counts, each with its count, the first of them behind `before` codes. -/
def issue (before : Nat) : List UInt64 → List (UInt64 × ErrorCodes)
  | [] => []
  | count :: counts => (count, behind before count.toNat) :: issue (before + count.toNat) counts

theorem map_fst_issue (before : Nat) (counts : List UInt64) :
    (issue before counts).map Prod.fst = counts := by
  induction counts generalizing before with
  | nil => rfl
  | cons count counts ih => exact congrArg (List.cons count) (ih _)

/-- The second part of the blocks is issued behind the codes of the first. -/
theorem issue_append (before : Nat) (counts others : List UInt64) :
    issue before (counts ++ others) = issue before counts ++ issue (before + total counts) others := by
  induction counts generalizing before with
  | nil => rfl
  | cons count counts ih =>
    rw [List.cons_append, issue, issue, ih, total_cons, Nat.add_assoc]
    rfl

/-- Any part of the blocks is issued like all of them. -/
theorem eq_issue_of_append {blocks others : List (UInt64 × ErrorCodes)}
    (h : issue before counts = blocks ++ others) :
    blocks = issue before (blocks.map Prod.fst) ∧
      others = issue (before + total (blocks.map Prod.fst)) (others.map Prod.fst) := by
  -- the counts stand beside the blocks, so they are cut where the blocks are
  have hcounts : counts = blocks.map Prod.fst ++ others.map Prod.fst := by
    rw [← List.map_append, ← h, map_fst_issue]
  have hlength := congrArg List.length (map_fst_issue before (blocks.map Prod.fst))
  rw [List.length_map, List.length_map] at hlength
  rw [hcounts, issue_append] at h
  exact List.append_inj h.symm hlength.symm

/-- A block begins behind those before it, and ends in front of those after it. -/
theorem exists_behind_of_mem {entry : UInt64 × ErrorCodes} (h : entry ∈ issue before counts) :
    ∃ earlier, entry.2 = .behind earlier entry.1.toNat ∧ before ≤ earlier ∧
      earlier + entry.1.toNat ≤ before + total counts := by
  induction counts generalizing before with
  | nil => cases h
  | cons count counts ih =>
    rw [total_cons]
    rcases List.mem_cons.1 h with rfl | hlater
    · refine ⟨before, rfl, Nat.le_refl before, ?_⟩
      dsimp only
      omega
    · obtain ⟨earlier, hbehind, hle, hend⟩ := ih hlater
      refine ⟨earlier, hbehind, ?_, ?_⟩ <;> omega

/-- **Blocks keep apart** as long as they do not span more than one round of the counter. -/
theorem pairwise_issue (hspan : total counts ≤ 2 ^ 64) :
    (issue before counts).Pairwise fun entry other => entry.2.Apart other.2 := by
  induction counts generalizing before with
  | nil => exact .nil
  | cons count counts ih =>
    rw [total_cons] at hspan
    refine List.pairwise_cons.2 ⟨fun other hother => ?_, ih (by omega)⟩
    obtain ⟨earlier, hbehind, hle, hend⟩ := exists_behind_of_mem hother
    -- a later block begins behind this one, and ends within the round that this one began
    rw [hbehind]
    exact apart_behind count.toNat_lt other.1.toNat_lt hle (by omega)

/-- The block in which the counter comes to its end is empty. -/
theorem exists_empty_of_le (hbefore : before < 2 ^ 64) (hend : 2 ^ 64 ≤ before + total counts) :
    ∃ entry ∈ issue before counts, entry.2.size = 0 := by
  induction counts generalizing before with
  | nil =>
    rw [total_nil] at hend
    omega
  | cons count counts ih =>
    rw [total_cons] at hend
    by_cases hfits : before + count.toNat < 2 ^ 64
    · obtain ⟨entry, hmem, hempty⟩ := ih hfits (by omega)
      exact ⟨entry, List.mem_cons_of_mem _ hmem, hempty⟩
    · -- this is the block in which the counter wraps around
      refine ⟨(count, .behind before count.toNat), List.mem_cons_self, ?_⟩
      rw [size_behind count.toNat_lt, if_neg]
      omega

/-- All blocks are full as long as the counter does not come to its end. -/
theorem size_of_mem_issue {entry : UInt64 × ErrorCodes} (hend : before + total counts < 2 ^ 64)
    (h : entry ∈ issue before counts) : entry.2.size = entry.1.toNat := by
  obtain ⟨earlier, hbehind, -, hle⟩ := exists_behind_of_mem h
  rw [hbehind, size_behind entry.1.toNat_lt, if_pos]
  omega

end ErrorCodes

/-! ## Lifetimes -/

namespace NameTable

open Definition ErrorCodes

variable {table : NameTable}

/-- The block that a call is given, with the number of codes that it has asked for. -/
def Call.block? (table : NameTable) : Call → Option (UInt64 × ErrorCodes)
  | .issueCodes count =>
    match table.issueCodes count with
    | .ok (codes, _) => some (count, codes)
    | .error _ => none
  | .prepare text =>
    let count := UInt64.ofNat Problem.kindCount
    some (count, ((Scanner.new text table).2.takeCodes count).1)
  | .read circuit text => some (UInt64.ofNat Problem.kindCount, (readOnto table circuit text).codes)
  | _ => none

/-- The blocks of calls made one after the other. -/
def blocks (table : NameTable) : List Call → List (UInt64 × ErrorCodes)
  | [] => []
  | first :: later => (first.block? table).toList ++ blocks (table.call first) later

/-- **One call** is given the codes that the counter stands at, or none if it asks for none. -/
theorem block?_eq (table : NameTable) (call : Call) : call.block? table =
    if call.codes = 0 then none
    else some (call.codes, ⟨table.codesIssued, table.codesIssued + call.codes⟩) := by
  have hkinds : UInt64.ofNat Problem.kindCount ≠ 0 := by decide
  cases call with
  | issueCodes count =>
    by_cases hzero : count = 0
    · subst hzero
      rfl
    · rw [Call.block?, issueCodes, if_neg hzero, Call.codes, if_neg hzero]
      rfl
  | prepare text =>
    have hstart : (Scanner.new text table).2.codesIssued = table.codesIssued :=
      -- a scanner interns the spellings and takes no code for that
      codesIssued_internAll table spellings
    rw [Call.block?, Call.codes, if_neg hkinds, takeCodes, hstart]
  | read circuit text =>
    have hstart : (Scanner.new text table).2.codesIssued = table.codesIssued :=
      codesIssued_internAll table spellings
    have hcodes : (readOnto table circuit text).codes =
        ((Scanner.new text table).2.takeCodes (UInt64.ofNat Problem.kindCount)).1 := rfl
    rw [Call.block?, Call.codes, if_neg hkinds, hcodes, takeCodes, hstart]
  | _ => rfl

/-- The numbers of codes that calls ask for, where they ask for any. -/
def counts (calls : List Call) : List UInt64 :=
  (calls.map Call.codes).filter (· ≠ 0)

/-- Calls that ask for no code do not count. -/
theorem total_counts_cons (first : Call) (later : List Call) :
    total (counts (first :: later)) = first.codes.toNat + total (counts later) := by
  by_cases hzero : first.codes = 0
  · simp [counts, hzero]
  · simp [counts, hzero]

/-- **All blocks** are issued one after the other, whatever is done in between. -/
theorem blocks_eq_issue {before : Nat} (hbefore : table.codesIssued = UInt64.ofNat before)
    (calls : List Call) : table.blocks calls = issue before (counts calls) := by
  induction calls generalizing table before with
  | nil => rfl
  | cons first later ih =>
    have hcodes := (call_eq table first).2
    rw [blocks, block?_eq]
    -- a call that asks for no code leaves the counter where it is
    by_cases hzero : first.codes = 0
    · have hcounts : counts (first :: later) = counts later := by
        simp [counts, hzero]
      rw [hzero, UInt64.add_zero] at hcodes
      rw [if_pos hzero, hcounts]
      exact ih (hcodes.trans hbefore)
    · have hcounts : counts (first :: later) = first.codes :: counts later := by
        simp [counts, hzero]
      have hstop : table.codesIssued + first.codes = UInt64.ofNat (before + first.codes.toNat) := by
        rw [UInt64.ofNat_add, UInt64.ofNat_toNat, hbefore]
      have hlater := ih (hcodes.trans hstop)
      rw [if_neg hzero, hcounts, issue, hlater, hstop, hbefore]
      rfl

/-! ## Builds -/

/-- What a call comes to in a build: the block that it is given and the table after it, or what stops it. -/
def callIn (build : Build) (table : NameTable) (call : Call) :
    Except Panic (Option (UInt64 × ErrorCodes) × NameTable) :=
  match call with
  | .issueCodes count =>
    (table.issueCodesIn build count).map fun
      | .ok (codes, after) => (some (count, codes), after)
      | .error _ => (none, table)
  | .prepare text =>
    let count := UInt64.ofNat Problem.kindCount
    ((Scanner.new text table).2.takeCodesIn build count).map fun
      | (codes, after) => (some (count, codes), after)
  | .read circuit text =>
    (readIn build table circuit text).map fun reading =>
      (some (UInt64.ofNat Problem.kindCount, reading.codes), reading.names)
  | call => .ok (none, table.call call)

/-- What calls made one after the other come to in a build: the blocks that they are given, and what has
stopped the program if it did not come to the end of them. -/
def callAllIn (build : Build) (table : NameTable) : List Call → List (UInt64 × ErrorCodes) × Option Panic
  | [] => ([], none)
  | first :: later =>
    match table.callIn build first with
    | .error panic => ([], some panic)
    | .ok (block?, after) =>
      let (blocks, panic?) := after.callAllIn build later
      (block?.toList ++ blocks, panic?)

/-- **One call in a build** comes to what it comes to without overflow checks, unless its sum stops it. -/
theorem callIn_eq (build : Build) (table : NameTable) (call : Call) :
    table.callIn build call
      = (build.add table.codesIssued call.codes).map fun _ => (call.block? table, table.call call) := by
  have hstart (text : String) : (Scanner.new text table).2.codesIssued = table.codesIssued :=
    codesIssued_internAll table spellings
  cases call with
  | issueCodes count =>
    by_cases hzero : count = 0
    · subst hzero
      rw [callIn, issueCodesIn, if_pos rfl, Call.codes, Build.add_zero]
      rfl
    · rw [callIn, issueCodesIn, if_neg hzero, takeCodesIn_eq, Call.codes, Call.block?, NameTable.call,
        issueCodes, if_neg hzero]
      cases build.add table.codesIssued count <;> rfl
  | prepare text =>
    rw [callIn, takeCodesIn_eq, Call.codes, hstart]
    cases build.add table.codesIssued (UInt64.ofNat Problem.kindCount) <;> rfl
  | read circuit text =>
    rw [callIn, readIn, takeCodesIn_eq, Call.codes, hstart]
    cases build.add table.codesIssued (UInt64.ofNat Problem.kindCount) <;> rfl
  | intern | internAll | query | textAt | nameOf | scan =>
    -- none of these takes codes, so nothing is added
    exact (congrArg (Except.map fun _ => (none, table.call _)) (build.add_zero table.codesIssued)).symm

/-- Without overflow checks nothing stops the program. -/
theorem callAllIn_wrapping (table : NameTable) (calls : List Call) :
    table.callAllIn .wrapping calls = (table.blocks calls, none) := by
  induction calls generalizing table with
  | nil => rfl
  | cons first later ih =>
    have hcall : table.callIn .wrapping first = .ok (first.block? table, table.call first) :=
      callIn_eq .wrapping table first
    rw [callAllIn, hcall]
    dsimp only
    rw [ih]
    rfl

/-- **With overflow checks** calls are made up to the first one whose codes do not fit the counter. -/
theorem callAllIn_checked (table : NameTable) (calls : List Call) :
    ∃ made rest, calls = made ++ rest ∧
      table.callAllIn .checked calls
        = (table.blocks made, if rest = [] then none else some .addOverflow) ∧
      table.codesIssued.toNat + total (counts made) < 2 ^ 64 ∧
      ∀ next later, rest = next :: later →
        2 ^ 64 ≤ table.codesIssued.toNat + total (counts made) + next.codes.toNat := by
  induction calls generalizing table with
  | nil => exact ⟨[], [], rfl, rfl, table.codesIssued.toNat_lt, nofun⟩
  | cons first later ih =>
    -- the calls that are made are this one and those made after it
    have hcall := callIn_eq .checked table first
    by_cases hfits : table.codesIssued.toNat + first.codes.toNat < UInt64.size
    · rw [Build.add, if_pos hfits] at hcall
      obtain ⟨made, rest, hcalls, hrun, hsum, hstop⟩ := ih (table.call first)
      -- within the counter nothing wraps around, so it shows the sum of what has been issued
      have hissued : (table.call first).codesIssued.toNat
          = table.codesIssued.toNat + first.codes.toNat := by
        rw [(call_eq table first).2, UInt64.toNat_add, Nat.mod_eq_of_lt hfits]
      rw [hissued] at hsum hstop
      refine ⟨first :: made, rest, congrArg (List.cons first) hcalls, ?_, ?_, fun next others hrest => ?_⟩
      · rw [callAllIn, hcall]
        dsimp only [Except.map]
        rw [hrun]
        rfl
      · rw [total_counts_cons]
        omega
      · have hover := hstop next others hrest
        rw [total_counts_cons]
        omega
    · rw [Build.add, if_neg hfits] at hcall
      refine ⟨[], first :: later, rfl, ?_, table.codesIssued.toNat_lt, ?_⟩
      · rw [callAllIn, hcall]
        rfl
      · rintro next others hrest
        cases hrest
        exact Nat.le_of_not_lt hfits

/-- A reading of its own is not stopped in any build. -/
theorem readIn_empty (build : Build) (text : String) : readIn build empty .empty text = .ok (read text) := by
  have hstart : (Scanner.new text empty).2.codesIssued = 0 := codesIssued_internAll empty spellings
  have hadd : build.add 0 (UInt64.ofNat Problem.kindCount) = .ok (UInt64.ofNat Problem.kindCount) := by
    cases build <;> decide
  rw [readIn, takeCodesIn, hstart, hadd]
  rfl

/-- **Blocks over a lifetime.** Whatever an empty table is asked and used for, with counts of any size:

* to ask for no code is refused and changes nothing, in any build;
* without overflow checks any other count is given a block. It begins behind all codes that have been issued,
  counted with 64 bits, and holds as many codes as have been asked for, one after the other, unless the counter
  comes to its end with it; then it holds none. All blocks are full exactly if fewer than `2 ^ 64` codes are
  issued in all, and blocks that span at most `2 ^ 64` codes have none in common;
* with overflow checks the same blocks are given up to the first whose count does not fit the counter, where the
  program stops. They are all full, and no two have a code in common. -/
theorem blocks_of_calls (calls : List Call) :
    let blocks := (empty.callAllIn .wrapping calls).1
    let checked := (empty.callAllIn .checked calls).1
    (∀ build, ∀ table : NameTable,
      table.issueCodesIn build 0 = .ok (.error (.invalidArgument .noCodes)) ∧
      table.callIn build (.issueCodes 0) = .ok (none, table)) ∧
    (empty.callAllIn .wrapping calls).2 = none ∧
    blocks.map Prod.fst = counts calls ∧
    (∀ earlier count codes later, blocks = earlier ++ (count, codes) :: later →
      let before := total (earlier.map Prod.fst)
      codes.start.toNat = before % 2 ^ 64 ∧
      codes.size = (if before % 2 ^ 64 + count.toNat < 2 ^ 64 then count.toNat else 0) ∧
      (∀ offset, codes.get? offset =
        if offset < codes.size then some ⟨UInt64.ofNat (before + offset)⟩ else none) ∧
      ∀ code, codes.contains code ↔ ∃ offset, codes.get? offset = some code) ∧
    ((∀ block ∈ blocks, block.2.size = block.1.toNat) ↔ total (counts calls) < 2 ^ 64) ∧
    (∀ window, window <:+: blocks → total (window.map Prod.fst) ≤ 2 ^ 64 →
      window.Pairwise fun block other => block.2.Apart other.2) ∧
    (∀ block ∈ checked, block.2.size = block.1.toNat) ∧
    (checked.Pairwise fun block other => block.2.Apart other.2) ∧
    ((empty.callAllIn .checked calls).2 = none ∧ total (counts calls) < 2 ^ 64 ∧ checked = blocks ∨
      (empty.callAllIn .checked calls).2 = some .addOverflow ∧ 2 ^ 64 ≤ total (counts calls) ∧
        ∃ count codes later, blocks = checked ++ (count, codes) :: later ∧
          2 ^ 64 ≤ total (checked.map Prod.fst) + count.toNat) := by
  rw [callAllIn_wrapping]
  intro blocks checked
  have hissue : blocks = issue 0 (counts calls) := blocks_eq_issue rfl calls
  obtain ⟨made, rest, hcalls, hrun, hsum, hstop⟩ := callAllIn_checked empty calls
  have hempty : empty.codesIssued.toNat = 0 := rfl
  rw [hempty, Nat.zero_add] at hsum hstop
  have hchecked : checked = issue 0 (counts made) :=
    (congrArg Prod.fst hrun).trans (blocks_eq_issue rfl made)
  refine ⟨fun build table => ⟨rfl, rfl⟩, rfl, ?_, fun earlier count codes later hsplit => ?_,
    ⟨fun hfull => ?_, fun hend block hmem => ?_⟩, ?_, fun block hmem => ?_, ?_, ?_⟩
  · rw [hissue, map_fst_issue]
  · obtain ⟨-, hrest⟩ := eq_issue_of_append (hissue.symm.trans hsplit)
    rw [Nat.zero_add, List.map_cons, issue, List.cons.injEq, Prod.mk.injEq] at hrest
    obtain ⟨⟨-, hcodes⟩, -⟩ := hrest
    dsimp only at hcodes
    subst hcodes
    refine ⟨ErrorCodes.start_behind, ErrorCodes.size_behind count.toNat_lt, fun offset => ?_,
      fun code => ErrorCodes.contains_iff_exists_get?⟩
    rw [ErrorCodes.get?, UInt64.ofNat_add]
    rfl
  · -- a block that is empty was asked for, so its count is not zero
    by_contra hend
    obtain ⟨entry, hmem, hnone⟩ : ∃ entry ∈ issue 0 (counts calls), entry.2.size = 0 :=
      exists_empty_of_le (by decide) (by omega)
    rw [← hissue] at hmem
    have hsize := hfull entry hmem
    have hpos : entry.1 ≠ 0 := by
      have hfst : entry.1 ∈ counts calls := by
        rw [← map_fst_issue 0 (counts calls), ← hissue]
        exact List.mem_map_of_mem hmem
      simpa using (List.mem_filter.1 hfst).2
    exact hpos (UInt64.toNat_inj.1 (hsize.symm.trans hnone))
  · rw [hissue] at hmem
    exact size_of_mem_issue (by omega) hmem
  · rintro window ⟨earlier, later, hsplit⟩ hspan
    -- a window of the blocks is issued like all of them, from where the counter stood by then
    rw [List.append_assoc] at hsplit
    obtain ⟨-, hrest⟩ := eq_issue_of_append (hissue.symm.trans hsplit.symm)
    obtain ⟨hwindow, -⟩ := eq_issue_of_append hrest.symm
    rw [hwindow]
    exact pairwise_issue hspan
  · rw [hchecked] at hmem
    exact size_of_mem_issue (by omega) hmem
  · rw [hchecked]
    exact pairwise_issue (Nat.le_of_lt hsum)
  · have hstopped : (empty.callAllIn .checked calls).2 = if rest = [] then none else some .addOverflow :=
      congrArg Prod.snd hrun
    cases rest with
    | nil =>
      rw [List.append_nil] at hcalls
      subst hcalls
      exact .inl ⟨hstopped, hsum, hchecked.trans hissue.symm⟩
    | cons next later =>
      -- the call that stops the program is the first whose block would not be full
      have hover := hstop next later rfl
      have hcounts : counts calls = counts made ++ next.codes :: counts later := by
        have hnonzero : next.codes ≠ 0 := by
          rintro hzero
          rw [hzero] at hover
          exact absurd hsum (Nat.not_lt.2 hover)
        rw [hcalls, counts, List.map_append, List.filter_append, List.map_cons, List.filter_cons_of_pos]
        · rfl
        · simpa using hnonzero
      refine .inr ⟨hstopped, ?_, next.codes, .behind (total (counts made)) next.codes.toNat,
        issue (total (counts made) + next.codes.toNat) (counts later), ?_, ?_⟩
      · rw [hcounts, total_append, total_cons]
        omega
      · rw [hissue, hcounts, issue_append, Nat.zero_add, hchecked]
        rfl
      · rw [hchecked, map_fst_issue]
        exact hover

/-- The second of these three calls asks for one code. Without overflow checks it is given none, and the third
is given a code of the first one; with them the second one stops the program. -/
theorem blocks_of_calls_wrapped :
    let calls : List Call := [.issueCodes 18446744073709551615, .issueCodes 1, .issueCodes 1]
    let blocks := (empty.callAllIn .wrapping calls).1
    blocks =
        [(18446744073709551615, ⟨0, 18446744073709551615⟩), (1, ⟨18446744073709551615, 0⟩), (1, ⟨0, 1⟩)] ∧
      (∃ block ∈ blocks, block.1 = 1 ∧ block.2.isEmpty ∧ block.2.get? 0 = none) ∧
      (¬ blocks.Pairwise fun block other => block.2.Apart other.2) ∧
      empty.callAllIn .checked calls
        = ([(18446744073709551615, ⟨0, 18446744073709551615⟩)], some .addOverflow) := by
  intro calls blocks
  have hblocks : blocks =
      [(18446744073709551615, ⟨0, 18446744073709551615⟩), (1, ⟨18446744073709551615, 0⟩), (1, ⟨0, 1⟩)] := by
    decide +kernel
  refine ⟨hblocks, ?_, fun hapart => ?_, by decide +kernel⟩
  · rw [hblocks]
    refine ⟨(1, ⟨18446744073709551615, 0⟩), by simp, rfl, ?_⟩
    decide +kernel
  · rw [hblocks, List.pairwise_cons] at hapart
    have hcommon := hapart.1 (1, ⟨0, 1⟩) (by simp) ⟨0⟩
    exact hcommon (by decide +kernel)

end NameTable

end LogicCircuit
