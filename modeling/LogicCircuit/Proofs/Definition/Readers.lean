import LogicCircuit.Proofs.Definition.Grammar

/-!
# Readers of the grammar — what they take

`Reads input tokens left` says that `input` starts with symbols of the given tokens and that `left` is
what follows them. Each reader succeeds exactly on the inputs that start with something of its
grammar, and every lemma here is an equivalence: read forwards it says that nothing else is taken,
read backwards that nothing is refused.

## The architecture

* **`bind_eq_ok`** takes `do` apart, **`reads_cons`** and **`reads_append`** take spellings apart.
* **`count_eq_ok`** — a count is looked at before it is taken, so that it can be refused in place.
* **`readRuns_sound`**, **`readRuns_complete`** — the loop over the stretches of a waveform. A stretch
  starts with a number, so the loop does not stop early.
* **`readBody_sound`**, **`readBody_complete`** — all bodies.
* **`readDevices_parts`**, **`readWire_parts`** — the parts that a definition and a connection are read in.
-/

namespace LogicCircuit.Definition

/-! ## Spellings -/

/-- The token of a symbol, which says nothing of its place or its handle. -/
def SymbolKind.token : SymbolKind → Token
  | fullStop => .fullStop
  | semicolon => .semicolon
  | keyword word _ => .keyword word
  | number digits _ => .number digits
  | name text _ => .name text
  | invalid c => .invalid c

def Symbol.token (symbol : Symbol) : Token :=
  symbol.kind.token

/-- The input starts with symbols of the given tokens, and `left` is what follows them. -/
def Reads (input : List Symbol) (tokens : List Token) (left : List Symbol) : Prop :=
  ∃ front, input = front ++ left ∧ front.map Symbol.token = tokens

variable {input left : List Symbol} {token : Token} {front back : List Token} {word : Keyword}

/-- What is read in two parts is read one part after the other. -/
theorem reads_append :
    Reads input (front ++ back) left ↔ ∃ middle, Reads input front middle ∧ Reads middle back left := by
  constructor
  · rintro ⟨symbols, rfl, h⟩
    obtain ⟨symbols, symbols', rfl, rfl, rfl⟩ := List.map_eq_append_iff.1 h
    exact ⟨symbols' ++ left, ⟨symbols, List.append_assoc .., rfl⟩, symbols', rfl, rfl⟩
  · rintro ⟨_, ⟨symbols, rfl, rfl⟩, symbols', rfl, rfl⟩
    exact ⟨symbols ++ symbols', (List.append_assoc ..).symm, List.map_append⟩

theorem reads_cons :
    Reads input (token :: back) left ↔ ∃ middle, Reads input [token] middle ∧ Reads middle back left := by
  rw [← reads_append, List.singleton_append]

/-- A single token is that of the first symbol. -/
theorem reads_singleton :
    Reads input [token] left ↔ ∃ symbol, input = symbol :: left ∧ symbol.token = token := by
  constructor
  · rintro ⟨symbols, rfl, h⟩
    obtain ⟨symbol, rfl, rfl⟩ := List.map_eq_singleton_iff.1 h
    exact ⟨symbol, rfl, rfl⟩
  · rintro ⟨symbol, rfl, rfl⟩
    exact ⟨[symbol], rfl, rfl⟩

/-- A keyword is read where it stands, whatever its handle. -/
theorem reads_keyword : Reads input [.keyword word] left ↔
    ∃ id offset, input = ⟨.keyword word id, offset⟩ :: left := by
  rw [reads_singleton]
  constructor
  · rintro ⟨⟨kind, offset⟩, rfl, h⟩
    cases kind with
    | keyword found id =>
      cases h
      exact ⟨id, offset, rfl⟩
    | _ => cases h
  · rintro ⟨id, offset, rfl⟩
    exact ⟨_, rfl, rfl⟩

/-- A name is read where it stands, whatever its handle. -/
theorem reads_name {text : String} : Reads input [.name text] left ↔
    ∃ id offset, input = ⟨.name text id, offset⟩ :: left := by
  rw [reads_singleton]
  constructor
  · rintro ⟨⟨kind, offset⟩, rfl, h⟩
    cases kind with
    | name found id =>
      cases h
      exact ⟨id, offset, rfl⟩
    | _ => cases h
  · rintro ⟨id, offset, rfl⟩
    exact ⟨_, rfl, rfl⟩

/-- A full stop is read where it stands. -/
theorem reads_fullStop :
    Reads input [.fullStop] left ↔ ∃ offset, input = ⟨.fullStop, offset⟩ :: left := by
  rw [reads_singleton]
  constructor
  · rintro ⟨⟨kind, offset⟩, rfl, h⟩
    cases kind with
    | fullStop => exact ⟨offset, rfl⟩
    | _ => cases h
  · rintro ⟨offset, rfl⟩
    exact ⟨_, rfl, rfl⟩

/-- A single token leaves the tail. -/
theorem reads_tail (h : Reads input [token] left) : left = input.tail := by
  obtain ⟨symbol, rfl, -⟩ := reads_singleton.1 h
  rfl

theorem Reads.map_token (h : Reads input front left) :
    input.map Symbol.token = front ++ left.map Symbol.token := by
  obtain ⟨symbols, rfl, rfl⟩ := h
  exact List.map_append

/-- What is read decides what is left. -/
theorem reads_of_map_token (h : input.map Symbol.token = front ++ back) :
    ∃ left, Reads input front left ∧ left.map Symbol.token = back := by
  obtain ⟨symbols, left, rfl, hfront, hback⟩ := List.map_eq_append_iff.1 h
  exact ⟨left, ⟨symbols, rfl, hfront⟩, hback⟩

theorem Reads.suffix (h : Reads input front left) : left <:+ input := by
  obtain ⟨symbols, rfl, -⟩ := h
  exact List.suffix_append symbols left

/-! ## Composition -/

section

variable {α β : Type} {a : α} {b : β}

/-- A reader in two parts succeeds if the first part does, and the second one behind it. -/
theorem bind_eq_ok {first : Reader α} {next : α → Reader β} :
    (first >>= next) input = .ok (b, left) ↔
      ∃ a middle, first input = .ok (a, middle) ∧ next a middle = .ok (b, left) := by
  simp only [Bind.bind, StateT.bind, Except.bind]
  constructor
  · intro h
    cases hfirst : first input with
    | error failure =>
      rw [hfirst] at h
      cases h
    | ok outcome =>
      rw [hfirst] at h
      exact ⟨outcome.1, outcome.2, rfl, h⟩
  · rintro ⟨a, middle, hfirst, hnext⟩
    rw [hfirst]
    exact hnext

/-- What has been read first need not be read again. -/
theorem bind_of_eq_ok {first : Reader α} {next : α → Reader β} (h : first input = .ok (a, left)) :
    (first >>= next) input = next a left := by
  simp only [Bind.bind, StateT.bind, Except.bind, h]

/-- A reader that fails first fails altogether. -/
theorem bind_eq_error {first : Reader α} {next : α → Reader β} {failure : Failure}
    (h : first input = .error failure) : (first >>= next) input = .error failure := by
  simp only [Bind.bind, StateT.bind, Except.bind, h]

/-- A reader that takes nothing succeeds with its value. -/
theorem pure_eq_ok {a' : α} : (pure a : Reader α) input = .ok (a', left) ↔ a = a' ∧ input = left := by
  constructor
  · intro h
    cases h
    exact ⟨rfl, rfl⟩
  · rintro ⟨rfl, rfl⟩
    rfl

end

/-! ## Single symbols -/

theorem Symbol.isKeyword_iff {symbol : Symbol} :
    symbol.isKeyword word ↔ symbol.token = .keyword word := by
  obtain ⟨kind, offset⟩ := symbol
  cases kind <;> simp [Symbol.isKeyword, SymbolKind.isKeyword, Symbol.token, SymbolKind.token]

/-- Looking for a keyword is looking at the first token. -/
theorem atKeyword_iff : atKeyword word input ↔ Reads input [.keyword word] input.tail := by
  rw [reads_singleton]
  cases input with
  | nil => simp [atKeyword]
  | cons symbol rest =>
    rw [atKeyword, Symbol.isKeyword_iff]
    constructor
    · intro h
      exact ⟨symbol, rfl, h⟩
    · rintro ⟨_, heq, h⟩
      cases heq
      exact h

/-- A keyword that is wanted is taken, and nothing else is. -/
theorem readKeyword_eq_ok {a : Unit} :
    readKeyword word input = .ok (a, left) ↔ Reads input [.keyword word] left := by
  unfold readKeyword
  constructor
  · intro h
    split at h
    · next hat =>
      cases h
      exact atKeyword_iff.1 hat
    · cases h
  · intro h
    obtain ⟨symbol, rfl, -⟩ := reads_singleton.1 h
    rw [if_pos (atKeyword_iff.2 h)]
    rfl

/-- A semicolon that is wanted is taken, and nothing else is. -/
theorem readSemicolon_eq_ok {a : Unit} :
    readSemicolon input = .ok (a, left) ↔ Reads input [.semicolon] left := by
  rw [reads_singleton]
  unfold readSemicolon
  constructor
  · intro h
    split at h
    · cases h
      exact ⟨_, rfl, rfl⟩
    · cases h
  · rintro ⟨⟨kind, offset⟩, rfl, h⟩
    cases kind with
    | semicolon => rfl
    | _ => cases h

/-- A count is looked at where it stands, and nothing is taken. -/
theorem peekCount_eq_ok {count : Nat} : peekCount input = .ok (count, left) ↔
    left = input ∧ ∃ digits, Reads input [.number digits] input.tail ∧
      count = Decimal.count digits.toList := by
  simp only [reads_singleton]
  unfold peekCount
  constructor
  · intro h
    split at h
    · cases h
      exact ⟨rfl, _, ⟨_, rfl, rfl⟩, rfl⟩
    · cases h
  · rintro ⟨rfl, digits, ⟨⟨kind, offset⟩, hinput, htoken⟩, rfl⟩
    rw [hinput]
    cases kind with
    | number found id =>
      cases htoken
      rfl
    | _ => cases htoken

/-- A count is taken if nothing is held against it. -/
theorem count_eq_ok {α : Type} {bad : Nat → Prop} [DecidablePred bad] {mistake : Mistake}
    {next : Nat → Reader α} {a : α} :
    (do let count ← peekCount
        if bad count then reject mistake else do skip; next count) input = .ok (a, left) ↔
      ∃ digits middle, Reads input [.number digits] middle ∧
        ¬ bad (Decimal.count digits.toList) ∧
        next (Decimal.count digits.toList) middle = .ok (a, left) := by
  rw [bind_eq_ok]
  constructor
  · rintro ⟨count, middle, hcount, h⟩
    obtain ⟨rfl, digits, hreads, rfl⟩ := peekCount_eq_ok.1 hcount
    split at h
    · cases h
    · next hbad =>
      obtain ⟨_, _, hskip, hnext⟩ := bind_eq_ok.1 h
      cases hskip
      exact ⟨digits, _, hreads, hbad, hnext⟩
  · rintro ⟨digits, middle, hreads, hbad, hnext⟩
    -- peeking takes nothing, and `skip` takes the number once it has been checked
    obtain rfl := reads_tail hreads
    refine ⟨_, _, peekCount_eq_ok.2 ⟨rfl, digits, hreads, rfl⟩, ?_⟩
    rw [if_neg hbad]
    exact bind_eq_ok.2 ⟨(), _, rfl, hnext⟩

/-- A literal of a level is its digit. -/
theorem ofLiteral?_eq_some_iff {digits : String} {level : Level} :
    Level.ofLiteral? digits = some level ↔ digits = levelLiteral level := by
  unfold Level.ofLiteral?
  constructor
  · intro h
    split at h
    · next hzero =>
      cases h
      exact hzero
    · split at h
      · next hone =>
        cases h
        exact hone
      · cases h
  · rintro rfl
    cases level <;> decide

/-- A level is taken as its literal. -/
theorem readLevel_eq_ok {what : Wanted} {level : Level} : readLevel what input = .ok (level, left) ↔
    Reads input [.number (levelLiteral level)] left := by
  rw [reads_singleton]
  unfold readLevel
  constructor
  · intro h
    split at h
    · split at h
      · next hlevel =>
        cases h
        rw [ofLiteral?_eq_some_iff] at hlevel
        exact ⟨_, rfl, congrArg Token.number hlevel⟩
      · cases h
    · cases h
  · rintro ⟨⟨kind, offset⟩, rfl, h⟩
    cases kind with
    | number digits id =>
      have hlevel := ofLiteral?_eq_some_iff.2 (Token.number.inj h)
      dsimp only
      rw [hlevel]
    | _ => cases h

/-! ## Bodies -/

variable {kind : DeviceKind}

/-- A switch is read as its level and the word behind it. -/
theorem readSwitch_eq_ok : readSwitch input = .ok (kind, left) ↔ ∃ level,
    Reads input [.number (levelLiteral level), .keyword .state] left ∧ kind = .switch level := by
  unfold readSwitch
  simp only [bind_eq_ok, readLevel_eq_ok, readKeyword_eq_ok, pure_eq_ok]
  constructor
  · rintro ⟨level, middle, hlevel, _, _, hstate, rfl, rfl⟩
    exact ⟨level, reads_cons.2 ⟨middle, hlevel, hstate⟩, rfl⟩
  · rintro ⟨level, hreads, rfl⟩
    obtain ⟨middle, hlevel, hstate⟩ := reads_cons.1 hreads
    exact ⟨level, middle, hlevel, (), left, hstate, rfl, rfl⟩

/-- A gate is read as the number of its inputs, which is in range. -/
theorem readGate_eq_ok {op : GateOp} : readGate op input = .ok (kind, left) ↔ ∃ digits,
    Reads input [.number digits, .keyword .inputs] left ∧ 1 ≤ Decimal.count digits.toList ∧
      Decimal.count digits.toList ≤ 16 ∧ kind = .gate op (Decimal.count digits.toList) := by
  unfold readGate
  constructor
  · intro h
    obtain ⟨digits, middle, hcount, hrange, hrest⟩ := count_eq_ok.1 h
    obtain ⟨_, _, hinputs, hpure⟩ := bind_eq_ok.1 hrest
    obtain ⟨rfl, rfl⟩ := pure_eq_ok.1 hpure
    rw [maxGateInputs] at hrange
    exact ⟨digits, reads_cons.2 ⟨middle, hcount, readKeyword_eq_ok.1 hinputs⟩, by omega, by omega, rfl⟩
  · rintro ⟨digits, hreads, hpos, hmax, rfl⟩
    obtain ⟨middle, hcount, hinputs⟩ := reads_cons.1 hreads
    have hrange : ¬ (Decimal.count digits.toList = 0 ∨ maxGateInputs < Decimal.count digits.toList) := by
      rw [maxGateInputs]
      omega
    refine count_eq_ok.2 ⟨digits, middle, hcount, hrange, ?_⟩
    exact bind_eq_ok.2 ⟨(), left, readKeyword_eq_ok.2 hinputs, rfl⟩

/-- A clock is read as its period, which is halved. -/
theorem readClock_eq_ok : readClock input = .ok (kind, left) ↔ ∃ digits,
    Reads input [.keyword .period, .number digits] left ∧ 2 ≤ Decimal.count digits.toList ∧
      kind = .clock (Decimal.count digits.toList / 2) := by
  unfold readClock
  simp only [bind_eq_ok, readKeyword_eq_ok]
  constructor
  · rintro ⟨_, middle, hperiod, hrest⟩
    obtain ⟨digits, _, hcount, hmin, hpure⟩ := count_eq_ok.1 (bind_eq_ok.2 hrest)
    obtain ⟨rfl, rfl⟩ := pure_eq_ok.1 hpure
    exact ⟨digits, reads_cons.2 ⟨middle, hperiod, hcount⟩, by omega, rfl⟩
  · rintro ⟨digits, hreads, hmin, rfl⟩
    obtain ⟨middle, hperiod, hcount⟩ := reads_cons.1 hreads
    refine ⟨(), middle, hperiod, bind_eq_ok.1 ?_⟩
    exact count_eq_ok.2 ⟨digits, left, hcount, by omega, rfl⟩

/-! ### Waveforms -/

/-- A stretch of a waveform is read as a level and its duration. -/
theorem readRun_eq_ok {what : Wanted} {run : Run} : readRun what input = .ok (run, left) ↔
    ∃ stretch : Stretch, Reads input stretch.spell left ∧ 0 < stretch.cycles ∧
      run = stretch.run := by
  unfold readRun readDuration
  simp only [bind_eq_ok, readLevel_eq_ok, readKeyword_eq_ok]
  constructor
  · rintro ⟨level, middle, hlevel, _, middle', hfor, hrest⟩
    obtain ⟨digits, middle'', hcount, hpos, hword⟩ := count_eq_ok.1 (bind_eq_ok.2 hrest)
    obtain ⟨_, _, hcycles, hpure⟩ := bind_eq_ok.1 hword
    obtain ⟨rfl, rfl⟩ := pure_eq_ok.1 hpure
    rw [readKeyword_eq_ok] at hcycles
    refine ⟨⟨level, digits⟩, ?_, Nat.pos_of_ne_zero hpos, rfl⟩
    exact reads_cons.2 ⟨middle, hlevel, reads_cons.2 ⟨middle', hfor,
      reads_cons.2 ⟨middle'', hcount, hcycles⟩⟩⟩
  · rintro ⟨⟨level, digits⟩, hreads, hpos, rfl⟩
    obtain ⟨middle, hlevel, hreads⟩ := reads_cons.1 hreads
    obtain ⟨middle', hfor, hreads⟩ := reads_cons.1 hreads
    obtain ⟨middle'', hcount, hcycles⟩ := reads_cons.1 hreads
    refine ⟨level, middle, hlevel, (), middle', hfor, bind_eq_ok.1 ?_⟩
    refine count_eq_ok.2 ⟨digits, middle'', hcount, Nat.ne_of_gt hpos, ?_⟩
    exact bind_eq_ok.2 ⟨(), left, readKeyword_eq_ok.2 hcycles, rfl⟩

/-- The loop goes once around if what it reads is a run. -/
theorem readRuns_of_readRun {found : List Run} {run : Run}
    (h : ∀ what, readRun what input = .ok (run, left)) : readRuns found input =
      if atKeyword .waveform left then .ok (found ++ [run], left)
      else readRuns (found ++ [run]) left := by
  rw [readRuns]
  split
  · next failure hfail =>
    rw [h] at hfail
    cases hfail
  · next next rest hok =>
    rw [h] at hok
    cases hok
    rfl

/-- What the loop takes are stretches, up to the word that ends it. -/
theorem readRuns_sound {input left : List Symbol} {found all : List Run}
   (h : readRuns found input = .ok (all, left)) :
    ∃ first others, Reads input ((first :: others).flatMap Stretch.spell) left ∧
      (∀ stretch ∈ first :: others, 0 < stretch.cycles) ∧
      all = found ++ (first :: others).map Stretch.run ∧ atKeyword .waveform left := by
  rw [readRuns] at h
  split at h
  · cases h
  · next run rest hrun =>
    obtain ⟨stretch, hreads, hpos, rfl⟩ := readRun_eq_ok.1 hrun
    split at h
    · -- the word ends the loop, so the stretch is the last one
      next hstop =>
      cases h
      refine ⟨stretch, [], ?_, ?_, rfl, hstop⟩
      · rw [List.flatMap_singleton]
        exact hreads
      · intro other hother
        rw [List.mem_singleton.1 hother]
        exact hpos
    · -- the input is shorter behind the stretch
      obtain ⟨first, others, hothers, hothersPos, rfl, hstop⟩ := readRuns_sound h
      refine ⟨stretch, first :: others, ?_, ?_, ?_, hstop⟩
      · rw [List.flatMap_cons]
        exact reads_append.2 ⟨rest, hreads, hothers⟩
      · exact List.forall_mem_cons.2 ⟨hpos, hothersPos⟩
      · rw [List.append_assoc]
        rfl
  termination_by input.length
  decreasing_by exact length_readRun_lt (by assumption)

/-- Stretches are taken up to the word that ends them, whatever has been taken before. -/
theorem readRuns_complete {first : Stretch} {others : List Stretch}
    (hpos : ∀ stretch ∈ first :: others, 0 < stretch.cycles) (hstop : atKeyword .waveform left) :
    ∀ {input : List Symbol} (found : List Run),
      Reads input ((first :: others).flatMap Stretch.spell) left →
      readRuns found input = .ok (found ++ (first :: others).map Stretch.run, left) := by
  -- on the stretches, with any input that spells them and anything found before
  induction others generalizing first with
  | nil =>
    intro input found hreads
    rw [List.flatMap_singleton] at hreads
    have hrun : ∀ what, readRun what input = .ok (first.run, left) := fun _ =>
      readRun_eq_ok.2 ⟨first, hreads, hpos first List.mem_cons_self, rfl⟩
    rw [readRuns_of_readRun hrun, if_pos hstop]
    rfl
  | cons second others ih =>
    intro input found hreads
    rw [List.flatMap_cons] at hreads
    obtain ⟨middle, hfirst, hothers⟩ := reads_append.1 hreads
    have hrun : ∀ what, readRun what input = .ok (first.run, middle) := fun _ =>
      readRun_eq_ok.2 ⟨first, hfirst, hpos first List.mem_cons_self, rfl⟩
    -- the next stretch starts with a number, so this is not the end
    have hgo : ¬ atKeyword .waveform middle := by
      intro hat
      obtain ⟨_, hnumber, -⟩ := reads_cons.1 hothers
      obtain ⟨symbol, rfl, htoken⟩ := reads_singleton.1 hnumber
      obtain ⟨id, offset, hsymbol⟩ := reads_keyword.1 (atKeyword_iff.1 hat)
      cases hsymbol
      cases htoken
    rw [readRuns_of_readRun hrun, if_neg hgo,
      ih (fun stretch h => hpos stretch (List.mem_cons_of_mem _ h)) _ hothers, List.append_assoc]
    rfl

/-- A signal generator is read as stretches of at least one cycle that fit together into a waveform. -/
theorem readSiggen_eq_ok : readSiggen input = .ok (kind, left) ↔ ∃ first others hpos htotal,
    Reads input ((first :: others).flatMap Stretch.spell ++ [.keyword .waveform]) left ∧
      kind = .siggen (waveformOf first others hpos htotal) := by
  unfold readSiggen
  rw [bind_eq_ok]
  constructor
  · rintro ⟨all, middle, hruns, hrest⟩
    obtain ⟨first, others, hreads, hpos, rfl, hstop⟩ := readRuns_sound hruns
    cases hwaveform : Waveform.ofRuns? ([] ++ (first :: others).map Stretch.run) with
    | none =>
      rw [hwaveform] at hrest
      cases hrest
    | some waveform =>
      rw [hwaveform] at hrest
      obtain ⟨_, _, hskip, hpure⟩ := bind_eq_ok.1 hrest
      cases hskip
      obtain ⟨rfl, rfl⟩ := pure_eq_ok.1 hpure
      -- the stretches are positive already, so it is the total that is checked here
      unfold Waveform.ofRuns? at hwaveform
      split at hwaveform
      · next hlegal =>
        cases hwaveform
        have htotal := hlegal.2.2
        rw [List.nil_append, total_map_run] at htotal
        exact ⟨first, others, hpos, htotal,
          reads_append.2 ⟨middle, hreads, atKeyword_iff.1 hstop⟩, rfl⟩
      · cases hwaveform
  · rintro ⟨first, others, hpos, htotal, hspell, rfl⟩
    obtain ⟨middle, hreads, hstop⟩ := reads_append.1 hspell
    obtain rfl := reads_tail hstop
    have hruns := readRuns_complete hpos (atKeyword_iff.2 hstop) [] hreads
    refine ⟨_, middle, hruns, ?_⟩
    have hwaveform : Waveform.ofRuns? ([] ++ (first :: others).map Stretch.run)
        = some (waveformOf first others hpos htotal) :=
      dif_pos ⟨(waveformOf first others hpos htotal).runs_ne_nil,
        (waveformOf first others hpos htotal).cycles_pos,
        (waveformOf first others hpos htotal).total_lt⟩
    rw [hwaveform]
    exact bind_eq_ok.2 ⟨(), _, rfl, rfl⟩

/-! ### All bodies -/

/-- **Bodies.** What is read as a body is spelled by one that has a meaning. -/
theorem readBody_sound (h : readBody input = .ok (kind, left)) :
    ∃ body : Body, Reads input body.spell left ∧ body.Means kind := by
  unfold readBody at h
  -- the keyword decides which body is read
  split at h
  · next word id offset rest =>
    have hword : ∀ word', word = word' →
        Reads (⟨.keyword word id, offset⟩ :: rest) [.keyword word'] rest := by
      intro word' heq
      subst heq
      exact reads_keyword.2 ⟨id, offset, rfl⟩
    -- the four kinds of gate that have a count
    have hgate : ∀ op, word = gateWord op → op ≠ .xor → readGate op rest = .ok (kind, left) →
        ∃ body : Body, Reads (⟨.keyword word id, offset⟩ :: rest) body.spell left ∧
          body.Means kind := by
      intro op hop hxor hread
      obtain ⟨digits, hreads, hpos, hmax, rfl⟩ := readGate_eq_ok.1 hread
      exact ⟨.gate op hxor digits, reads_cons.2 ⟨rest, hword _ hop, hreads⟩,
        .gate op hxor digits hpos hmax⟩
    split at h
    · obtain ⟨level, hreads, rfl⟩ := readSwitch_eq_ok.1 h
      exact ⟨.switch level, reads_cons.2 ⟨rest, hword _ rfl, hreads⟩, .switch level⟩
    · exact hgate .and rfl (by decide) h
    · exact hgate .or rfl (by decide) h
    · exact hgate .nand rfl (by decide) h
    · exact hgate .nor rfl (by decide) h
    · cases h
      exact ⟨.xor, hword _ rfl, .xor⟩
    · cases h
      exact ⟨.dtype, hword _ rfl, .dtype⟩
    · obtain ⟨digits, hreads, hmin, rfl⟩ := readClock_eq_ok.1 h
      exact ⟨.clock digits, reads_cons.2 ⟨rest, hword _ rfl, hreads⟩, .clock digits hmin⟩
    · obtain ⟨first, others, hpos, htotal, hreads, rfl⟩ := readSiggen_eq_ok.1 h
      exact ⟨.siggen first others, reads_cons.2 ⟨rest, hword _ rfl, hreads⟩,
        .siggen first others hpos htotal⟩
    · cases h
  · cases h

/-- **Bodies.** A body that has a meaning is read wherever it is spelled. -/
theorem readBody_complete {body : Body} (hmeans : body.Means kind)
    (hspell : Reads input body.spell left) : readBody input = .ok (kind, left) := by
  cases hmeans with
  | switch level =>
    obtain ⟨middle, hword, hreads⟩ := reads_cons.1 hspell
    obtain ⟨id, offset, rfl⟩ := reads_keyword.1 hword
    exact readSwitch_eq_ok.2 ⟨level, hreads, rfl⟩
  | gate op hop digits hpos hmax =>
    obtain ⟨middle, hword, hreads⟩ := reads_cons.1 hspell
    obtain ⟨id, offset, rfl⟩ := reads_keyword.1 hword
    have hgate : readGate op middle = .ok (.gate op (Decimal.count digits.toList), left) :=
      readGate_eq_ok.2 ⟨digits, hreads, hpos, hmax, rfl⟩
    -- XOR is the one kind that is not read by `readGate`
    cases op with
    | xor => exact absurd rfl hop
    | _ => exact hgate
  | xor =>
    obtain ⟨id, offset, rfl⟩ := reads_keyword.1 hspell
    rfl
  | dtype =>
    obtain ⟨id, offset, rfl⟩ := reads_keyword.1 hspell
    rfl
  | clock digits hmin =>
    obtain ⟨middle, hword, hreads⟩ := reads_cons.1 hspell
    obtain ⟨id, offset, rfl⟩ := reads_keyword.1 hword
    exact readClock_eq_ok.2 ⟨digits, hreads, hmin, rfl⟩
  | siggen first others hpos htotal =>
    obtain ⟨middle, hword, hreads⟩ := reads_cons.1 hspell
    obtain ⟨id, offset, rfl⟩ := reads_keyword.1 hword
    exact readSiggen_eq_ok.2 ⟨first, others, hpos, htotal, hreads, rfl⟩

/-! ## Parts of statements -/

variable {net : Network}

/-- Devices are read as their names and what they are. -/
theorem readDevices_parts {listed : List (NameId × String)} :
    readDevices net input = .ok ((listed, kind), left) ↔
      ∃ middle, readNames net [] input = .ok (listed, middle) ∧ readBody middle = .ok (kind, left) := by
  constructor
  · intro h
    obtain ⟨_, middle, hnames, hrest⟩ := bind_eq_ok.1 h
    obtain ⟨_, _, hbody, hpure⟩ := bind_eq_ok.1 hrest
    obtain ⟨heq, rfl⟩ := pure_eq_ok.1 hpure
    cases heq
    exact ⟨middle, hnames, hbody⟩
  · rintro ⟨middle, hnames, hbody⟩
    exact bind_eq_ok.2 ⟨_, middle, hnames, bind_eq_ok.2 ⟨_, left, hbody, rfl⟩⟩

/-- A wire is read as an output, the word and an input, and its place is where the input begins. -/
theorem readWire_parts {source : OutputRef} {target : InputRef} {place : Place} :
    readWire net input = .ok ((source, target, place), left) ↔
      ∃ middle behind, readOutput net input = .ok (source, middle) ∧
        Reads middle [.keyword .toWord] behind ∧ readInput net behind = .ok (target, left) ∧
        place = .ofInput behind := by
  constructor
  · intro h
    obtain ⟨_, middle, hsource, hrest⟩ := bind_eq_ok.1 h
    obtain ⟨_, behind, hword, hrest'⟩ := bind_eq_ok.1 hrest
    obtain ⟨_, _, hplace, hrest''⟩ := bind_eq_ok.1 hrest'
    obtain ⟨_, _, htarget, hpure⟩ := bind_eq_ok.1 hrest''
    obtain ⟨heq, rfl⟩ := pure_eq_ok.1 hpure
    cases hplace
    cases heq
    exact ⟨middle, behind, hsource, readKeyword_eq_ok.1 hword, htarget, rfl⟩
  · rintro ⟨middle, behind, hsource, hword, htarget, rfl⟩
    exact bind_eq_ok.2 ⟨_, middle, hsource, bind_eq_ok.2 ⟨(), behind, readKeyword_eq_ok.2 hword,
      bind_eq_ok.2 ⟨_, behind, rfl, bind_eq_ok.2 ⟨_, left, htarget, rfl⟩⟩⟩⟩

end LogicCircuit.Definition
