import LogicCircuit.Proofs.Recording

/-!
# Continuation — a run in two parts is one run

Runs start in two ways: `run` empties the histories and starts cold, `continueRun` looks whether a cycle
has been completed and goes on from there. Behind both is the same row of cycles, so a run that is
continued is the longer run, with the same answer, network, count and histories, whether the longer run
completes its cycles or stops at one of those that were added:

* **`execute_add`** — a row of cycles is its first part, and then its second part unless the first one
  failed.
* **`cyclesCompleted_of_execute_ok`** — a row that succeeds counts all its cycles, so that there is
  something to continue.
-/

namespace LogicCircuit

namespace Session

variable {session : Session}

/-- A row of cycles that fails is not gone on with. -/
theorem execute_add_of_error {fault : Fault} {first : Nat}
    (h : (session.execute first).2 = .error fault) (second : Nat) :
    session.execute (first + second) = session.execute first := by
  induction first generalizing session with
  | zero => cases h
  | succ first ih =>
    rw [Nat.add_right_comm]
    rcases session.cycle_result with ⟨hok, -⟩ | ⟨herror, -⟩
    · rw [execute_of_cycle_ok hok] at h
      rw [execute_of_cycle_ok hok, execute_of_cycle_ok hok]
      exact ih h
    · -- both rows end with the same failing cycle
      rw [execute_of_cycle_error herror, execute_of_cycle_error herror]

/-- A row of cycles that succeeds is gone on with from where it ended. -/
theorem execute_add_of_ok {first : Nat} (h : (session.execute first).2 = .ok ()) (second : Nat) :
    session.execute (first + second) = (session.execute first).1.execute second := by
  induction first generalizing session with
  | zero => rw [Nat.zero_add, execute]
  | succ first ih =>
    rw [Nat.add_right_comm]
    rcases session.cycle_result with ⟨hok, -⟩ | ⟨herror, -⟩
    · rw [execute_of_cycle_ok hok] at h
      rw [execute_of_cycle_ok hok, execute_of_cycle_ok hok]
      exact ih h
    · -- a first cycle that fails is a row that fails
      rw [execute_of_cycle_error herror, herror] at h
      cases h

/-- A row of cycles that succeeds has counted them all. -/
theorem cyclesCompleted_of_execute_ok {cycles : Nat} (h : (session.execute cycles).2 = .ok ()) :
    (session.execute cycles).1.cyclesCompleted = session.cyclesCompleted + cycles := by
  induction cycles generalizing session with
  | zero => rfl
  | succ cycles ih =>
    rcases session.cycle_result with ⟨hok, hcount⟩ | ⟨herror, -⟩
    · -- the other cycles are counted from the session after the first one
      rw [execute_of_cycle_ok hok] at h ⊢
      rw [ih h, hcount]
      omega
    · rw [execute_of_cycle_error herror, herror] at h
      cases h

/-- A row of cycles that has succeeded can be continued, and the whole is the longer row. -/
theorem continueRun_execute {first : Nat} (h : (session.execute first).2 = .ok ())
    (hstarted : session.cyclesCompleted + first ≠ 0) (second : Nat) :
    (session.execute first).1.continueRun second = session.execute (first + second) := by
  have hcount := cyclesCompleted_of_execute_ok h
  rw [continueRun_started (by rw [hcount]; exact hstarted), execute_add_of_ok h]

/-- **A run in two parts is one run.** A run of one cycle or more that succeeds can be continued, and what
comes of it is the session and the answer of the longer run from the session as it was; so also for the
parts of a continued run, if there is a cycle to continue from. A part that fails is the end: a longer run
stops at the same cycle, and leaves the same. -/
theorem continueRun_composes (session : Session) :
    (∀ first second, 0 < first → (session.run first).2 = .ok () →
      (session.run first).1.continueRun second = session.run (first + second)) ∧
    (∀ first second, session.cyclesCompleted ≠ 0 → (session.continueRun first).2 = .ok () →
      (session.continueRun first).1.continueRun second = session.continueRun (first + second)) ∧
    (∀ first second fault, (session.run first).2 = .error fault →
      session.run (first + second) = session.run first) ∧
    ∀ first second fault, (session.continueRun first).2 = .error fault →
      session.continueRun (first + second) = session.continueRun first := by
  refine ⟨fun first second hpos hok => ?_, fun first second hstarted hok => ?_,
    fun first second fault herror => execute_add_of_error herror second,
    fun first second fault herror => ?_⟩
  · -- the cold start sets the count to zero, so the cycles of the first part are what it continues from
    have hcold : session.restart.cyclesCompleted = 0 := rfl
    exact continueRun_execute hok (by omega) second
  · rw [continueRun_started hstarted] at hok ⊢
    rw [continueRun_started hstarted]
    exact continueRun_execute hok (by omega) second
  · -- a session that has not been started refuses both alike
    by_cases hcold : session.cyclesCompleted = 0
    · rw [continueRun_unstarted hcold, continueRun_unstarted hcold]
    · rw [continueRun_started hcold] at herror
      rw [continueRun_started hcold, continueRun_started hcold]
      exact execute_add_of_error herror second

/-- A gate that drives itself while a clock is high, with the gate monitored. The clock goes high in the
third cycle. -/
def slowLoop : Session where
  names := .empty
  simulator := .new
    ⟨[⟨⟨27⟩, "C", [], .clock 3 0 .low⟩,
      ⟨⟨28⟩, "G", [(.gate 1, some ⟨⟨27⟩, .main⟩), (.gate 2, some ⟨⟨28⟩, .main⟩)],
        .gate .nand 2 .low⟩]⟩ none
  monitors := ⟨[⟨⟨⟨28⟩, .main⟩, #[]⟩]⟩

/-- A run of four cycles stops in its third one. So does a run of one cycle that is continued by three,
and one that is continued by one and then by two. -/
theorem continueRun_composes_slowLoop :
    let started := (slowLoop.run 1).1
    (0 < 1 ∧ (slowLoop.run 1).2 = .ok () ∧ started.continueRun 3 = slowLoop.run 4) ∧
    (started.cyclesCompleted ≠ 0 ∧ (started.continueRun 1).2 = .ok () ∧
      (started.continueRun 1).1.continueRun 2 = started.continueRun 3) ∧
    ((slowLoop.run 4).2 = .error (.oscillating 3 3) ∧ slowLoop.run 6 = slowLoop.run 4) ∧
    ((started.continueRun 3).2 = .error (.oscillating 3 3) ∧
      started.continueRun 5 = started.continueRun 3) ∧
    (slowLoop.run 4).1.cyclesCompleted = 2 ∧
    (slowLoop.run 4).1.monitors.entries = [⟨⟨⟨28⟩, .main⟩, #[.high, .high]⟩] := by
  intro started
  have hfacts : (slowLoop.run 1).2 = .ok () ∧ started.cyclesCompleted ≠ 0 ∧
      (started.continueRun 1).2 = .ok () ∧ (slowLoop.run 4).2 = .error (.oscillating 3 3) ∧
      (started.continueRun 3).2 = .error (.oscillating 3 3) ∧
      (slowLoop.run 4).1.cyclesCompleted = 2 ∧
      (slowLoop.run 4).1.monitors.entries = [⟨⟨⟨28⟩, .main⟩, #[.high, .high]⟩] := by
    decide +kernel
  obtain ⟨hrun, hstarted, hcontinue, hlonger, hcontinued, hcount, hhistory⟩ := hfacts
  obtain ⟨hruns, -, hfailed, -⟩ := continueRun_composes slowLoop
  obtain ⟨-, hcontinues, -, hstopped⟩ := continueRun_composes started
  exact ⟨⟨by decide, hrun, hruns 1 3 (by decide) hrun⟩,
    ⟨hstarted, hcontinue, hcontinues 1 2 hstarted hcontinue⟩,
    ⟨hlonger, hfailed 4 2 _ hlonger⟩, ⟨hcontinued, hstopped 3 2 _ hcontinued⟩, hcount, hhistory⟩

end Session

end LogicCircuit
