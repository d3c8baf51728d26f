import RegisterMachine.Proofs.Run.Limit
import RegisterMachine.Report.Basic

/-!
# Limits and reports

A limit cuts a run short or leaves it alone, and the report tells which.  A report on a halted run
is the same for all limits that do not cut the run, and without a limit.
-/

namespace RegisterMachine

/-- What a limit has to do with the report on a run.  The program has `size` instructions, and `run`
answers for every limit and for none.  The clock tells the number of steps modulo `2 ^ 64`, so a
limit of 64 bits is told as it is. -/
structure Limited
    (size : Nat) (run : Option Nat → Option (Machine × Report))
    (limit : Nat) (final : Machine) (report : Report) : Prop where
  steps_le : report.steps ≤ limit
  stepLimit_iff : report.outcome = .stepLimit ↔ report.counter.toNat < size
  steps_eq : report.outcome = .stepLimit → report.steps = limit % 2 ^ 64
  stepLimit_earlier :
    report.outcome = .stepLimit →
      ∀ fewer ≤ limit,
        ∃ earlier earlierReport,
          run (some fewer) = some (earlier, earlierReport) ∧
            earlierReport.outcome = .stepLimit ∧
            earlierReport.steps = fewer % 2 ^ 64
  same_later :
    report.outcome = .halted →
      ∀ more, limit ≤ more → run (some more) = some (final, report)
  same_unlimited :
    report.outcome = .halted → run none = some (final, report)

namespace Machine

variable {machine final : Machine} {limit : Nat} {report : Report}

/-- Runs to the end, or up to the limit if there is one, and reports on the run. -/
def reported
    (machine : Machine) (name : String) (watch : List Word)
    (maxSteps : Option Nat) : Option (Machine × Report) :=
  (machine.runWithin maxSteps).map fun run =>
    (run.1, Report.capture name run.1 run.2 watch)

section Reported

variable {name : String} {watch : List Word}

theorem reported_limit
    (fits : machine.program.size < 2 ^ 32) (limit : Nat) :
    machine.reported name watch (some limit) =
      some
        (machine.advance limit,
          Report.capture name (machine.advance limit)
            (machine.advance limit).outcome watch) := by
  rw [reported, runWithin, runLimit_eq_advance limit machine fits]
  rfl

theorem reported_none
    (fits : machine.program.size < 2 ^ 32)
    (ended : (machine.advance limit).state.Ended machine.program) :
    machine.reported name watch none =
      machine.reported name watch (some limit) := by
  obtain ⟨effective, -, halts⟩ := exists_haltsAfter_of_ended fits ended
  have outcome_eq := (outcome_eq_halted_iff (machine.advance limit)).mpr ended
  rw [reported_limit fits, outcome_eq, reported, runWithin, halts.run]
  rfl

/-- Without a limit there is a report only if the machine halts, and then some limit gives it too. -/
theorem exists_limit_of_reported_none
    (fits : machine.program.size < 2 ^ 32)
    (unlimited : machine.reported name watch none = some (final, report)) :
    ∃ limit,
      machine.reported name watch (some limit) = some (final, report) ∧
        report.outcome = .halted := by
  obtain ⟨run, ran, captured⟩ := Option.map_eq_some_iff.mp unlimited
  obtain ⟨halted, halts, rfl⟩ := Option.map_eq_some_iff.mp ran
  obtain ⟨count, rfl, ended⟩ := exists_advance_of_runRounds fits halts
  refine ⟨count, ?_, ?_⟩
  · rw [← reported_none fits ended, unlimited]
  · rw [Prod.mk.injEq] at captured
    rw [← captured.2]
    rfl

theorem limited_reported
    (fits : machine.program.size < 2 ^ 32)
    (unused : machine.state.steps = 0) (limit : Nat) :
    ∃ final report,
      machine.reported name watch (some limit) = some (final, report) ∧
        Limited machine.program.size (machine.reported name watch) limit final
          report := by
  have stepLimit_iff (count : Nat) :
      (machine.advance count).outcome = .stepLimit ↔
        ¬ (machine.advance count).state.Ended machine.program :=
    (outcome_eq_stepLimit_iff _).trans (status_eq_ready_iff _)
  have steps_eq (count : Nat)
      (stopped : (machine.advance count).outcome = .stepLimit) :
      (machine.advance count).state.steps = count % 2 ^ 64 := by
    have runs := State.runs_of_not_ended ((stepLimit_iff count).mp stopped)
    have counted := State.steps_after runs
    rwa [unused, Nat.zero_add] at counted
  refine ⟨_, _, reported_limit fits limit, ?_⟩
  exact
    { steps_le := by
        have counted := State.steps_after_le machine.program limit machine.state
        rwa [unused, Nat.zero_add] at counted
      stepLimit_iff := (stepLimit_iff limit).trans Nat.not_le
      steps_eq := steps_eq limit
      stepLimit_earlier := by
        intro stopped fewer atMost
        have earlier : (machine.advance fewer).outcome = .stepLimit := by
          rw [stepLimit_iff]
          intro ended
          apply (stepLimit_iff limit).mp stopped
          rw [advance_eq_of_ended ended atMost]
          exact ended
        exact
          ⟨_, _, reported_limit fits fewer, earlier, steps_eq fewer earlier⟩
      same_later := by
        intro halted more enough
        have ended := (outcome_eq_halted_iff _).mp halted
        rw [reported_limit fits more, advance_eq_of_ended ended enough]
      same_unlimited := by
        intro halted
        have ended := (outcome_eq_halted_iff _).mp halted
        rw [reported_none fits ended, reported_limit fits limit] }

end Reported

end Machine

end RegisterMachine
