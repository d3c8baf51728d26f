import RegisterMachine.Proofs.Run.Halting

/-!
# Three ways to run

A machine can be driven step by step, with a limit, and to the end.  All three go through the same
machines: limits add up, a limit stands for that many steps unless one of them answers that there
is nothing left to run, and a run to the end is what every large enough limit gives.
-/

namespace RegisterMachine

/-! ## Recorded events -/

namespace Trace.Sink

/-- The events of a sink that keeps them. -/
def recorded : Sink → List Event
  | record events => events.toList
  | _ => []

theorem recorded_receiveAll_record
    (earlier : Array Event) (later : List Event) :
    ((record earlier).receiveAll later).recorded =
      earlier.toList ++ later := by
  rw [receiveAll_record, recorded, Array.toList_append]

end Trace.Sink

namespace Machine

variable {machine final : Machine} {count limit : Nat}

theorem exists_haltsAfter_of_ended
    (fits : machine.program.size < 2 ^ 32)
    (ended : (machine.advance count).state.Ended machine.program) :
    ∃ effective,
      effective ≤ count ∧
        machine.HaltsAfter effective (machine.advance count) := by
  obtain ⟨effective, bound, runs, same⟩ :=
    State.exists_runs machine.program count machine.state
  have endedBefore :
      (machine.advance effective).state.Ended machine.program :=
    (congrArg (State.Ended machine.program) same).mpr ended
  rw [advance_eq_of_ended endedBefore bound]
  exact ⟨effective, bound, haltsAfter_of_runs fits runs endedBefore⟩

theorem exists_advance_of_runRounds
    {rounds : Nat} (fits : machine.program.size < 2 ^ 32)
    (halts : runRounds rounds limit machine = some final) :
    ∃ count,
      machine.advance count = final ∧ final.state.Ended machine.program := by
  induction rounds generalizing limit machine with
  | zero => cases halts
  | succ rounds inductionHypothesis =>
      rw [runRounds, runLimit_eq_advance limit machine fits] at halts
      cases outcome : (machine.advance limit).outcome with
      | halted =>
          rw [outcome] at halts
          cases halts
          exact
            ⟨limit, rfl, (outcome_eq_halted_iff (machine.advance limit)).mp outcome⟩
      | stepLimit =>
          rw [outcome] at halts
          have fits : (machine.advance limit).program.size < 2 ^ 32 := fits
          obtain ⟨count, reached, ended⟩ := inductionHypothesis fits halts
          refine ⟨limit + count, ?_, ended⟩
          rw [advance_add, reached]

/-- A run to the end has an answer exactly if the machine halts. -/
theorem run_eq_some_iff (fits : machine.program.size < 2 ^ 32) :
    machine.run = some final ↔ ∃ count, machine.HaltsAfter count final := by
  constructor
  · intro halts
    obtain ⟨count, rfl, ended⟩ := exists_advance_of_runRounds fits halts
    obtain ⟨effective, -, haltsAfter⟩ := exists_haltsAfter_of_ended fits ended
    exact ⟨effective, haltsAfter⟩
  · rintro ⟨count, haltsAfter⟩
    exact haltsAfter.run

/-! ## What is heard of a run -/

/-- The events that a bounded run reports, in order. -/
def heard (machine : Machine) (limit : Nat) : List Event :=
  ((machine.setSink (.record #[])).runLimit limit).1.sink.recorded

theorem heard_eq_reports
    (fits : machine.program.size < 2 ^ 32) (limit : Nat) :
    machine.heard limit =
      machine.state.reports machine.program limit := by
  have listening := (machine.setSink (.record #[])).runLimit_eq_advance limit fits
  rw [heard, listening]
  exact Trace.Sink.recorded_receiveAll_record #[] _

/-! ## Steps that are called one by one -/

/-- The machine after some calls of `step`, and the answers of these calls. -/
def stepMany : Nat → Machine → Machine × List Bool
  | 0, machine => (machine, [])
  | count + 1, machine =>
    let rest := stepMany count machine.step.1
    (rest.1, machine.step.2 :: rest.2)

theorem runLimit_succ (machine : Machine) (limit : Nat) :
    machine.runLimit (limit + 1) =
      if machine.step.2 then machine.step.1.runLimit limit
      else (machine.step.1, .halted) := by
  rw [runLimit]
  obtain ⟨next, answer⟩ := machine.step
  cases answer <;> rfl

/-- A bounded run steps until the first step that answers that there is nothing left, or as often
as it may. -/
theorem stepMany_of_runLimit (limit : Nat) (machine : Machine) :
    machine.stepMany limit =
        ((machine.runLimit limit).1, List.replicate limit true) ∨
      ∃ calls < limit,
        machine.stepMany (calls + 1) =
          ((machine.runLimit limit).1,
            List.replicate calls true ++ [false]) := by
  induction limit generalizing machine with
  | zero =>
      left
      rw [runLimit]
      cases machine.status with
      | ready => rfl
      | halted => rfl
  | succ limit inductionHypothesis =>
      rw [runLimit_succ]
      cases answer : machine.step.2 with
      | false =>
          refine Or.inr ⟨0, Nat.succ_pos limit, ?_⟩
          rw [stepMany, answer]
          rfl
      | true =>
          rcases inductionHypothesis machine.step.1 with
            unstopped | ⟨calls, few, stopped⟩
          · left
            rw [stepMany, answer, unstopped]
            rfl
          · refine Or.inr ⟨calls + 1, Nat.succ_lt_succ few, ?_⟩
            rw [stepMany, answer, stopped]
            rfl

theorem runLimit_of_stepMany
    {calls : Nat}
    (stopped :
      machine.stepMany (calls + 1) =
        (final, List.replicate calls true ++ [false]))
    (enough : calls < limit) :
    machine.runLimit limit = (final, .halted) := by
  induction calls generalizing machine limit with
  | zero =>
      obtain ⟨limit, rfl⟩ := Nat.exists_eq_add_one_of_ne_zero (Nat.ne_of_gt enough)
      rw [stepMany, Prod.mk.injEq] at stopped
      obtain ⟨reached, answers⟩ := stopped
      have answer : machine.step.2 = false := (List.cons.inj answers).1
      rw [runLimit_succ, answer]
      exact congrArg (·, RunOutcome.halted) reached
  | succ calls inductionHypothesis =>
      obtain ⟨limit, rfl⟩ :=
        Nat.exists_eq_add_one_of_ne_zero (Nat.ne_of_gt (Nat.zero_lt_of_lt enough))
      rw [stepMany, Prod.mk.injEq] at stopped
      obtain ⟨reached, answers⟩ := stopped
      obtain ⟨answer, answers⟩ := List.cons.inj answers
      rw [runLimit_succ, answer]
      exact
        inductionHypothesis (Prod.ext reached answers)
          (Nat.lt_of_succ_lt_succ enough)

theorem status_of_stepMany
    {count : Nat} (fits : machine.program.size < 2 ^ 32)
    (positive : 0 < count)
    (unstopped :
      machine.stepMany count = (final, List.replicate count true)) :
    final.status = .ready := by
  induction count generalizing machine with
  | zero => exact absurd positive (Nat.lt_irrefl 0)
  | succ count inductionHypothesis =>
      rw [stepMany, Prod.mk.injEq] at unstopped
      obtain ⟨reached, answers⟩ := unstopped
      obtain ⟨answer, answers⟩ := List.cons.inj answers
      rcases Nat.eq_zero_or_pos count with last | more
      · subst last
        rw [← reached]
        rw [step_eq] at answer
        exact
          (status_eq_ready_iff (machine.advance 1)).mpr
            ((State.continues_step_iff fits machine.state).mp answer)
      · have fits : machine.step.1.program.size < 2 ^ 32 := fits
        exact inductionHypothesis fits more (Prod.ext reached answers)

/-- A run to the end is a loop that steps until a step answers that there is nothing left. -/
theorem run_eq_some_iff_stepMany
    (fits : machine.program.size < 2 ^ 32) :
    machine.run = some final ↔
      ∃ calls,
        machine.stepMany (calls + 1) =
          (final, List.replicate calls true ++ [false]) := by
  rw [run_eq_some_iff fits]
  constructor
  · rintro ⟨count, haltsAfter⟩
    have halted :=
      haltsAfter.runLimit_of_le (count + 1) (Nat.le_succ count)
    rcases stepMany_of_runLimit (count + 1) machine with
      unstopped | ⟨calls, -, stopped⟩
    -- One call more than there are instructions cannot be answered with yes throughout.
    · rw [halted] at unstopped
      have ready :=
        status_of_stepMany fits (Nat.succ_pos count) unstopped
      rw [haltsAfter.status] at ready
      cases ready
    · rw [halted] at stopped
      exact ⟨calls, stopped⟩
  · rintro ⟨calls, stopped⟩
    have halted := runLimit_of_stepMany stopped (Nat.lt_succ_self calls)
    rw [runLimit_eq_advance (calls + 1) machine fits, Prod.mk.injEq] at halted
    obtain ⟨rfl, outcome⟩ := halted
    obtain ⟨effective, -, haltsAfter⟩ :=
      exists_haltsAfter_of_ended fits ((outcome_eq_halted_iff _).mp outcome)
    exact ⟨effective, haltsAfter⟩

/-! ## The agreement -/

/-- The ways to run a machine agree with each other.  A run that its limit stops has run that many
instructions, which the clock counts modulo `2 ^ 64`. -/
structure RunsAgree (machine : Machine) : Prop where
  runLimit_add :
    ∀ first second,
      (machine.runLimit first).1.runLimit second =
        machine.runLimit (first + second)
  heard_add :
    ∀ first second,
      machine.heard (first + second) =
        machine.heard first ++ (machine.runLimit first).1.heard second
  stepMany :
    ∀ limit,
      machine.stepMany limit =
          ((machine.runLimit limit).1, List.replicate limit true) ∨
        ∃ calls < limit,
          machine.stepMany (calls + 1) =
            ((machine.runLimit limit).1,
              List.replicate calls true ++ [false])
  stepLimit_iff :
    ∀ limit,
      (machine.runLimit limit).2 = .stepLimit ↔
        (machine.runLimit limit).1.status = .ready
  steps_of_stepLimit :
    ∀ limit,
      (machine.runLimit limit).2 = .stepLimit →
        (machine.runLimit limit).1.state.steps =
          (machine.state.steps + limit) % 2 ^ 64
  run_eq_some_iff_stepMany :
    ∀ final,
      machine.run = some final ↔
        ∃ calls,
          machine.stepMany (calls + 1) =
            (final, List.replicate calls true ++ [false])
  haltsAfter_of_run :
    ∀ final,
      machine.run = some final →
        ∃ count, machine.HaltsAfter count final

/-- Whatever the program does, it does the same however the machine is driven. -/
theorem runsAgree (fits : machine.program.size < 2 ^ 32) :
    machine.RunsAgree where
  runLimit_add first second := by
    have whole := runLimit_eq_advance (first + second) machine fits
    rw [runLimit_eq_advance first machine fits,
      runLimit_eq_advance second (machine.advance first) fits, whole,
      advance_add]
  heard_add first second := by
    have fitsBehind : (machine.advance first).program.size < 2 ^ 32 := fits
    rw [runLimit_eq_advance first machine fits, heard_eq_reports fits,
      heard_eq_reports fits, heard_eq_reports fitsBehind]
    exact State.reports_add machine.program first second machine.state
  stepMany limit := stepMany_of_runLimit limit machine
  stepLimit_iff limit := by
    rw [runLimit_eq_advance limit machine fits]
    exact outcome_eq_stepLimit_iff (machine.advance limit)
  steps_of_stepLimit limit stopped := by
    rw [runLimit_eq_advance limit machine fits] at stopped ⊢
    have ready := (outcome_eq_stepLimit_iff _).mp stopped
    have notEnded := (status_eq_ready_iff (machine.advance limit)).mp ready
    exact State.steps_after (State.runs_of_not_ended notEnded)
  run_eq_some_iff_stepMany final := run_eq_some_iff_stepMany fits
  haltsAfter_of_run final := (run_eq_some_iff fits).mp

/-- A program that walks off its end with the last step that it is allowed. -/
theorem runsAgree_walkOff :
    let machine :=
      (create 4 1 .silent).load
        #[Instruction.loadImmediate 0 5, Instruction.add 1 0 0]
    machine.program.size < 2 ^ 32 ∧
      (machine.runLimit 1).2 = .stepLimit ∧
      (machine.runLimit 1).1.state.steps = 1 ∧
      (machine.runLimit 1).1.runLimit 1 = machine.runLimit 2 ∧
      (machine.runLimit 2).2 = .halted ∧
      machine.run = some (machine.stepMany 2).1 := by
  intro machine
  have fits : machine.program.size < 2 ^ 32 := by decide
  have agree : machine.RunsAgree := runsAgree fits
  have limited : (machine.runLimit 1).2 = .stepLimit := by decide
  refine
    ⟨fits, limited, agree.steps_of_stepLimit 1 limited,
      agree.runLimit_add 1 1, by decide, ?_⟩
  refine (agree.run_eq_some_iff_stepMany _).mpr ⟨1, ?_⟩
  decide

end Machine

end RegisterMachine
