import RegisterMachine.Machine.Basic
import RegisterMachine.Proofs.Execution.Frame
import RegisterMachine.Proofs.Trace.Sink
import RegisterMachine.Proofs.Word

/-!
# Many steps

`State.after` is the state that a number of steps leads to and `State.reports` is what these steps
report.  As long as none of them finds the program at its end (`State.Runs`), each runs one
instruction and the clock counts it.  A machine runs exactly these steps:
`Machine.runLimit_eq_advance` says so for every limit and every program that a counter can pass.
-/

namespace RegisterMachine

namespace State

/-- The state after a number of steps. -/
def after (program : Program) : Nat → State → State
  | 0, state => state
  | count + 1, state => after program count (state.step program).state

/-- The events of a number of steps, in order. -/
def reports (program : Program) : Nat → State → List Event
  | 0, _ => []
  | count + 1, state =>
    (state.step program).events ++
      reports program count (state.step program).state

/-- Nothing is left to run. -/
def Ended (program : Program) (state : State) : Prop :=
  program.size ≤ state.counter.toNat

instance (program : Program) (state : State) :
    Decidable (state.Ended program) :=
  inferInstanceAs (Decidable (program.size ≤ state.counter.toNat))

/-- Each of the first `count` steps has an instruction to run. -/
def Runs (program : Program) (count : Nat) (state : State) : Prop :=
  ∀ earlier < count, ¬ (state.after program earlier).Ended program

variable {program : Program} {state : State}

/-! ## One step -/

theorem step_of_ended (ended : state.Ended program) :
    state.step program = ⟨state, [], false⟩ :=
  step_of_size_le ended

theorem exists_fetched (notEnded : ¬ state.Ended program) :
    ∃ instruction,
      program[state.counter.toNat]? = some instruction := by
  have inside : state.counter.toNat < program.size := by
    unfold Ended at notEnded
    omega
  exact ⟨program[state.counter.toNat], Array.getElem?_eq_getElem inside⟩

theorem clock_step (notEnded : ¬ state.Ended program) :
    (state.step program).state.clock = state.clock + 1 := by
  obtain ⟨instruction, fetched⟩ := exists_fetched notEnded
  rw [step_of_getElem? fetched]

theorem steps_of_clock_eq_add
    {count : Nat} {later : State}
    (clock_eq : later.clock = state.clock + UInt64.ofNat count) :
    later.steps = (state.steps + count) % 2 ^ 64 := by
  rw [steps, clock_eq, UInt64.toNat_add, UInt64.toNat_ofNat',
    Nat.add_mod_mod, steps]

/-- The answer of a step agrees with the state that it leaves.  A program too long for the counter
could end at a counter that is still inside it. -/
theorem continues_step_iff
    (fits : program.size < 2 ^ 32) (state : State) :
    (state.step program).continues = true ↔
      ¬ (state.step program).state.Ended program := by
  by_cases ended : state.Ended program
  · rw [step_of_ended ended]
    simp [ended]
  · obtain ⟨instruction, fetched⟩ := exists_fetched ended
    rw [step_of_getElem? fetched]
    dsimp only [Ended]
    cases (instruction.execute program.size state.toStorage).2 with
    | next => simp [Ending.continues]
    | jump target => simp [Ending.continues]
    | fault reason => simp [Ending.continues]
    | halt =>
        simp [Ending.continues, Ending.counterAfter,
          Word.toNat_saturate fits]

/-! ## Many steps -/

theorem after_add (program : Program) (first second : Nat)
    (state : State) :
    state.after program (first + second) =
      (state.after program first).after program second := by
  induction first generalizing state with
  | zero => rw [Nat.zero_add, after]
  | succ first inductionHypothesis =>
      rw [Nat.succ_add, after, after]
      exact inductionHypothesis (state.step program).state

theorem reports_add (program : Program) (first second : Nat)
    (state : State) :
    state.reports program (first + second) =
      state.reports program first ++
        (state.after program first).reports program second := by
  induction first generalizing state with
  | zero => rw [Nat.zero_add, reports, after, List.nil_append]
  | succ first inductionHypothesis =>
      rw [Nat.succ_add, reports, reports, after,
        inductionHypothesis (state.step program).state,
        List.append_assoc]

theorem after_of_ended (ended : state.Ended program) (count : Nat) :
    state.after program count = state := by
  induction count with
  | zero => rfl
  | succ count inductionHypothesis =>
      rw [after, step_of_ended ended]
      exact inductionHypothesis

theorem reports_of_ended (ended : state.Ended program) (count : Nat) :
    state.reports program count = [] := by
  induction count with
  | zero => rfl
  | succ count inductionHypothesis =>
      rw [reports, step_of_ended ended]
      exact inductionHypothesis

theorem size_memory_after (program : Program) (count : Nat)
    (state : State) :
    (state.after program count).memory.size = state.memory.size := by
  induction count generalizing state with
  | zero => rfl
  | succ count inductionHypothesis =>
      rw [after, inductionHypothesis (state.step program).state,
        size_memory_step]

/-! ## Steps that all run an instruction -/

theorem runs_zero (program : Program) (state : State) :
    state.Runs program 0 :=
  fun earlier isEarlier => absurd isEarlier (Nat.not_lt_zero earlier)

theorem runs_one (notEnded : ¬ state.Ended program) :
    state.Runs program 1 := by
  intro earlier isEarlier
  rw [Nat.lt_one_iff.mp isEarlier]
  exact notEnded

theorem Runs.add
    {first second : Nat}
    (before : state.Runs program first)
    (behind : (state.after program first).Runs program second) :
    state.Runs program (first + second) := by
  intro earlier isEarlier
  rcases Nat.lt_or_ge earlier first with inFirst | inSecond
  · exact before earlier inFirst
  · have split := Nat.add_sub_cancel' inSecond
    rw [← split, after_add]
    exact behind (earlier - first) (by omega)

theorem ended_after_of_le
    {count later : Nat}
    (ended : (state.after program count).Ended program)
    (isLater : count ≤ later) :
    (state.after program later).Ended program := by
  rw [← Nat.add_sub_cancel' isLater, after_add, after_of_ended ended]
  exact ended

theorem runs_of_not_ended
    {count : Nat}
    (notEnded : ¬ (state.after program count).Ended program) :
    state.Runs program count :=
  fun _ isEarlier ended =>
    notEnded (ended_after_of_le ended (Nat.le_of_lt isEarlier))

theorem clock_after
    {count : Nat} (runs : state.Runs program count) :
    (state.after program count).clock =
      state.clock + UInt64.ofNat count := by
  induction count with
  | zero => exact (UInt64.add_zero state.clock).symm
  | succ count inductionHypothesis =>
      have notEnded := runs count (Nat.lt_succ_self count)
      have before :=
        inductionHypothesis fun earlier isEarlier =>
          runs earlier (Nat.lt_succ_of_lt isEarlier)
      have last :
          ((state.after program count).after program 1).clock = _ :=
        clock_step notEnded
      rw [after_add, last, before, UInt64.ofNat_add, UInt64.add_assoc]
      rfl

/-- The clock counts the instructions modulo `2 ^ 64`. -/
theorem steps_after
    {count : Nat} (runs : state.Runs program count) :
    (state.after program count).steps =
      (state.steps + count) % 2 ^ 64 :=
  steps_of_clock_eq_add (clock_after runs)

/-- Of any number of steps some run an instruction, and these are all that do anything. -/
theorem exists_runs (program : Program) (count : Nat) (state : State) :
    ∃ effective,
      effective ≤ count ∧ state.Runs program effective ∧
        state.after program effective = state.after program count := by
  induction count with
  | zero => exact ⟨0, Nat.le_refl 0, runs_zero program state, rfl⟩
  | succ count inductionHypothesis =>
      obtain ⟨effective, bound, runs, same⟩ := inductionHypothesis
      by_cases ended : (state.after program count).Ended program
      · refine ⟨effective, Nat.le_succ_of_le bound, runs, ?_⟩
        rw [same, after_add, after_of_ended ended]
      · exact
          ⟨count + 1, Nat.le_refl (count + 1),
            (runs_of_not_ended ended).add (runs_one ended), rfl⟩

theorem steps_after_le (program : Program) (count : Nat)
    (state : State) :
    (state.after program count).steps ≤ state.steps + count := by
  obtain ⟨effective, bound, runs, same⟩ := exists_runs program count state
  rw [← same, steps_after runs]
  exact
    Nat.le_trans (Nat.mod_le (state.steps + effective) (2 ^ 64))
      (Nat.add_le_add_left bound state.steps)

end State

namespace Machine

/-- The machine after a number of steps. -/
def advance (machine : Machine) (count : Nat) : Machine :=
  { machine with
      state := machine.state.after machine.program count
      sink :=
        machine.sink.receiveAll
          (machine.state.reports machine.program count) }

theorem status_eq_ready_iff (machine : Machine) :
    machine.status = .ready ↔
      ¬ machine.state.Ended machine.program := by
  unfold status State.Ended
  by_cases inside :
      machine.state.counter.toNat < machine.program.size
  · simp [inside]
  · simp [inside, Nat.not_lt.mp inside]

theorem status_eq_halted_iff (machine : Machine) :
    machine.status = .halted ↔
      machine.state.Ended machine.program := by
  have ready := machine.status_eq_ready_iff
  cases status : machine.status with
  | ready => simpa [status] using ready
  | halted => simpa [status] using ready

theorem step_eq (machine : Machine) :
    machine.step =
      (machine.advance 1,
        (machine.state.step machine.program).continues) := by
  simp only [step, advance, State.after, State.reports,
    List.append_nil]

theorem advance_add (machine : Machine) (first second : Nat) :
    machine.advance (first + second) =
      (machine.advance first).advance second := by
  simp only [advance, State.after_add, State.reports_add,
    Trace.Sink.receiveAll_append]

theorem advance_of_ended
    {machine : Machine} (ended : machine.state.Ended machine.program)
    (count : Nat) :
    machine.advance count = machine := by
  simp only [advance, State.after_of_ended ended,
    State.reports_of_ended ended, Trace.Sink.receiveAll,
    List.foldl_nil]

/-- How a bounded run ends, read off the machine that it leaves. -/
def outcome (machine : Machine) : RunOutcome :=
  match machine.status with
  | .ready => .stepLimit
  | .halted => .halted

theorem outcome_eq_halted_iff (machine : Machine) :
    machine.outcome = .halted ↔
      machine.state.Ended machine.program := by
  rw [← status_eq_halted_iff]
  unfold outcome
  cases machine.status with
  | ready => exact iff_of_false nofun nofun
  | halted => exact iff_of_true rfl rfl

theorem outcome_eq_stepLimit_iff (machine : Machine) :
    machine.outcome = .stepLimit ↔ machine.status = .ready := by
  unfold outcome
  cases machine.status with
  | ready => exact iff_of_true rfl rfl
  | halted => exact iff_of_false nofun nofun

/-- A bounded run takes as many steps as its limit allows, and its answer tells whether the machine
is still ready. -/
theorem runLimit_eq_advance
    (limit : Nat) (machine : Machine)
    (fits : machine.program.size < 2 ^ 32) :
    machine.runLimit limit =
      (machine.advance limit, (machine.advance limit).outcome) := by
  induction limit generalizing machine with
  | zero =>
      have unmoved : machine.advance 0 = machine := rfl
      rw [unmoved, runLimit, outcome]
      cases machine.status with
      | ready => rfl
      | halted => rfl
  | succ limit inductionHypothesis =>
      have answer :=
        State.continues_step_iff fits machine.state
      rw [Nat.add_comm limit 1, advance_add, Nat.add_comm 1 limit,
        runLimit, step_eq]
      cases continues :
          (machine.state.step machine.program).continues with
      | true => exact inductionHypothesis (machine.advance 1) fits
      | false =>
          have ended :
              (machine.advance 1).state.Ended
                (machine.advance 1).program := by
            apply Decidable.byContradiction
            intro notEnded
            rw [answer.mpr notEnded] at continues
            exact Bool.noConfusion continues
          rw [advance_of_ended ended,
            (outcome_eq_halted_iff (machine.advance 1)).mpr ended]

end Machine

end RegisterMachine
