import RegisterMachine.Proofs.Run.Lifecycle

/-!
# Operations as steps

Every operation that runs instructions is a number of steps, whatever the program.  A bounded run
takes steps until one answers that there is nothing left or until the limit is reached, and a run
to the end is the bounded run that all its rounds together allow.
-/

namespace RegisterMachine

namespace State

/-- The answers of a number of steps, in order. -/
def answers (program : Program) : Nat → State → List Bool
  | 0, _ => []
  | count + 1, state =>
    (state.step program).continues ::
      answers program count (state.step program).state

theorem answers_add
    (program : Program) (first second : Nat) (state : State) :
    state.answers program (first + second) =
      state.answers program first ++
        (state.after program first).answers program second := by
  induction first generalizing state with
  | zero => rw [Nat.zero_add, answers, after, List.nil_append]
  | succ first inductionHypothesis =>
      rw [Nat.succ_add, answers, answers, after,
        inductionHypothesis (state.step program).state, List.cons_append]

end State

namespace Machine

variable {machine final : Machine} {limit : Nat}

/-! ## Calls of a single step -/

theorem stepMany_eq (count : Nat) (machine : Machine) :
    machine.stepMany count =
      (machine.advance count,
        machine.state.answers machine.program count) := by
  induction count generalizing machine with
  | zero => rfl
  | succ count inductionHypothesis =>
      rw [stepMany, step_eq, inductionHypothesis (machine.advance 1),
        Nat.add_comm count 1, advance_add, Nat.add_comm 1 count]
      rfl

/-- The events that some calls of `step` report, in order. -/
def heardStepping (machine : Machine) (count : Nat) : List Event :=
  ((machine.setSink (.record #[])).stepMany count).1.sink.recorded

theorem heardStepping_eq_reports (machine : Machine) (count : Nat) :
    machine.heardStepping count =
      machine.state.reports machine.program count := by
  rw [heardStepping, stepMany_eq]
  exact Trace.Sink.recorded_receiveAll_record #[] _

/-! ## Bounded runs -/

/-- The number of steps that a bounded run takes. -/
def calls : Nat → Machine → Nat
  | 0, _ => 0
  | limit + 1, machine =>
    if machine.step.2 then calls limit machine.step.1 + 1 else 1

theorem runLimit_fst_eq_advance (limit : Nat) (machine : Machine) :
    (machine.runLimit limit).1 =
      machine.advance (machine.calls limit) := by
  induction limit generalizing machine with
  | zero =>
      rw [runLimit]
      cases machine.status <;> rfl
  | succ limit inductionHypothesis =>
      have next : machine.step.1 = machine.advance 1 :=
        congrArg Prod.fst machine.step_eq
      rw [runLimit_succ, calls]
      cases machine.step.2 with
      | false => exact next
      | true =>
          rw [if_pos rfl, if_pos rfl, inductionHypothesis, next,
            Nat.add_comm _ 1, advance_add]

theorem runLimit_of_ended
    (ended : machine.state.Ended machine.program) (limit : Nat) :
    machine.runLimit limit = (machine, .halted) := by
  cases limit with
  | zero => rw [runLimit, (status_eq_halted_iff machine).mpr ended]
  | succ limit =>
      rw [runLimit_succ, step_eq, State.step_of_ended ended,
        advance_of_ended ended]
      rfl

/-- A limit can be given in two parts.  The second counts only if the first was not enough. -/
theorem runLimit_add (limit more : Nat) (machine : Machine) :
    machine.runLimit (limit + more) =
      match machine.runLimit limit with
      | (final, .halted) => (final, .halted)
      | (final, .stepLimit) => final.runLimit more := by
  induction limit generalizing machine with
  | zero =>
      rw [Nat.zero_add]
      cases status : machine.status with
      | ready =>
          have first : machine.runLimit 0 = (machine, .stepLimit) := by
            rw [runLimit, status]
          rw [first]
      | halted =>
          have ended := (status_eq_halted_iff machine).mp status
          rw [runLimit_of_ended ended 0, runLimit_of_ended ended more]
  | succ limit inductionHypothesis =>
      rw [Nat.succ_add, runLimit_succ, runLimit_succ]
      cases machine.step.2 with
      | false => rfl
      | true => exact inductionHypothesis machine.step.1

/-! ## Runs to the end -/

theorem runLimit_of_runRounds
    {rounds : Nat} (ran : runRounds rounds limit machine = some final) :
    machine.runLimit ((2 ^ rounds - 1) * limit) = (final, .halted) := by
  induction rounds generalizing limit machine with
  | zero => cases ran
  | succ rounds inductionHypothesis =>
      rw [runRounds] at ran
      rw [steps_of_rounds_succ]
      rw [runLimit_add]
      generalize machine.runLimit limit = first at ran ⊢
      obtain ⟨middle, outcome⟩ := first
      cases outcome with
      | halted =>
          cases ran
          rfl
      | stepLimit => exact inductionHypothesis ran

/-- The number of steps that the rounds of a run to the end allow. -/
def allowance (machine : Machine) : Nat :=
  2 ^ (machine.stateBits + 1) - 1

theorem runLimit_allowance_of_run (ran : machine.run = some final) :
    machine.runLimit machine.allowance = (final, .halted) := by
  have halted := runLimit_of_runRounds ran
  rwa [Nat.mul_one] at halted

end Machine

/-! ## Operations -/

namespace Operation

/-- The number of steps that an operation takes. -/
def steps (machine : Machine) : Operation → Nat
  | .step => 1
  | .runLimit limit => machine.calls limit
  | .run => machine.calls machine.allowance
  | _ => 0

end Operation

namespace Machine

/-- The machine after some operations.  There is none after a run that never ends. -/
def perform : List Operation → Machine → Option Machine
  | [], machine => some machine
  | operation :: operations, machine =>
    (operation.apply machine).bind (perform operations)

end Machine

end RegisterMachine
