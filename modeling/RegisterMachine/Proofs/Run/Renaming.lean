import RegisterMachine.Proofs.Execution.Renaming
import RegisterMachine.Proofs.Run.Calls

/-!
# Runs with renamed registers

The registers are interchangeable.  A program whose register operands were renamed runs step by step
as the program does, with the same values under the new names: the counter, the flags, the memory
and the answers are the same, and so are the reports up to the names in the reported instructions.
-/

namespace RegisterMachine

variable (names : Equiv.Perm Register)

/-! ## Renaming -/

def Program.rename (program : Program) : Program :=
  program.map (Instruction.rename names)

/-- New names in the instruction that an event reports.  A fault keeps its reason. -/
def Event.rename (event : Event) : Event :=
  match event with
  | .instruction counter reported =>
    .instruction counter (reported.rename names)
  | .jump source target => .jump source target
  | .fault counter reported reason =>
    .fault counter (reported.rename names) reason
  | .halt counter => .halt counter

def State.rename (state : State) : State :=
  { state with registers := state.registers.rename names }

def StepResult.rename (result : StepResult) : StepResult where
  state := result.state.rename names
  events := result.events.map (Event.rename names)
  continues := result.continues

/-! ## Steps -/

theorem Ending.events_rename
    (ending : Ending) (counter : Word) (instruction : Instruction) :
    ending.events counter (instruction.rename names) =
      (ending.events counter instruction).map (Event.rename names) := by
  cases ending <;> rfl

namespace State

theorem counter_rename (state : State) :
    (state.rename names).counter = state.counter :=
  rfl

theorem clock_rename (state : State) :
    (state.rename names).clock = state.clock :=
  rfl

theorem flags_rename (state : State) :
    (state.rename names).flags = state.flags :=
  rfl

theorem memory_rename (state : State) :
    (state.rename names).memory = state.memory :=
  rfl

/-- Two states are the same up to the names of the registers. -/
structure SameUpTo (left right : State) : Prop where
  counter : right.counter = left.counter
  flags : right.flags = left.flags
  clock : right.clock = left.clock
  memory : right.memory = left.memory
  registers :
    ∀ register,
      right.registers.get (names register) = left.registers.get register

theorem sameUpTo_rename (state : State) :
    state.SameUpTo names (state.rename names) where
  counter := counter_rename names state
  flags := flags_rename names state
  clock := clock_rename names state
  memory := memory_rename names state
  registers := RegisterFile.get_rename names state.registers

variable (program : Program)

theorem start_rename (memory : Memory) :
    (start memory).rename names = start memory := by
  unfold rename start
  rw [RegisterFile.rename_clear]

theorem step_rename (state : State) :
    (state.rename names).step (program.rename names) =
      (state.step program).rename names := by
  have size : (program.rename names).size = program.size :=
    Array.size_map
  cases fetched : program[state.counter.toNat]? with
  | none =>
      have ended : state.Ended program :=
        Array.getElem?_eq_none_iff.mp fetched
      have renamedEnded :
          (state.rename names).Ended (program.rename names) := by
        unfold Ended
        rw [size, counter_rename]
        exact ended
      rw [step_of_ended ended, step_of_ended renamedEnded]
      rfl
  | some instruction =>
      have renamedFetched :
          (program.rename names)[(state.rename names).counter.toNat]? =
            some (instruction.rename names) := by
        rw [Program.rename, Array.getElem?_map, counter_rename, fetched]
        rfl
      have executed :=
        execute_rename names instruction program.size state.toStorage
      have storage :
          (state.rename names).toStorage = state.toStorage.rename names :=
        rfl
      rw [step_of_getElem? fetched, step_of_getElem? renamedFetched, size,
        storage, executed]
      dsimp only [Storage.renameOutcome]
      rw [Ending.events_rename, counter_rename]
      rfl

theorem after_rename (count : Nat) (state : State) :
    (state.rename names).after (program.rename names) count =
      (state.after program count).rename names := by
  induction count generalizing state with
  | zero => rfl
  | succ count inductionHypothesis =>
      rw [after, after, step_rename]
      exact inductionHypothesis (state.step program).state

theorem reports_rename (count : Nat) (state : State) :
    (state.rename names).reports (program.rename names) count =
      (state.reports program count).map (Event.rename names) := by
  induction count generalizing state with
  | zero => rfl
  | succ count inductionHypothesis =>
      have rest := inductionHypothesis (state.step program).state
      rw [reports, reports, step_rename, List.map_append]
      exact congrArg (_ ++ ·) rest

theorem answers_rename (count : Nat) (state : State) :
    (state.rename names).answers (program.rename names) count =
      state.answers program count := by
  induction count generalizing state with
  | zero => rfl
  | succ count inductionHypothesis =>
      have rest := inductionHypothesis (state.step program).state
      rw [answers, answers, step_rename]
      exact congrArg (_ :: ·) rest

end State

/-! ## Machines -/

namespace Machine

/-- After `count` steps two machines are in the same state up to the names of the registers, and
their steps were answered alike and reported alike up to these names. -/
structure SameUpTo (count : Nat) (left right : Machine) : Prop where
  state :
    (left.stepMany count).1.state.SameUpTo names
      (right.stepMany count).1.state
  answers : (right.stepMany count).2 = (left.stepMany count).2
  heard :
    right.heardStepping count =
      (left.heardStepping count).map (Event.rename names)

/-- The registers are interchangeable: new names for them change nothing but the names. -/
theorem sameUpTo_load_rename
    (names : Equiv.Perm Register) (program : Program)
    (machine : Machine) (count : Nat) :
    SameUpTo names count (machine.load program)
      (machine.load (program.rename names)) := by
  let start := State.start machine.memory
  have after := State.after_rename names program count start
  have reports := State.reports_rename names program count start
  have answers := State.answers_rename names program count start
  rw [State.start_rename] at after reports answers
  have reached :
      ((machine.load (program.rename names)).stepMany count).1.state =
        ((machine.load program).stepMany count).1.state.rename names := by
    rw [stepMany_eq, stepMany_eq]
    exact after
  refine ⟨?_, ?_, ?_⟩
  · rw [reached]
    exact State.sameUpTo_rename names _
  · rw [stepMany_eq, stepMany_eq]
    exact answers
  · rw [heardStepping_eq_reports, heardStepping_eq_reports]
    exact reports

end Machine

end RegisterMachine
