import RegisterMachine.Proofs.Run.Calls

/-!
# The memory and its history

A memory cell is written from outside and by the stores that run.  Whatever is done to a machine, a
cell holds what the latest of these writes gave it, and 0 before the first of them.  Loading,
resetting and all other instructions leave the memory as it is.
-/

namespace RegisterMachine

/-! ## The latest write -/

namespace Write

/-- The value that the latest write gave to a cell.  Before the first one the cell is as it was. -/
def latest (before address : Word) (writes : List Write) : Word :=
  match (writes.filter fun write => write.address = address).getLast? with
  | some write => write.value
  | none => before

theorem latest_cons (before address : Word) (write : Write) (writes : List Write) :
    latest before address (write :: writes) =
      latest (if write.address = address then write.value else before)
        address writes := by
  unfold latest
  by_cases hit : write.address = address
  · rw [List.filter_cons_of_pos (by simpa using hit), List.getLast?_cons,
      if_pos hit]
    cases (writes.filter fun write => write.address = address).getLast? <;> rfl
  · rw [List.filter_cons_of_neg (by simpa using hit), if_neg hit]

end Write

theorem Memory.get_writeAll
    {memory : Memory} {address : Word}
    (inside : address.toNat < memory.size) (writes : List Write) :
    (memory.writeAll writes).get address =
      Write.latest (memory.get address) address writes := by
  induction writes generalizing memory with
  | nil => rfl
  | cons write writes inductionHypothesis =>
      have insideLater :
          address.toNat < (memory.set write.address write.value).size := by
        rw [size_set]
        exact inside
      have rest := inductionHypothesis insideLater
      simp only [get_set, inside, and_true] at rest
      rw [Write.latest_cons]
      exact rest

/-! ## The writes of a run -/

namespace State

/-- The write of the next instruction, if it has one. -/
def write? (program : Program) (state : State) : Option Write :=
  program[state.counter.toNat]?.bind fun instruction =>
    instruction.write? state.registers

/-- The writes of a number of steps, in order. -/
def writes (program : Program) : Nat → State → List Write
  | 0, _ => []
  | count + 1, state =>
    (state.write? program).toList ++
      writes program count (state.step program).state

theorem writes_add
    (program : Program) (first second : Nat) (state : State) :
    state.writes program (first + second) =
      state.writes program first ++
        (state.after program first).writes program second := by
  induction first generalizing state with
  | zero => rw [Nat.zero_add, writes, after, List.nil_append]
  | succ first inductionHypothesis =>
      rw [Nat.succ_add, writes, writes, after,
        inductionHypothesis (state.step program).state, List.append_assoc]

theorem memory_step_eq_writeAll (program : Program) (state : State) :
    (state.step program).state.memory =
      state.memory.writeAll (state.write? program).toList := by
  cases fetched : program[state.counter.toNat]? with
  | none =>
      have ended := Array.getElem?_eq_none_iff.mp fetched
      rw [step_of_size_le ended, write?, fetched]
      rfl
  | some instruction =>
      rw [step_of_getElem? fetched, write?, fetched]
      exact
        memory_execute_eq_writeAll instruction program.size state.toStorage

theorem memory_after_eq_writeAll
    (program : Program) (count : Nat) (state : State) :
    (state.after program count).memory =
      state.memory.writeAll (state.writes program count) := by
  induction count generalizing state with
  | zero => rfl
  | succ count inductionHypothesis =>
      rw [after, inductionHypothesis, memory_step_eq_writeAll, writes,
        Memory.writeAll_append]

/-- Only a store that takes effect changes the memory. -/
theorem memory_step_of_no_store
    {program : Program} {state : State}
    (noStore :
      ∀ instruction,
        program[state.counter.toNat]? = some instruction →
          instruction.opcode ≠ .store ∨
            (state.step program).faults ≠ []) :
    (state.step program).state.memory = state.memory := by
  cases fetched : program[state.counter.toNat]? with
  | none =>
      have ended := Array.getElem?_eq_none_iff.mp fetched
      rw [step_of_size_le ended]
  | some instruction =>
      have reported := noStore instruction fetched
      rw [faults_step_of_getElem? fetched] at reported
      rw [step_of_getElem? fetched]
      dsimp only
      rcases reported with notStore | reported
      · exact memory_execute notStore program.size state.toStorage
      · have effect := effect_execute instruction program.size state.toStorage
        generalize instruction.execute program.size state.toStorage = outcome
          at effect reported ⊢
        cases effect with
        | fault refused => exact state.toStorage.memory_afterFault _ _
        | _ => exact (reported rfl).elim

end State

/-! ## The writes of operations -/

namespace Operation

/-- The writes of an operation, in order. -/
def writes (machine : Machine) : Operation → List Write
  | .setCell address value => [⟨address, value⟩]
  | operation =>
    machine.state.writes machine.program (operation.steps machine)

theorem memory_apply_eq_writeAll
    {machine result : Machine} {operation : Operation}
    (applied : operation.apply machine = some result) :
    result.memory = machine.memory.writeAll (operation.writes machine) := by
  have advanced (count : Nat) :
      (machine.advance count).memory =
        machine.memory.writeAll
          (machine.state.writes machine.program count) :=
    State.memory_after_eq_writeAll machine.program count machine.state
  cases operation with
  | load program =>
      cases applied
      rfl
  | reset =>
      cases applied
      rfl
  | step =>
      cases applied
      rw [Machine.step_eq]
      exact advanced 1
  | runLimit limit =>
      cases applied
      rw [Machine.runLimit_fst_eq_advance]
      exact advanced (machine.calls limit)
  | run =>
      have ran := Machine.runLimit_allowance_of_run applied
      have reached := machine.runLimit_fst_eq_advance machine.allowance
      rw [ran] at reached
      dsimp only at reached
      rw [reached]
      exact advanced (machine.calls machine.allowance)
  | setCell address value =>
      cases applied
      rfl
  | setSink sink =>
      cases applied
      rfl

end Operation

namespace Machine

/-- The writes of some operations, in order. -/
def writes : List Operation → Machine → List Write
  | [], _ => []
  | operation :: operations, machine =>
    operation.writes machine ++
      ((operation.apply machine).map (writes operations)).getD []

theorem memory_perform_eq_writeAll
    {operations : List Operation} {machine result : Machine}
    (performed : machine.perform operations = some result) :
    result.memory = machine.memory.writeAll (machine.writes operations) := by
  induction operations generalizing machine with
  | nil =>
      cases performed
      rfl
  | cons operation operations inductionHypothesis =>
      rw [perform, Option.bind_eq_some_iff] at performed
      obtain ⟨next, applied, performed⟩ := performed
      rw [writes, applied, Memory.writeAll_append,
        ← Operation.memory_apply_eq_writeAll applied]
      exact inductionHypothesis performed

/-- The cells hold what the latest of the writes gave them, and what comes next leaves them alone
unless it is a write. -/
structure Remembers
    (machine : Machine) (dataSize : Nat) (writes : List Write) : Prop where
  size_memory : machine.memory.size = dataSize
  getCell_of_lt :
    ∀ address : Word, address.toNat < dataSize →
      machine.getCell address = Write.latest 0 address writes
  getCell_of_le :
    ∀ address : Word, dataSize ≤ address.toNat →
      machine.getCell address = 0
  load : ∀ program, (machine.load program).memory = machine.memory
  reset : machine.reset.memory = machine.memory
  step :
    (∀ instruction,
      machine.program[machine.state.counter.toNat]? = some instruction →
        instruction.opcode ≠ .store ∨
          (machine.state.step machine.program).faults ≠ []) →
      machine.step.1.memory = machine.memory

/-- A machine that was created and then used in any way remembers all writes to its memory. -/
theorem remembers_perform
    {capacity dataSize : Nat} {sink : Trace.Sink}
    {operations : List Operation} {machine : Machine}
    (performed :
      (create capacity dataSize sink).perform operations = some machine) :
    machine.Remembers dataSize
      ((create capacity dataSize sink).writes operations) := by
  have memory := memory_perform_eq_writeAll performed
  have created :
      (create capacity dataSize sink).memory = Memory.zeros dataSize :=
    rfl
  rw [created] at memory
  have size : machine.memory.size = dataSize := by
    rw [memory, Memory.size_writeAll, Memory.size_zeros]
  refine ⟨size, ?_, ?_, fun _ => rfl, rfl, ?_⟩
  · intro address inside
    change machine.memory.get address = _
    rw [memory, Memory.get_writeAll, Memory.get_zeros]
    rw [Memory.size_zeros]
    exact inside
  · intro address outside
    rw [← size] at outside
    exact Memory.get_of_size_le outside
  · intro noStore
    rw [step_eq]
    exact State.memory_step_of_no_store noStore

/-- A cell that is written from outside and then by the program, and a store that is refused. -/
theorem remembers_perform_storedOver :
    let program : Program :=
      #[Instruction.loadImmediate 0 5, Instruction.store 1 0,
        Instruction.store 9 0, Instruction.halt]
    ∃ machine,
      (create 4 2 .silent).perform
          [.setCell 1 7, .load program, .setCell 0 3, .run, .reset] =
        some machine ∧
      machine.memory.size = 2 ∧
      machine.getCell 0 = 3 ∧
      machine.getCell 1 = 5 ∧
      machine.getCell 9 = 0 := by
  intro program
  let operations : List Operation :=
    [.setCell 1 7, .load program, .setCell 0 3, .run, .reset]
  have ends : ((create 4 2 .silent).perform operations).isSome = true := by
    decide +kernel
  obtain ⟨machine, performed⟩ := Option.isSome_iff_exists.mp ends
  have remembers := remembers_perform performed
  have first :
      Write.latest 0 0 ((create 4 2 .silent).writes operations) = 3 := by
    decide +kernel
  have second :
      Write.latest 0 1 ((create 4 2 .silent).writes operations) = 5 := by
    decide +kernel
  exact
    ⟨machine, performed, remembers.size_memory,
      (remembers.getCell_of_lt 0 (by decide)).trans first,
      (remembers.getCell_of_lt 1 (by decide)).trans second,
      remembers.getCell_of_le 9 (by decide)⟩

end Machine

end RegisterMachine
