import RegisterMachine.Proofs.Run.Steps

/-!
# The memory that a run touches

The operands and the registers say which memory cell an instruction accesses.  A run that stays
within some cells leaves the others as they were, and it does the same from every state that is
alike on those cells, whatever the others hold.
-/

namespace RegisterMachine

/-! ## Alike on some cells -/

/-- Memories of the same size that hold the same on some cells. -/
structure Memory.Alike (cells : Word → Prop) (left right : Memory) : Prop where
  size : left.size = right.size
  get : ∀ address, cells address → left.get address = right.get address

namespace Memory.Alike

variable {cells : Word → Prop} {left right : Memory} {address : Word}

theorem load
    (alike : left.Alike cells right)
    (inCells : address.toNat < left.size → cells address) :
    left.load address = right.load address := by
  rw [load_eq, load_eq, ← alike.size]
  by_cases inside : address.toNat < left.size
  · rw [alike.get address (inCells inside)]
  · rw [if_neg inside, if_neg inside]

theorem set
    (alike : left.Alike cells right) (address value : Word) :
    (left.set address value).Alike cells (right.set address value) where
  size := by rw [size_set, size_set, alike.size]
  get other inCells := by
    rw [get_set, get_set, alike.size, alike.get other inCells]

end Memory.Alike

structure Storage.Alike (cells : Word → Prop) (left right : Storage) : Prop where
  registers : left.registers = right.registers
  flags : left.flags = right.flags
  memory : left.memory.Alike cells right.memory

/-- Equal endings, with storages that are alike. -/
def OutcomesAlike (cells : Word → Prop) (left right : Storage × Ending) : Prop :=
  left.1.Alike cells right.1 ∧ left.2 = right.2

/-! ## One instruction -/

/-- The instruction is a load that reads the memory cell. -/
def Instruction.Loads
    (instruction : Instruction) (storage : Storage) (address : Word) : Prop :=
  instruction.opcode = .load ∧ instruction.dst.toNat < registerCount ∧
    instruction.address? storage.registers = some address ∧
    address.toNat < storage.memory.size

section Instructions

variable {cells : Word → Prop} {left right : Storage}

theorem Storage.Alike.attempt
    {α : Type} {value : Except Fault α}
    {leftAction rightAction : α → Storage × Ending}
    (alike : left.Alike cells right)
    (rest :
      ∀ result, value = .ok result →
        OutcomesAlike cells (leftAction result) (rightAction result)) :
    OutcomesAlike cells
      (left.attempt value leftAction) (right.attempt value rightAction) := by
  cases value with
  | ok result => exact rest result rfl
  | error fault => exact ⟨alike, rfl⟩

theorem Storage.Alike.readPair
    (alike : left.Alike cells right) (first second : Word) :
    left.readPair first second = right.readPair first second := by
  unfold Storage.readPair
  rw [alike.registers]

theorem Storage.Alike.attemptOnRegisters
    {dst first second : Word}
    {leftAction rightAction : Register → Word → Word → Storage × Ending}
    (alike : left.Alike cells right)
    (rest :
      ∀ register a b,
        OutcomesAlike cells (leftAction register a b)
          (rightAction register a b)) :
    OutcomesAlike cells
      (left.attemptOnRegisters dst first second leftAction)
      (right.attemptOnRegisters dst first second rightAction) := by
  refine alike.attempt ?_
  intro register _
  rw [alike.readPair]
  refine alike.attempt ?_
  intro values _
  exact rest register values.1 values.2

theorem Storage.Alike.loadedValue
    {dst src1 src2 : Word}
    (alike : left.Alike cells right)
    (isRegister : dst.toNat < registerCount)
    (reads :
      ∀ address,
        Instruction.Loads ⟨.load, dst, src1, src2⟩ left address →
          cells address) :
    left.loadedValue src1 src2 = right.loadedValue src1 src2 := by
  unfold Storage.loadedValue
  by_cases direct : src2 = 0
  · subst direct
    apply alike.memory.load
    intro inside
    exact reads src1 ⟨rfl, isRegister, rfl, inside⟩
  by_cases indirect : src2 = 1
  · subst indirect
    change
      (left.registers.read src1 >>= left.memory.load) =
        (right.registers.read src1 >>= right.memory.load)
    rw [← alike.registers]
    rcases Nat.lt_or_ge src1.toNat registerCount with inRange | missing
    · have firstSlot := RegisterFile.slot_of_lt inRange
      rw [Storage.read_registers left firstSlot]
      apply alike.memory.load
      intro inside
      refine reads _ ⟨rfl, isRegister, ?_, inside⟩
      simp [Instruction.address?, inRange,
        RegisterFile.valueAt_of_slot left.registers firstSlot]
    · rw [RegisterFile.read, RegisterFile.slot_of_le missing]
      rfl
  · unfold AddressingMode.ofCode
    rw [if_neg direct, if_neg indirect]
    by_cases immediate : src2 = 2
    · rw [if_pos immediate]
    · rw [if_neg immediate]

/-- An instruction does the same to storages that are alike on the cell that it reads. -/
theorem Storage.Alike.execute
    {instruction : Instruction} (programSize : Nat)
    (alike : left.Alike cells right)
    (reads : ∀ address, instruction.Loads left address → cells address) :
    OutcomesAlike cells
      (instruction.execute programSize left)
      (instruction.execute programSize right) := by
  have whole := alike
  obtain ⟨opcode, dst, src1, src2⟩ := instruction
  obtain ⟨registers, flags, memory⟩ := left
  obtain ⟨_, _, other⟩ := right
  obtain ⟨rfl, rfl, sameMemory⟩ := alike
  cases opcode with
  | halt => exact ⟨whole, rfl⟩
  | load =>
      refine whole.attempt ?_
      intro register targetSlot
      rw [whole.loadedValue (RegisterFile.lt_of_slot targetSlot) reads]
      refine whole.attempt ?_
      intro value _
      exact ⟨⟨rfl, rfl, sameMemory⟩, rfl⟩
  | store =>
      refine whole.attempt ?_
      intro value _
      rw [Storage.attempt_store, Storage.attempt_store]
      dsimp only
      rw [sameMemory.size]
      split
      · exact ⟨⟨rfl, rfl, sameMemory.set dst value⟩, rfl⟩
      · exact ⟨whole, rfl⟩
  | add | sub | mul =>
      refine whole.attemptOnRegisters ?_
      intro register a b
      exact ⟨⟨rfl, rfl, sameMemory⟩, rfl⟩
  | div =>
      refine whole.attemptOnRegisters ?_
      intro register a b
      dsimp only
      split <;> exact ⟨⟨rfl, rfl, sameMemory⟩, rfl⟩
  | cmp =>
      change
        OutcomesAlike cells (Storage.cmp _ src1 src2) (Storage.cmp _ src1 src2)
      unfold Storage.cmp
      rw [whole.readPair]
      split <;> exact ⟨⟨rfl, rfl, sameMemory⟩, rfl⟩
  | jmp =>
      change
        OutcomesAlike cells (Storage.jmp _ dst src1 programSize)
          (Storage.jmp _ dst src1 programSize)
      unfold Storage.jmp
      dsimp only
      split
      · exact ⟨whole, rfl⟩
      · split <;> exact ⟨whole, rfl⟩
  | mov =>
      refine whole.attempt ?_
      intro value _
      refine whole.attempt ?_
      intro register _
      exact ⟨⟨rfl, rfl, sameMemory⟩, rfl⟩
  | checkFlag =>
      refine whole.attempt ?_
      intro register _
      exact ⟨⟨rfl, rfl, sameMemory⟩, rfl⟩

/-- An instruction changes no cell but the one that it accesses. -/
theorem get_memory_execute
    {instruction : Instruction} {storage : Storage} {address : Word}
    (programSize : Nat)
    (untouched :
      instruction.address? storage.registers ≠ some address) :
    (instruction.execute programSize storage).1.memory.get address =
      storage.memory.get address := by
  by_cases isStore : instruction.opcode = .store
  · have effect := effect_execute instruction programSize storage
    generalize instruction.execute programSize storage = outcome at effect ⊢
    cases effect with
    | @store dst src1 src2 first sourceSlot inRange =>
        have different : dst ≠ address :=
          fun same => untouched (congrArg some same)
        rw [Storage.memory_setCell, Memory.get_set,
          if_neg (fun hit => different hit.1)]
    | fault refused => rw [Storage.memory_afterFault]
    | _ => cases isStore
  · rw [memory_execute isStore]

end Instructions

/-! ## Runs -/

namespace State

variable {program : Program} {cells : Word → Prop} {state left right : State}
variable {address : Word}

/-- The next instruction reads or writes the memory cell. -/
def Accesses (program : Program) (state : State) (address : Word) : Prop :=
  ∃ instruction,
    program[state.counter.toNat]? = some instruction ∧
      instruction.address? state.registers = some address

/-- The next instruction is a load that reads the memory cell. -/
def Reads (program : Program) (state : State) (address : Word) : Prop :=
  ∃ instruction,
    program[state.counter.toNat]? = some instruction ∧
      instruction.Loads state.toStorage address

theorem Reads.accesses (reads : state.Reads program address) :
    state.Accesses program address := by
  obtain ⟨instruction, fetched, -, -, accessed, -⟩ := reads
  exact ⟨instruction, fetched, accessed⟩

/-- The run from a state accesses no other cells, however long it is. -/
def Within (program : Program) (cells : Word → Prop) (state : State) : Prop :=
  ∀ count address,
    (state.after program count).Accesses program address → cells address

structure Alike (cells : Word → Prop) (left right : State) : Prop where
  storage : left.toStorage.Alike cells right.toStorage
  counter : left.counter = right.counter
  clock : left.clock = right.clock

theorem Alike.steps_eq (alike : left.Alike cells right) :
    left.steps = right.steps :=
  congrArg UInt64.toNat alike.clock

theorem Alike.step
    (alike : left.Alike cells right)
    (reads : ∀ address, left.Reads program address → cells address) :
    (left.step program).state.Alike cells (right.step program).state ∧
      (left.step program).events = (right.step program).events ∧
      (left.step program).continues = (right.step program).continues := by
  cases fetched : program[left.counter.toNat]? with
  | none =>
      have ended : left.Ended program := Array.getElem?_eq_none_iff.mp fetched
      have rightEnded : right.Ended program := by
        unfold Ended
        rw [← alike.counter]
        exact ended
      rw [step_of_ended ended, step_of_ended rightEnded]
      exact ⟨alike, rfl, rfl⟩
  | some instruction =>
      have rightFetched : program[right.counter.toNat]? = some instruction := by
        rw [← alike.counter]
        exact fetched
      obtain ⟨sameStorage, sameEnding⟩ :=
        alike.storage.execute program.size
          fun address loads => reads address ⟨instruction, fetched, loads⟩
      rw [step_of_getElem? fetched, step_of_getElem? rightFetched]
      dsimp only
      rw [sameEnding, alike.counter, alike.clock]
      exact ⟨⟨sameStorage, rfl, rfl⟩, rfl, rfl⟩

theorem Within.accesses
    (within : state.Within program cells)
    (accesses : state.Accesses program address) :
    cells address :=
  within 0 address accesses

theorem Within.step (within : state.Within program cells) :
    (state.step program).state.Within program cells :=
  fun count address accesses => within (count + 1) address accesses

/-- A run within some cells goes on alike from states that are alike on these cells. -/
theorem Alike.after
    (alike : left.Alike cells right) (within : left.Within program cells)
    (count : Nat) :
    (left.after program count).Alike cells (right.after program count) ∧
      left.reports program count = right.reports program count := by
  induction count generalizing left right with
  | zero => exact ⟨alike, rfl⟩
  | succ count inductionHypothesis =>
      have first :=
        alike.step fun _ reads => within.accesses reads.accesses
      have rest := inductionHypothesis first.1 within.step
      refine ⟨rest.1, ?_⟩
      rw [reports, reports, first.2.1, rest.2]

theorem get_memory_step
    (untouched : ¬ state.Accesses program address) :
    (state.step program).state.memory.get address =
      state.memory.get address := by
  cases fetched : program[state.counter.toNat]? with
  | none =>
      have ended := Array.getElem?_eq_none_iff.mp fetched
      rw [step_of_size_le ended]
  | some instruction =>
      rw [step_of_getElem? fetched]
      apply get_memory_execute
      intro accessed
      exact untouched ⟨instruction, fetched, accessed⟩

/-- A run within some cells leaves the others as they were. -/
theorem Within.get_memory_after
    (within : state.Within program cells) (outside : ¬ cells address)
    (count : Nat) :
    (state.after program count).memory.get address =
      state.memory.get address := by
  induction count generalizing state with
  | zero => rfl
  | succ count inductionHypothesis =>
      have rest := inductionHypothesis within.step
      rw [after, rest]
      apply get_memory_step
      intro accesses
      exact outside (within.accesses accesses)

/-- What every step keeps and what names only some cells keeps a run within them. -/
theorem within_of_invariant
    (invariant : State → Prop)
    (start : invariant state)
    (step :
      ∀ state, invariant state → ¬ state.Ended program →
        invariant (state.step program).state)
    (accesses :
      ∀ state address, invariant state →
        state.Accesses program address → cells address) :
    state.Within program cells := by
  have kept :
      ∀ count state, invariant state →
        invariant (state.after program count) := by
    intro count
    induction count with
    | zero => exact fun _ holds => holds
    | succ count inductionHypothesis =>
        intro state holds
        apply inductionHypothesis
        by_cases ended : state.Ended program
        · rw [step_of_ended ended]
          exact holds
        · exact step state holds ended
  intro count address accessed
  exact accesses _ address (kept count state start) accessed

end State

end RegisterMachine
