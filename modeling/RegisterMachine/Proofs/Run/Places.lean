import RegisterMachine.Proofs.Execution.Control
import RegisterMachine.Proofs.Run.Flags
import RegisterMachine.Proofs.Run.Steps

/-!
# Places

The registers and the memory cells are the places of the machine.  An instruction has one place that
it can change, or none, and everything else is after it what it was before.  So a place that no
instruction of a program can change holds its value through every run.
-/

namespace RegisterMachine

/-- A register or a memory cell, by its number. -/
inductive Place where
  | register (number : Nat)
  | cell (number : Nat)
  deriving DecidableEq

/-- What a place holds, if the machine has it. -/
def Storage.content (storage : Storage) (place : Place) : Option Word :=
  match place with
  | .register number => storage.registers.values[number]?
  | .cell number => storage.memory.cells[number]?

/-- The place that an instruction can change. -/
def Instruction.place? (instruction : Instruction) : Option Place :=
  match instruction with
  | ⟨.halt, _, _, _⟩ => none
  | ⟨.store, dst, _, _⟩ => some (.cell dst.toNat)
  | ⟨.cmp, _, _, _⟩ => none
  | ⟨.jmp, _, _, _⟩ => none
  | ⟨_, dst, _, _⟩ => some (.register dst.toNat)

/-! ## One instruction -/

section Instruction

variable {instruction : Instruction} {place : Place}

theorem Instruction.place?_eq_register
    (target : instruction.opcode ∉ [.halt, .store, .cmp, .jmp]) :
    instruction.place? = some (.register instruction.dst.toNat) := by
  obtain ⟨opcode, dst, src1, src2⟩ := instruction
  cases opcode with
  | halt | store | cmp | jmp => simp at target
  | _ => rfl

theorem Memory.getElem?_cells_set
    {address : Word} {index : Nat} (other : address.toNat ≠ index)
    (memory : Memory) (value : Word) :
    (memory.set address value).cells[index]? = memory.cells[index]? :=
  Array.getElem?_setIfInBounds_ne other

theorem RegisterFile.getElem?_values
    (registers : RegisterFile) {number : Nat} (inRange : number < registerCount) :
    registers.values[number]? = some (registers.get ⟨number, inRange⟩) :=
  Vector.getElem?_eq_getElem inRange

/-- A store writes no cell but the one that its destination names. -/
theorem getElem?_cells_execute
    {index : Nat} (other : instruction.opcode = .store → index ≠ instruction.dst.toNat)
    (programSize : Nat) (storage : Storage) :
    (instruction.execute programSize storage).1.memory.cells[index]? =
      storage.memory.cells[index]? := by
  by_cases isStore : instruction.opcode = .store
  · rw [memory_execute_eq_writeAll]
    obtain ⟨opcode, dst, src1, src2⟩ := instruction
    cases isStore
    have different : dst.toNat ≠ index := (other rfl).symm
    unfold Instruction.write?
    dsimp only
    split
    · exact Memory.getElem?_cells_set different storage.memory _
    · rfl
  · rw [memory_execute isStore]

/-- An instruction changes nothing but its place. -/
theorem content_execute
    (other : instruction.place? ≠ some place)
    (programSize : Nat) (storage : Storage) :
    (instruction.execute programSize storage).1.content place =
      storage.content place := by
  obtain ⟨opcode, dst, src1, src2⟩ := instruction
  cases place with
  | cell index =>
      refine getElem?_cells_execute ?_ programSize storage
      rintro isStore rfl
      dsimp only at isStore
      subst isStore
      exact other rfl
  | register number =>
      unfold Storage.content
      dsimp only
      by_cases noTarget : opcode ∈ [.halt, .store, .cmp, .jmp]
      · rw [registers_execute noTarget]
      rcases Nat.lt_or_ge number registerCount with inRange | missing
      · have different : dst.toNat ≠ number := by
          rintro rfl
          exact other (Instruction.place?_eq_register noTarget)
        rw [RegisterFile.getElem?_values _ inRange,
          RegisterFile.getElem?_values _ inRange,
          get_registers_execute different]
      · rw [Vector.getElem?_eq_none missing, Vector.getElem?_eq_none missing]

end Instruction

/-! ## One step -/

section Step

variable {program : Program} {state : State} {instruction : Instruction}

/-- The place holds something else after a step. -/
def State.Changes (program : Program) (state : State) (place : Place) : Prop :=
  (state.step program).state.content place ≠ state.content place

theorem place?_of_changes
    {place : Place}
    (fetched : program[state.counter.toNat]? = some instruction)
    (changes : state.Changes program place) :
    instruction.place? = some place := by
  apply Decidable.byContradiction
  intro other
  apply changes
  rw [State.step_of_getElem? fetched]
  exact content_execute other program.size state.toStorage

/-- What the step of an instruction is confined to. -/
structure State.Confined
    (program : Program) (state : State) (instruction : Instruction) : Prop where
  onePlace :
    ∀ one other : Place,
      state.Changes program one → state.Changes program other → one = other
  register :
    instruction.opcode ∈ [.load, .add, .sub, .mul, .div, .mov, .checkFlag] →
      (∀ other : Register, other.val ≠ instruction.dst.toNat →
        (state.step program).state.registers.get other =
          state.registers.get other) ∧
        (state.step program).state.memory = state.memory
  cell :
    instruction.opcode = .store →
      (state.step program).state.registers = state.registers ∧
        (state.step program).state.flags = state.flags ∧
        ∀ other : Nat, other ≠ instruction.dst.toNat →
          (state.step program).state.memory.cells[other]? =
            state.memory.cells[other]?
  nothing :
    instruction.opcode ∈ [.halt, .jmp, .cmp] →
      (state.step program).state.registers = state.registers ∧
        (state.step program).state.memory = state.memory
  flags :
    instruction.opcode ∈ [.load, .store, .jmp, .mov, .checkFlag, .halt] →
      (state.step program).state.flags = state.flags
  counter :
    (state.step program).state.counter.toNat =
      instruction.following program.size state.toStorage state.counter.toNat

/-- Whatever its operands are, an instruction reaches no further than its opcode allows. -/
theorem confined_step
    (fits : program.size < 2 ^ 32)
    (fetched : program[state.counter.toNat]? = some instruction) :
    state.Confined program instruction where
  onePlace one other oneChanges otherChanges := by
    have isOne := place?_of_changes fetched oneChanges
    have isOther := place?_of_changes fetched otherChanges
    exact Option.some.inj (isOne.symm.trans isOther)
  register intoRegister := by
    have notStore : instruction.opcode ≠ .store := by
      intro isStore
      simp [isStore] at intoRegister
    rw [State.step_of_getElem? fetched]
    exact
      ⟨fun _ other => get_registers_execute other.symm program.size _,
        memory_execute notStore program.size _⟩
  cell isStore := by
    have noTarget : instruction.opcode ∈ [.halt, .store, .cmp, .jmp] := by
      simp [isStore]
    have noOwner :
        instruction.opcode ∈
          [.load, .store, .jmp, .mov, .checkFlag, .halt] := by
      simp [isStore]
    rw [State.step_of_getElem? fetched]
    exact
      ⟨registers_execute noTarget program.size _,
        flags_execute noOwner program.size _,
        fun _ other =>
          getElem?_cells_execute (fun _ => other) program.size _⟩
  nothing intoNothing := by
    have noTarget : instruction.opcode ∈ [.halt, .store, .cmp, .jmp] := by
      grind
    have notStore : instruction.opcode ≠ .store := by
      intro isStore
      simp [isStore] at intoNothing
    rw [State.step_of_getElem? fetched]
    exact
      ⟨registers_execute noTarget program.size _,
        memory_execute notStore program.size _⟩
  flags noOwner := by
    rw [State.step_of_getElem? fetched]
    exact flags_execute noOwner program.size _
  counter := toNat_counter_step_eq_following fits fetched

/-- A load of cell 3 through register 1, with all flags set. -/
theorem confined_step_loadIndirect :
    let program : Program := #[Instruction.loadIndirect 2 1, Instruction.jmp 0]
    let memory : Memory := (Memory.zeros 4).set 3 9
    let state : State :=
      ⟨⟨RegisterFile.clear.set 1 3, ⟨true, true, true, true, true⟩, memory⟩,
        0, 7⟩
    program.size < 2 ^ 32 ∧
      program[state.counter.toNat]? = some (Instruction.loadIndirect 2 1) ∧
      state.Changes program (.register 2) ∧
      (∀ place, state.Changes program place → place = .register 2) ∧
      (state.step program).state.memory = memory ∧
      (state.step program).state.flags = ⟨true, true, true, true, true⟩ ∧
      (state.step program).state.counter.toNat = 1 := by
  intro program memory state
  have fits : program.size < 2 ^ 32 := by decide
  have fetched :
      program[state.counter.toNat]? = some (Instruction.loadIndirect 2 1) :=
    rfl
  have confined := confined_step fits fetched
  have changed : state.Changes program (.register 2) := by
    unfold State.Changes
    decide
  exact
    ⟨fits, fetched, changed,
      fun place changes => confined.onePlace place _ changes changed,
      (confined.register (by decide)).2, confined.flags (by decide),
      confined.counter⟩

end Step

/-! ## Many steps -/

/-- A place that no instruction of the program can change keeps what it holds. -/
theorem State.content_after
    {program : Program} {place : Place}
    (untouched : ∀ instruction ∈ program, instruction.place? ≠ some place)
    (count : Nat) (state : State) :
    (state.after program count).content place = state.content place := by
  induction count generalizing state with
  | zero => rfl
  | succ count inductionHypothesis =>
      rw [after, inductionHypothesis (state.step program).state]
      by_cases ended : state.Ended program
      · rw [step_of_ended ended]
      · obtain ⟨instruction, fetched⟩ := exists_fetched ended
        have inside := Array.mem_of_getElem? fetched
        rw [step_of_getElem? fetched]
        exact
          content_execute (untouched instruction inside) program.size
            state.toStorage

end RegisterMachine
