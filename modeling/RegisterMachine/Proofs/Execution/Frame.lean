import RegisterMachine.Execution.Step
import RegisterMachine.Proofs.Execution.Cases

/-!
# What an instruction leaves alone

Only a store reaches the memory: it writes one cell, and every other instruction none.  Nothing
changes the number of memory cells.  No instruction changes a register but its destination.
-/

namespace RegisterMachine

/-- A value that a memory cell is given. -/
structure Write where
  address : Word
  value : Word
  deriving DecidableEq

namespace Memory

/-- The memory after some writes.  A write to an address outside changes nothing. -/
def writeAll (memory : Memory) (writes : List Write) : Memory :=
  writes.foldl (fun memory write => memory.set write.address write.value) memory

theorem writeAll_append (memory : Memory) (earlier later : List Write) :
    memory.writeAll (earlier ++ later) =
      (memory.writeAll earlier).writeAll later :=
  List.foldl_append

theorem size_writeAll (memory : Memory) (writes : List Write) :
    (memory.writeAll writes).size = memory.size := by
  induction writes generalizing memory with
  | nil => rfl
  | cons write writes inductionHypothesis =>
      exact
        (inductionHypothesis (memory.set write.address write.value)).trans
          (size_set memory write.address write.value)

end Memory

/-- The write of an instruction.  Only a store has one, and only if its source is a register. -/
def Instruction.write? (instruction : Instruction) (registers : RegisterFile) : Option Write :=
  match instruction with
  | ⟨.store, dst, src1, _⟩ =>
    if src1.toNat < registerCount then some ⟨dst, registers.valueAt src1⟩ else none
  | _ => none

section

variable {instruction : Instruction} {registers : RegisterFile}

theorem Instruction.write?_eq_none (notStore : instruction.opcode ≠ .store) :
    instruction.write? registers = none := by
  obtain ⟨opcode, dst, src1, src2⟩ := instruction
  cases opcode with
  | store => exact (notStore rfl).elim
  | _ => rfl

/-- A refused instruction has no write, or one to an address outside the memory. -/
theorem Refused.writeAll_eq_self
    {programSize : Nat} {storage : Storage} {reason : Fault}
    (refused : Refused programSize storage instruction reason) :
    storage.memory.writeAll
        (instruction.write? storage.registers).toList =
      storage.memory := by
  by_cases isStore : instruction.opcode = .store
  · obtain ⟨opcode, dst, src1, src2⟩ := instruction
    cases isStore
    cases refused with
    | @register _ index operand missing =>
        have isSource : index = src1 := List.mem_singleton.mp operand
        subst isSource
        rw [Instruction.write?, if_neg (Nat.not_lt.mpr missing)]
        rfl
    | address accessed outside =>
        cases accessed
        unfold Instruction.write?
        dsimp only
        split
        · exact Memory.set_of_size_le outside _
        · rfl
  · rw [Instruction.write?_eq_none isStore]
    rfl

end

section

variable (instruction : Instruction) (programSize : Nat) (storage : Storage)

/-- All that an instruction does to the memory is its write. -/
theorem memory_execute_eq_writeAll :
    (instruction.execute programSize storage).1.memory =
      storage.memory.writeAll
        (instruction.write? storage.registers).toList := by
  have effect := effect_execute instruction programSize storage
  generalize instruction.execute programSize storage = outcome at effect ⊢
  cases effect with
  | store sourceSlot inRange =>
      rw [Instruction.write?, if_pos (RegisterFile.lt_of_slot sourceSlot),
        RegisterFile.valueAt_of_slot storage.registers sourceSlot]
      rfl
  | fault refused =>
      exact
        (storage.memory_afterFault _ _).trans refused.writeAll_eq_self.symm
  | _ => rfl

theorem size_memory_execute :
    (instruction.execute programSize storage).1.memory.size =
      storage.memory.size := by
  rw [memory_execute_eq_writeAll, Memory.size_writeAll]

end

theorem memory_execute
    {instruction : Instruction} (notStore : instruction.opcode ≠ .store)
    (programSize : Nat) (storage : Storage) :
    (instruction.execute programSize storage).1.memory =
      storage.memory := by
  rw [memory_execute_eq_writeAll, Instruction.write?_eq_none notStore]
  rfl

/-- An instruction changes no register but the one that its destination names. -/
theorem get_registers_execute
    {instruction : Instruction} {register : Register}
    (other : instruction.dst.toNat ≠ register.val)
    (programSize : Nat) (storage : Storage) :
    (instruction.execute programSize storage).1.registers.get register =
      storage.registers.get register := by
  have different {target : Register}
      (targetSlot : RegisterFile.slot instruction.dst = .ok target) :
      target ≠ register := by
    rintro rfl
    exact other (RegisterFile.val_of_slot targetSlot).symm
  have effect := effect_execute instruction programSize storage
  generalize instruction.execute programSize storage = outcome at effect ⊢
  cases effect with
  | loadDirect targetSlot
  | loadIndirect targetSlot
  | loadImmediate targetSlot
  | add targetSlot
  | sub targetSlot
  | mul targetSlot
  | div targetSlot
  | mov targetSlot
  | checkFlag targetSlot =>
      simp only [Storage.registers_setFlag,
        Storage.get_registers_setRegister, if_neg (different targetSlot)]
  | fault refused => rw [Storage.registers_afterFault]
  | _ => rfl

/-- Instructions whose destination is no register change no register. -/
theorem registers_execute
    {instruction : Instruction}
    (noTarget : instruction.opcode ∈ [.halt, .store, .cmp, .jmp])
    (programSize : Nat) (storage : Storage) :
    (instruction.execute programSize storage).1.registers =
      storage.registers := by
  have effect := effect_execute instruction programSize storage
  generalize instruction.execute programSize storage = outcome at effect ⊢
  cases effect with
  | fault refused => exact storage.registers_afterFault _ _
  | halt | store | cmp | jump | pass => rfl
  | _ => simp at noTarget

/-- A step leaves the number of memory cells as it was. -/
theorem size_memory_step (program : Program) (state : State) :
    (state.step program).state.memory.size = state.memory.size := by
  cases fetched : program[state.counter.toNat]? with
  | none =>
      have ended := Array.getElem?_eq_none_iff.mp fetched
      rw [State.step_of_size_le ended]
  | some instruction =>
      rw [State.step_of_getElem? fetched]
      exact
        size_memory_execute instruction program.size state.toStorage

end RegisterMachine
