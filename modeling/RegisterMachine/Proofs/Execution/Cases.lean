import RegisterMachine.Proofs.Execution.Effect
import RegisterMachine.Proofs.Execution.Refusal

/-!
# All that an instruction can do

`Effect` has one rule for each way in which an instruction can take effect, with all that makes it
possible, and one rule for the instructions that are refused.  `effect_execute` says that these are
all the ways there are, so that a statement about every instruction is proved by cases on them.
-/

namespace RegisterMachine

open RegisterFile (slot)

namespace Storage

/-- What a fault leaves of a storage.  A refused comparison counts as unequal, and a division by
zero is noted in the flags. -/
def afterFault (storage : Storage) (opcode : Opcode) (reason : Fault) : Storage :=
  match opcode, reason with
  | .cmp, _ => storage.setFlag .zero false
  | _, .divisionByZero =>
    ((storage.setFlag .carry false).setFlag .overflow false).setFlag
      .divisionFault true
  | _, _ => storage

section

variable (storage : Storage) (opcode : Opcode) (reason : Fault)

@[simp] theorem registers_afterFault :
    (storage.afterFault opcode reason).registers = storage.registers := by
  unfold afterFault
  split <;> rfl

@[simp] theorem memory_afterFault :
    (storage.afterFault opcode reason).memory = storage.memory := by
  unfold afterFault
  split <;> rfl

variable {opcode reason}

theorem afterFault_eq_self
    (notCmp : opcode ≠ .cmp) (notDivision : reason ≠ .divisionByZero) :
    storage.afterFault opcode reason = storage := by
  unfold afterFault
  split
  · exact (notCmp rfl).elim
  · exact (notDivision rfl).elim
  · rfl

end

/-- The condition of a jump holds. -/
def Takes (storage : Storage) (condition : Word) : Prop :=
  condition = 0 ∨ (condition = 1 ∧ storage.flags.get .zero = true)

end Storage

section

variable (programSize : Nat) (storage : Storage)

/-- `Effect programSize storage instruction (result, ending)` says that the instruction turns the
storage into `result` and ends with `ending`. -/
inductive Effect : Instruction → Storage × Ending → Prop
  | halt {dst src1 src2 : Word} :
      Effect ⟨.halt, dst, src1, src2⟩ (storage, .halt)
  | loadDirect {dst src1 : Word} {target : Register} :
      slot dst = .ok target →
      src1.toNat < storage.memory.size →
      Effect ⟨.load, dst, src1, 0⟩
        (storage.setRegister target (storage.memory.get src1), .next)
  | loadIndirect {dst src1 : Word} {target first : Register} :
      slot dst = .ok target →
      slot src1 = .ok first →
      (storage.registers.get first).toNat < storage.memory.size →
      Effect ⟨.load, dst, src1, 1⟩
        (storage.setRegister target
          (storage.memory.get (storage.registers.get first)), .next)
  | loadImmediate {dst src1 : Word} {target : Register} :
      slot dst = .ok target →
      Effect ⟨.load, dst, src1, 2⟩ (storage.setRegister target src1, .next)
  | store {dst src1 src2 : Word} {first : Register} :
      slot src1 = .ok first →
      dst.toNat < storage.memory.size →
      Effect ⟨.store, dst, src1, src2⟩
        (storage.setCell dst (storage.registers.get first), .next)
  | add {dst src1 src2 : Word} {target first second : Register} :
      slot dst = .ok target →
      slot src1 = .ok first →
      slot src2 = .ok second →
      Effect ⟨.add, dst, src1, src2⟩
        (((storage.setRegister target
            (storage.registers.get first + storage.registers.get second)).setFlag
          .carry (decide (2 ^ 32 ≤ (storage.registers.get first).toNat +
            (storage.registers.get second).toNat))).setFlag
          .negative (Word.signBit
            (storage.registers.get first + storage.registers.get second)),
          .next)
  | sub {dst src1 src2 : Word} {target first second : Register} :
      slot dst = .ok target →
      slot src1 = .ok first →
      slot src2 = .ok second →
      Effect ⟨.sub, dst, src1, src2⟩
        (((storage.setRegister target
            (storage.registers.get first - storage.registers.get second)).setFlag
          .carry (decide ((storage.registers.get first).toNat <
            (storage.registers.get second).toNat))).setFlag
          .negative (Word.signBit
            (storage.registers.get first - storage.registers.get second)),
          .next)
  | mul {dst src1 src2 : Word} {target first second : Register} :
      slot dst = .ok target →
      slot src1 = .ok first →
      slot src2 = .ok second →
      Effect ⟨.mul, dst, src1, src2⟩
        (((storage.setRegister target
            (storage.registers.get first * storage.registers.get second)).setFlag
          .overflow (decide (2 ^ 32 ≤ (storage.registers.get first).toNat *
            (storage.registers.get second).toNat))).setFlag
          .negative (Word.signBit
            (storage.registers.get first * storage.registers.get second)),
          .next)
  | div {dst src1 src2 : Word} {target first second : Register} :
      slot dst = .ok target →
      slot src1 = .ok first →
      slot src2 = .ok second →
      storage.registers.get second ≠ 0 →
      Effect ⟨.div, dst, src1, src2⟩
        (((((storage.setRegister target
            (storage.registers.get first / storage.registers.get second)).setFlag
          .carry false).setFlag
          .overflow false).setFlag
          .divisionFault false).setFlag
          .negative (Word.signBit
            (storage.registers.get first / storage.registers.get second)),
          .next)
  | cmp {dst src1 src2 : Word} {first second : Register} :
      slot src1 = .ok first →
      slot src2 = .ok second →
      Effect ⟨.cmp, dst, src1, src2⟩
        (storage.setFlag .zero
          (storage.registers.get first == storage.registers.get second),
          .next)
  | jump {dst src1 src2 : Word} :
      dst.toNat < programSize →
      storage.Takes src1 →
      Effect ⟨.jmp, dst, src1, src2⟩ (storage, .jump dst)
  | pass {dst src1 src2 : Word} :
      dst.toNat < programSize →
      ¬ storage.Takes src1 →
      Effect ⟨.jmp, dst, src1, src2⟩ (storage, .next)
  | mov {dst src1 src2 : Word} {target first : Register} :
      slot dst = .ok target →
      slot src1 = .ok first →
      Effect ⟨.mov, dst, src1, src2⟩
        (storage.setRegister target (storage.registers.get first), .next)
  | checkFlag {dst src1 src2 : Word} {target : Register} :
      slot dst = .ok target →
      Effect ⟨.checkFlag, dst, src1, src2⟩
        (storage.setRegister target (storage.flags.readIndex src1), .next)
  | fault {instruction : Instruction} {reason : Fault} :
      Refused programSize storage instruction reason →
      Effect instruction
        (storage.afterFault instruction.opcode reason, .fault reason)

end

/-! ## Looking up operands -/

theorem Storage.attempt_bind
    {α β : Type} (storage : Storage) (value : Except Fault α)
    (further : α → Except Fault β) (action : β → Storage × Ending) :
    storage.attempt (value >>= further) action =
      storage.attempt value fun result =>
        storage.attempt (further result) action := by
  cases value with
  | ok result => rfl
  | error fault => rfl

namespace Effect

variable {programSize : Nat} {storage : Storage}
variable {instruction : Instruction} {reason : Fault}

theorem refused
    (refused : Refused programSize storage instruction reason)
    (notCmp : instruction.opcode ≠ .cmp)
    (notDivision : reason ≠ .divisionByZero) :
    Effect programSize storage instruction (storage, .fault reason) := by
  have effect := Effect.fault refused
  rwa [storage.afterFault_eq_self notCmp notDivision] at effect

section Lookups

variable {index : Word}

theorem attempt_slot
    {action : Register → Storage × Ending}
    (notCmp : instruction.opcode ≠ .cmp)
    (operand : index ∈ instruction.registerOperands)
    (rest :
      ∀ register, slot index = .ok register →
        Effect programSize storage instruction (action register)) :
    Effect programSize storage instruction
      (storage.attempt (slot index) action) := by
  rcases Nat.lt_or_ge index.toNat registerCount with inRange | missing
  · have found := RegisterFile.slot_of_lt inRange
    rw [found, Storage.attempt_ok]
    exact rest _ found
  · rw [RegisterFile.slot_of_le missing]
    exact Effect.refused (.register operand missing) notCmp (by simp)

theorem attempt_read
    {action : Word → Storage × Ending}
    (notCmp : instruction.opcode ≠ .cmp)
    (operand : index ∈ instruction.registerOperands)
    (rest :
      ∀ register, slot index = .ok register →
        Effect programSize storage instruction
          (action (storage.registers.get register))) :
    Effect programSize storage instruction
      (storage.attempt (storage.registers.read index) action) := by
  rcases Nat.lt_or_ge index.toNat registerCount with inRange | missing
  · have found := RegisterFile.slot_of_lt inRange
    rw [Storage.read_registers storage found, Storage.attempt_ok]
    exact rest _ found
  · rw [RegisterFile.read, RegisterFile.slot_of_le missing]
    exact Effect.refused (.register operand missing) notCmp (by simp)

theorem attemptOnRegisters
    {dst left right : Word}
    {action : Register → Word → Word → Storage × Ending}
    (notCmp : instruction.opcode ≠ .cmp)
    (operands : instruction.registerOperands = [dst, left, right])
    (rest :
      ∀ target first second,
        slot dst = .ok target → slot left = .ok first →
        slot right = .ok second →
          Effect programSize storage instruction
            (action target
              (storage.registers.get first) (storage.registers.get second))) :
    Effect programSize storage instruction
      (storage.attemptOnRegisters dst left right action) := by
  unfold Storage.attemptOnRegisters
  refine attempt_slot notCmp (by simp [operands]) ?_
  intro target targetSlot
  rw [Storage.readPair, Storage.attempt_bind]
  refine attempt_read notCmp (by simp [operands]) ?_
  intro first firstSlot
  rw [Storage.attempt_bind]
  refine attempt_read notCmp (by simp [operands]) ?_
  intro second secondSlot
  exact rest target first second targetSlot firstSlot secondSlot

end Lookups

end Effect

/-! ## One opcode after the other -/

section Opcodes

variable (programSize : Nat) (storage : Storage) (dst src1 src2 : Word)

theorem effect_load :
    Effect programSize storage ⟨.load, dst, src1, src2⟩
      (storage.load dst src1 src2) := by
  have isOperand :
      dst ∈ Instruction.registerOperands ⟨.load, dst, src1, src2⟩ := by
    unfold Instruction.registerOperands
    dsimp only
    split <;> exact List.mem_cons_self
  unfold Storage.load
  refine Effect.attempt_slot (by simp) isOperand ?_
  intro target targetSlot
  by_cases direct : src2 = 0
  · subst direct
    have accessed :
        Instruction.address? ⟨.load, dst, src1, 0⟩ storage.registers =
          some src1 :=
      rfl
    change Effect _ _ _ (storage.attempt (storage.memory.load src1) _)
    rw [Storage.attempt_load]
    split
    · next inRange => exact Effect.loadDirect targetSlot inRange
    · next outside =>
        exact
          Effect.refused (.address accessed (Nat.not_lt.mp outside))
            (by simp) (by simp)
  · by_cases indirect : src2 = 1
    · subst indirect
      change
        Effect _ _ _
          (storage.attempt
            (storage.registers.read src1 >>= storage.memory.load) _)
      rw [Storage.attempt_bind]
      refine
        Effect.attempt_read (by simp)
          (List.mem_cons_of_mem dst List.mem_cons_self) ?_
      intro first firstSlot
      have accessed :
          Instruction.address? ⟨.load, dst, src1, 1⟩ storage.registers =
            some (storage.registers.get first) := by
        simp [Instruction.address?, RegisterFile.lt_of_slot firstSlot,
          RegisterFile.valueAt_of_slot storage.registers firstSlot]
      rw [Storage.attempt_load]
      split
      · next inRange =>
          exact Effect.loadIndirect targetSlot firstSlot inRange
      · next outside =>
          exact
            Effect.refused (.address accessed (Nat.not_lt.mp outside))
              (by simp) (by simp)
    · by_cases immediate : src2 = 2
      · subst immediate
        exact Effect.loadImmediate targetSlot
      · unfold Storage.loadedValue AddressingMode.ofCode
        rw [if_neg direct, if_neg indirect, if_neg immediate]
        exact
          Effect.refused (.mode direct indirect immediate) (by simp) (by simp)

theorem effect_store :
    Effect programSize storage ⟨.store, dst, src1, src2⟩
      (storage.store dst src1) := by
  unfold Storage.store
  refine Effect.attempt_read (by simp) List.mem_cons_self ?_
  intro first firstSlot
  rw [Storage.attempt_store]
  split
  · next inRange => exact Effect.store firstSlot inRange
  · next outside =>
      exact
        Effect.refused (.address rfl (Nat.not_lt.mp outside)) (by simp) (by simp)

theorem effect_add :
    Effect programSize storage ⟨.add, dst, src1, src2⟩
      (storage.add dst src1 src2) := by
  refine Effect.attemptOnRegisters (by simp) rfl ?_
  intro target first second targetSlot firstSlot secondSlot
  simp only [Word.toUInt32_wideSum, Word.exceeds_eq, Word.toNat_wideSum]
  exact Effect.add targetSlot firstSlot secondSlot

theorem effect_sub :
    Effect programSize storage ⟨.sub, dst, src1, src2⟩
      (storage.sub dst src1 src2) := by
  refine Effect.attemptOnRegisters (by simp) rfl ?_
  intro target first second targetSlot firstSlot secondSlot
  simp only [UInt32.lt_iff_toNat_lt]
  exact Effect.sub targetSlot firstSlot secondSlot

theorem effect_mul :
    Effect programSize storage ⟨.mul, dst, src1, src2⟩
      (storage.mul dst src1 src2) := by
  refine Effect.attemptOnRegisters (by simp) rfl ?_
  intro target first second targetSlot firstSlot secondSlot
  simp only [Word.toUInt32_wideProduct, Word.exceeds_eq,
    Word.toNat_wideProduct]
  exact Effect.mul targetSlot firstSlot secondSlot

theorem effect_div :
    Effect programSize storage ⟨.div, dst, src1, src2⟩
      (storage.div dst src1 src2) := by
  refine Effect.attemptOnRegisters (by simp) rfl ?_
  intro target first second targetSlot firstSlot secondSlot
  dsimp only
  split
  · next zero =>
      have exist :
          ∀ index ∈ [dst, src1, src2], index.toNat < registerCount := by
        simp [RegisterFile.lt_of_slot targetSlot,
          RegisterFile.lt_of_slot firstSlot,
          RegisterFile.lt_of_slot secondSlot]
      have divisorZero : storage.registers.valueAt src2 = 0 := by
        rw [RegisterFile.valueAt_of_slot storage.registers secondSlot, zero]
      exact Effect.fault (.divisor exist divisorZero)
  · next nonzero =>
      exact Effect.div targetSlot firstSlot secondSlot nonzero

theorem effect_cmp :
    Effect programSize storage ⟨.cmp, dst, src1, src2⟩
      (storage.cmp src1 src2) := by
  unfold Storage.cmp Storage.readPair
  rcases Nat.lt_or_ge src1.toNat registerCount with firstInRange | missing
  · have firstSlot := RegisterFile.slot_of_lt firstInRange
    rw [Storage.read_registers storage firstSlot]
    rcases Nat.lt_or_ge src2.toNat registerCount with secondInRange | missing
    · have secondSlot := RegisterFile.slot_of_lt secondInRange
      rw [Storage.read_registers storage secondSlot]
      exact Effect.cmp firstSlot secondSlot
    · rw [RegisterFile.read, RegisterFile.slot_of_le missing]
      have operand : src2 ∈ [src1, src2] :=
        List.mem_cons_of_mem src1 List.mem_cons_self
      exact Effect.fault (.register operand missing)
  · rw [RegisterFile.read, RegisterFile.slot_of_le missing]
    have operand : src1 ∈ [src1, src2] := List.mem_cons_self
    exact Effect.fault (.register operand missing)

theorem effect_jmp :
    Effect programSize storage ⟨.jmp, dst, src1, src2⟩
      (storage.jmp dst src1 programSize) := by
  unfold Storage.jmp
  split
  · next outside =>
      exact Effect.refused (.target outside) (by simp) (by simp)
  · next inside =>
      split
      · next taken => exact Effect.jump (Nat.not_le.mp inside) taken
      · next notTaken => exact Effect.pass (Nat.not_le.mp inside) notTaken

theorem effect_mov :
    Effect programSize storage ⟨.mov, dst, src1, src2⟩
      (storage.mov dst src1) := by
  unfold Storage.mov
  refine Effect.attempt_read (by simp) (List.mem_cons_of_mem dst List.mem_cons_self) ?_
  intro first firstSlot
  refine Effect.attempt_slot (by simp) List.mem_cons_self ?_
  intro target targetSlot
  exact Effect.mov targetSlot firstSlot

theorem effect_checkFlag :
    Effect programSize storage ⟨.checkFlag, dst, src1, src2⟩
      (storage.checkFlag dst src1) := by
  unfold Storage.checkFlag
  refine Effect.attempt_slot (by simp) List.mem_cons_self ?_
  intro target targetSlot
  exact Effect.checkFlag targetSlot

end Opcodes

/-- An instruction has one of the effects that it can have. -/
theorem effect_execute
    (instruction : Instruction) (programSize : Nat) (storage : Storage) :
    Effect programSize storage instruction
      (instruction.execute programSize storage) := by
  obtain ⟨opcode, dst, src1, src2⟩ := instruction
  cases opcode with
  | halt => exact Effect.halt
  | load => exact effect_load programSize storage dst src1 src2
  | store => exact effect_store programSize storage dst src1 src2
  | add => exact effect_add programSize storage dst src1 src2
  | sub => exact effect_sub programSize storage dst src1 src2
  | mul => exact effect_mul programSize storage dst src1 src2
  | div => exact effect_div programSize storage dst src1 src2
  | cmp => exact effect_cmp programSize storage dst src1 src2
  | jmp => exact effect_jmp programSize storage dst src1 src2
  | mov => exact effect_mov programSize storage dst src1 src2
  | checkFlag => exact effect_checkFlag programSize storage dst src1 src2

end RegisterMachine
