import RegisterMachine.Execution.Basic

/-!
# Operands that cannot be used

An instruction is refused when an operand that it uses names no register, no memory cell, no
addressing mode or no instruction of the program, or is a zero divisor.  `Refused` has one rule for
each kind of fault, and `Instruction.Unusable` lists the same conditions opcode by opcode.
-/

namespace RegisterMachine

namespace RegisterFile

variable {index : Word} {register : Register}

theorem slot_of_lt (inRange : index.toNat < registerCount) :
    slot index = .ok ⟨index.toNat, inRange⟩ :=
  dif_pos inRange

theorem slot_of_le (missing : registerCount ≤ index.toNat) :
    slot index = .error (.registerOutOfRange index) :=
  dif_neg (Nat.not_lt.mpr missing)

theorem lt_of_slot (found : slot index = .ok register) :
    index.toNat < registerCount := by
  apply Nat.lt_of_not_le
  intro missing
  rw [slot_of_le missing] at found
  cases found

theorem val_of_slot (found : slot index = .ok register) :
    register.val = index.toNat := by
  have inRange := lt_of_slot found
  rw [slot_of_lt inRange, Except.ok.injEq] at found
  rw [← found]

theorem slot_of_toNat_eq (named : index.toNat = register.val) :
    slot index = .ok register := by
  have inRange : index.toNat < registerCount := by
    rw [named]
    exact register.isLt
  rw [slot_of_lt inRange, Except.ok.injEq]
  exact Fin.ext named

/-- The value of the register that an index names.  An index that names no register reads as 0. -/
def valueAt (registers : RegisterFile) (index : Word) : Word :=
  match registers.read index with
  | .ok value => value
  | .error _ => 0

theorem valueAt_of_slot
    (registers : RegisterFile) (found : slot index = .ok register) :
    registers.valueAt index = registers.get register := by
  simp only [valueAt, read, found]

end RegisterFile

namespace Instruction

/-- The operands that name registers. -/
def registerOperands (instruction : Instruction) : List Word :=
  match instruction with
  | ⟨.halt, _, _, _⟩ => []
  | ⟨.load, dst, src1, src2⟩ => if src2 = 1 then [dst, src1] else [dst]
  | ⟨.store, _, src1, _⟩ => [src1]
  | ⟨.add, dst, src1, src2⟩ => [dst, src1, src2]
  | ⟨.sub, dst, src1, src2⟩ => [dst, src1, src2]
  | ⟨.mul, dst, src1, src2⟩ => [dst, src1, src2]
  | ⟨.div, dst, src1, src2⟩ => [dst, src1, src2]
  | ⟨.cmp, _, src1, src2⟩ => [src1, src2]
  | ⟨.jmp, _, _, _⟩ => []
  | ⟨.mov, dst, src1, _⟩ => [dst, src1]
  | ⟨.checkFlag, dst, _, _⟩ => [dst]

/-- The address of the memory cell that an instruction reads or writes.  A load through a register
that does not exist has none. -/
def address? (instruction : Instruction) (registers : RegisterFile) : Option Word :=
  match instruction with
  | ⟨.load, _, src1, src2⟩ =>
    if src2 = 0 then some src1
    else if src2 = 1 ∧ src1.toNat < registerCount then some (registers.valueAt src1)
    else none
  | ⟨.store, dst, _, _⟩ => some dst
  | _ => none

/-- The instruction uses an operand that cannot be used. -/
def Unusable (instruction : Instruction) (programSize : Nat) (storage : Storage) : Prop :=
  match instruction with
  | ⟨.halt, _, _, _⟩ => False
  | ⟨.load, dst, src1, src2⟩ =>
    registerCount ≤ dst.toNat ∨
      (src2 ≠ 0 ∧ src2 ≠ 1 ∧ src2 ≠ 2) ∨
      (src2 = 0 ∧ storage.memory.size ≤ src1.toNat) ∨
      (src2 = 1 ∧
        (registerCount ≤ src1.toNat ∨
          storage.memory.size ≤ (storage.registers.valueAt src1).toNat))
  | ⟨.store, dst, src1, _⟩ =>
    registerCount ≤ src1.toNat ∨ storage.memory.size ≤ dst.toNat
  | ⟨.add, dst, src1, src2⟩ | ⟨.sub, dst, src1, src2⟩ | ⟨.mul, dst, src1, src2⟩ =>
    registerCount ≤ dst.toNat ∨ registerCount ≤ src1.toNat ∨ registerCount ≤ src2.toNat
  | ⟨.div, dst, src1, src2⟩ =>
    registerCount ≤ dst.toNat ∨ registerCount ≤ src1.toNat ∨ registerCount ≤ src2.toNat ∨
      storage.registers.valueAt src2 = 0
  | ⟨.cmp, _, src1, src2⟩ =>
    registerCount ≤ src1.toNat ∨ registerCount ≤ src2.toNat
  | ⟨.jmp, dst, _, _⟩ => programSize ≤ dst.toNat
  | ⟨.mov, dst, src1, _⟩ =>
    registerCount ≤ dst.toNat ∨ registerCount ≤ src1.toNat
  | ⟨.checkFlag, dst, _, _⟩ => registerCount ≤ dst.toNat

end Instruction

/-- `Refused programSize storage instruction reason` says that the instruction uses an operand that
cannot be used.  `reason` tells which one. -/
inductive Refused (programSize : Nat) (storage : Storage) : Instruction → Fault → Prop
  | register {instruction : Instruction} {index : Word} :
      index ∈ instruction.registerOperands →
      registerCount ≤ index.toNat →
      Refused programSize storage instruction (.registerOutOfRange index)
  | address {instruction : Instruction} {address : Word} :
      instruction.address? storage.registers = some address →
      storage.memory.size ≤ address.toNat →
      Refused programSize storage instruction (.memoryOutOfRange address)
  | mode {dst src1 src2 : Word} :
      src2 ≠ 0 → src2 ≠ 1 → src2 ≠ 2 →
      Refused programSize storage ⟨.load, dst, src1, src2⟩
        (.invalidAddressingMode src2)
  | target {dst src1 src2 : Word} :
      programSize ≤ dst.toNat →
      Refused programSize storage ⟨.jmp, dst, src1, src2⟩
        (.jumpOutOfRange dst programSize)
  | divisor {dst src1 src2 : Word} :
      (∀ index ∈ [dst, src1, src2], index.toNat < registerCount) →
      storage.registers.valueAt src2 = 0 →
      Refused programSize storage ⟨.div, dst, src1, src2⟩ .divisionByZero

namespace Refused

variable {programSize : Nat} {storage : Storage}
variable {instruction : Instruction} {reason : Fault}

/-- Every fault has its cause in the list. -/
theorem unusable
    (refused : Refused programSize storage instruction reason) :
    instruction.Unusable programSize storage := by
  cases refused with
  | register operand missing =>
      obtain ⟨opcode, dst, src1, src2⟩ := instruction
      cases opcode with
      | halt => cases operand
      | jmp => cases operand
      | load =>
          unfold Instruction.registerOperands at operand
          by_cases indirect : src2 = 1
          · simp only [indirect, if_true, List.mem_cons, List.not_mem_nil,
              or_false] at operand
            rcases operand with rfl | rfl
            · exact Or.inl missing
            · exact Or.inr (Or.inr (Or.inr ⟨indirect, Or.inl missing⟩))
          · simp only [indirect, if_false, List.mem_singleton] at operand
            subst operand
            exact Or.inl missing
      | _ =>
          simp only [Instruction.registerOperands, List.mem_cons,
            List.not_mem_nil, or_false] at operand
          simp only [Instruction.Unusable]
          grind
  | address accessed outside =>
      obtain ⟨opcode, dst, src1, src2⟩ := instruction
      cases opcode with
      | load =>
          simp only [Instruction.address?] at accessed
          split at accessed
          · next direct =>
              cases accessed
              exact Or.inr (Or.inr (Or.inl ⟨direct, outside⟩))
          · split at accessed
            · next indirect =>
                cases accessed
                exact Or.inr (Or.inr (Or.inr ⟨indirect.1, Or.inr outside⟩))
            · cases accessed
      | store =>
          cases accessed
          exact Or.inr outside
      | _ => cases accessed
  | mode notDirect notIndirect notImmediate =>
      exact Or.inr (Or.inl ⟨notDirect, notIndirect, notImmediate⟩)
  | target outside => exact outside
  | divisor exist zero => exact Or.inr (Or.inr (Or.inr zero))

end Refused

end RegisterMachine
