import RegisterMachine.Proofs.Execution.Frame
import RegisterMachine.Proofs.Run.Flags

/-!
# Exact arithmetic

The arithmetic instructions compute in 32 bits.  Their results and flags together are exact: a sum
is its result with the carry, a minuend with the borrow is the result and the subtrahend, the
overflow tells whether a product was cut off, and a dividend is the quotient times the divisor and a
remainder.  It makes no difference which of the three registers are the same.
-/

namespace RegisterMachine

open RegisterFile (slot)

/-- The result of an arithmetic instruction and the flags that go with it, in natural numbers.  A
division by zero leaves what was there before. -/
def Exact
    (opcode : Opcode) (left right previous result : Nat) (flags : Flags) : Prop :=
  match opcode with
  | .add => left + right = result + 2 ^ 32 * (flags.get .carry).toNat
  | .sub => left + 2 ^ 32 * (flags.get .carry).toNat = result + right
  | .mul =>
    result = left * right % 2 ^ 32 ∧
      (flags.get .overflow = true ↔ 2 ^ 32 ≤ left * right)
  | .div =>
    if right = 0 then result = previous
    else
      (∃ remainder < right, left = result * right + remainder) ∧
        flags.get .carry = false ∧ flags.get .overflow = false ∧
        flags.get .divisionFault = false
  | _ => False

/-- An arithmetic instruction turns `before` into `after` and leaves its result in the register
`target`. -/
structure Results
    (opcode : Opcode) (target : Register) (left right : Word)
    (before after : Storage) : Prop where
  exact :
    Exact opcode left.toNat right.toNat
      (before.registers.get target).toNat
      (after.registers.get target).toNat after.flags
  negative :
    after.flags.get .negative =
      if opcode = .div ∧ right = 0 then before.flags.get .negative
      else (after.registers.get target).toNat.testBit 31

section Opcodes

variable {storage : Storage} {programSize : Nat}
variable {dst src1 src2 : Word} {target first second : Register}

theorem results_add
    (targetSlot : slot dst = .ok target)
    (firstSlot : slot src1 = .ok first)
    (secondSlot : slot src2 = .ok second) :
    Results .add target
      (storage.registers.get first) (storage.registers.get second) storage
      ((Instruction.add dst src1 src2).execute programSize storage).1 := by
  rw [execute_add targetSlot firstSlot secondSlot]
  constructor
  · simpa [Exact] using Word.toNat_add_eq _ _
  · simp [Word.signBit_eq_testBit]

theorem results_sub
    (targetSlot : slot dst = .ok target)
    (firstSlot : slot src1 = .ok first)
    (secondSlot : slot src2 = .ok second) :
    Results .sub target
      (storage.registers.get first) (storage.registers.get second) storage
      ((Instruction.sub dst src1 src2).execute programSize storage).1 := by
  rw [execute_sub targetSlot firstSlot secondSlot]
  constructor
  · simpa [Exact] using Word.toNat_sub_eq _ _
  · simp [Word.signBit_eq_testBit]

theorem results_mul
    (targetSlot : slot dst = .ok target)
    (firstSlot : slot src1 = .ok first)
    (secondSlot : slot src2 = .ok second) :
    Results .mul target
      (storage.registers.get first) (storage.registers.get second) storage
      ((Instruction.mul dst src1 src2).execute programSize storage).1 := by
  rw [execute_mul targetSlot firstSlot secondSlot]
  constructor
  · simp [Exact, UInt32.toNat_mul]
  · simp [Word.signBit_eq_testBit]

theorem results_div
    (targetSlot : slot dst = .ok target)
    (firstSlot : slot src1 = .ok first)
    (secondSlot : slot src2 = .ok second) :
    Results .div target
      (storage.registers.get first) (storage.registers.get second) storage
      ((Instruction.div dst src1 src2).execute programSize storage).1 := by
  by_cases zero : storage.registers.get second = 0
  · rw [execute_div_of_eq_zero targetSlot firstSlot secondSlot zero]
    constructor
    · simp [Exact, zero]
    · simp [zero]
  · have positive : (storage.registers.get second).toNat ≠ 0 :=
      fun isZero => zero (UInt32.toNat_inj.mp isZero)
    have divided :=
      Word.exists_remainder (storage.registers.get first) zero
    rw [execute_div targetSlot firstSlot secondSlot zero]
    constructor
    · simpa [Exact, positive] using divided
    · simp [zero, Word.signBit_eq_testBit]

end Opcodes

/-! ## The step -/

/-- All that an arithmetic instruction does. -/
structure Computes
    (opcode : Opcode) (target : Register) (left right : Word)
    (before after : Storage) : Prop
    extends Results opcode target left right before after where
  registers :
    ∀ register, register ≠ target →
      after.registers.get register = before.registers.get register
  flags :
    ∀ flag : Flag, opcode ∉ flag.owners →
      after.flags.get flag = before.flags.get flag
  memory : after.memory = before.memory
  /-- Sums and products of two words fit in 64 bits. -/
  wideSum : (Word.wideSum left right).toNat = left.toNat + right.toNat
  wideProduct :
    (Word.wideProduct left right).toNat = left.toNat * right.toNat

section

variable {instruction : Instruction} {target first second : Register}

theorem results_execute
    (arithmetic : instruction.opcode ∈ [.add, .sub, .mul, .div])
    (targetSlot : slot instruction.dst = .ok target)
    (firstSlot : slot instruction.src1 = .ok first)
    (secondSlot : slot instruction.src2 = .ok second)
    (programSize : Nat) (storage : Storage) :
    Results instruction.opcode target
      (storage.registers.get first) (storage.registers.get second) storage
      (instruction.execute programSize storage).1 := by
  obtain ⟨opcode, dst, src1, src2⟩ := instruction
  simp only [List.mem_cons, List.not_mem_nil, or_false] at arithmetic
  rcases arithmetic with rfl | rfl | rfl | rfl
  · exact results_add targetSlot firstSlot secondSlot
  · exact results_sub targetSlot firstSlot secondSlot
  · exact results_mul targetSlot firstSlot secondSlot
  · exact results_div targetSlot firstSlot secondSlot

/-- A step that runs an arithmetic instruction on registers of the machine computes exactly,
whichever of the registers are the same. -/
theorem computes_step
    {program : Program} {state : State}
    (fetched : program[state.counter.toNat]? = some instruction)
    (arithmetic : instruction.opcode ∈ [.add, .sub, .mul, .div])
    (isTarget : instruction.dst.toNat = target.val)
    (isFirst : instruction.src1.toNat = first.val)
    (isSecond : instruction.src2.toNat = second.val) :
    Computes instruction.opcode target
      (state.registers.get first) (state.registers.get second)
      state.toStorage (state.step program).state.toStorage := by
  have notStore : instruction.opcode ≠ .store := by
    intro isStore
    rw [isStore] at arithmetic
    simp at arithmetic
  have results :=
    results_execute arithmetic
      (RegisterFile.slot_of_toNat_eq isTarget)
      (RegisterFile.slot_of_toNat_eq isFirst)
      (RegisterFile.slot_of_toNat_eq isSecond)
      program.size state.toStorage
  rw [State.step_of_getElem? fetched]
  refine
    { toResults := results
      registers := ?_
      flags := ?_
      memory := memory_execute notStore program.size state.toStorage
      wideSum := Word.toNat_wideSum _ _
      wideProduct := Word.toNat_wideProduct _ _ }
  · intro register different
    apply get_registers_execute
    rw [isTarget]
    exact fun same => different (Fin.ext same.symm)
  · intro flag notOwner
    exact get_flags_execute_of_not_owner notOwner program.size _

/-- All three operands are one register, whose square does not fit. -/
theorem computes_step_squared :
    let program : Program := #[Instruction.mul 3 3 3]
    let state : State :=
      { State.start (Memory.zeros 1) with
          registers := RegisterFile.clear.set 3 0x10001 }
    program[state.counter.toNat]? = some (Instruction.mul 3 3 3) ∧
      (Instruction.mul 3 3 3).opcode ∈ [.add, .sub, .mul, .div] ∧
      (Instruction.mul 3 3 3).dst.toNat = (3 : Register).val ∧
      Computes .mul 3 0x10001 0x10001 state.toStorage
        (state.step program).state.toStorage ∧
      ((state.step program).state.registers.get 3).toNat =
        0x10001 * 0x10001 % 2 ^ 32 ∧
      (state.step program).state.flags.get .overflow = true := by
  intro program state
  have fetched :
      program[state.counter.toNat]? = some (Instruction.mul 3 3 3) := rfl
  have arithmetic :
      (Instruction.mul 3 3 3).opcode ∈ [.add, .sub, .mul, .div] := by decide
  have isTarget : (Instruction.mul 3 3 3).dst.toNat = (3 : Register).val := rfl
  have computes := computes_step fetched arithmetic isTarget isTarget isTarget
  have value : state.registers.get 3 = 0x10001 := by decide
  rw [value] at computes
  obtain ⟨product, overflow⟩ := computes.exact
  exact
    ⟨fetched, arithmetic, isTarget, computes, product,
      overflow.mpr (by decide)⟩

end

end RegisterMachine
