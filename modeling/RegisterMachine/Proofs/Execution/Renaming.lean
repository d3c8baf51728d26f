import Mathlib.Logic.Equiv.Defs
import RegisterMachine.Execution.Step
import RegisterMachine.Proofs.Execution.Refusal

/-!
# Renamed registers

A permutation of the registers renames the register operands of an instruction, and moves the
values of a register file.  Both together change nothing: a renamed instruction does to renamed
registers what the instruction does to the registers.
-/

namespace RegisterMachine

open RegisterFile (slot)

variable (names : Equiv.Perm Register)

/-! ## Renaming -/

/-- The index of a register under its new name.  An index that names no register stays as it is. -/
def Word.rename (index : Word) : Word :=
  if inRange : index.toNat < registerCount then
    UInt32.ofNat (names ⟨index.toNat, inRange⟩).val
  else index

/-- New names for all registers that an instruction uses. -/
def Instruction.rename (instruction : Instruction) : Instruction :=
  match instruction with
  | ⟨.halt, dst, src1, src2⟩ => ⟨.halt, dst, src1, src2⟩
  | ⟨.load, dst, src1, src2⟩ =>
    ⟨.load, Word.rename names dst, if src2 = 1 then Word.rename names src1 else src1, src2⟩
  | ⟨.store, dst, src1, src2⟩ => ⟨.store, dst, Word.rename names src1, src2⟩
  | ⟨.add, dst, src1, src2⟩ =>
    ⟨.add, Word.rename names dst, Word.rename names src1, Word.rename names src2⟩
  | ⟨.sub, dst, src1, src2⟩ =>
    ⟨.sub, Word.rename names dst, Word.rename names src1, Word.rename names src2⟩
  | ⟨.mul, dst, src1, src2⟩ =>
    ⟨.mul, Word.rename names dst, Word.rename names src1, Word.rename names src2⟩
  | ⟨.div, dst, src1, src2⟩ =>
    ⟨.div, Word.rename names dst, Word.rename names src1, Word.rename names src2⟩
  | ⟨.cmp, dst, src1, src2⟩ => ⟨.cmp, dst, Word.rename names src1, Word.rename names src2⟩
  | ⟨.jmp, dst, src1, src2⟩ => ⟨.jmp, dst, src1, src2⟩
  | ⟨.mov, dst, src1, src2⟩ => ⟨.mov, Word.rename names dst, Word.rename names src1, src2⟩
  | ⟨.checkFlag, dst, src1, src2⟩ => ⟨.checkFlag, Word.rename names dst, src1, src2⟩

/-- The register file in which each register has moved to its new name. -/
@[irreducible] def RegisterFile.rename (registers : RegisterFile) : RegisterFile :=
  ⟨Vector.ofFn fun register => registers.get (names.symm register)⟩

def Storage.rename (storage : Storage) : Storage :=
  { storage with registers := storage.registers.rename names }

/-- What an instruction leaves, with renamed registers.  An ending names no register of the machine,
so it stays as it is. -/
def Storage.renameOutcome (outcome : Storage × Ending) : Storage × Ending :=
  (outcome.1.rename names, outcome.2)

/-! ## Register files -/

namespace RegisterFile

theorem slot_rename (index : Word) :
    slot (Word.rename names index) = (slot index).map names := by
  unfold Word.rename
  split
  · next inRange =>
      let renamed := names ⟨index.toNat, inRange⟩
      have small : renamed.val < 2 ^ 32 :=
        Nat.lt_trans renamed.isLt (by decide)
      have value : (UInt32.ofNat renamed.val).toNat = renamed.val :=
        UInt32.toNat_ofNat_of_lt' small
      have renamedInRange :
          (UInt32.ofNat renamed.val).toNat < registerCount := by
        rw [value]
        exact renamed.isLt
      rw [slot_of_lt renamedInRange, slot_of_lt inRange]
      exact congrArg Except.ok (Fin.ext value)
  · next missing =>
      rw [slot_of_le (Nat.not_lt.mp missing)]
      rfl

@[simp] theorem get_rename (registers : RegisterFile) (register : Register) :
    (registers.rename names).get (names register) =
      registers.get register := by
  simp [get, rename]

theorem set_rename
    (registers : RegisterFile) (register : Register) (value : Word) :
    (registers.rename names).set (names register) value =
      (registers.set register value).rename names := by
  apply ext_get
  intro other
  obtain ⟨other, rfl⟩ := names.surjective other
  rw [get_set, get_rename, get_rename, get_set]
  simp only [EmbeddingLike.apply_eq_iff_eq]

theorem read_rename (registers : RegisterFile) (index : Word) :
    (registers.rename names).read (Word.rename names index) =
      registers.read index := by
  unfold read
  rw [slot_rename]
  cases slot index with
  | ok register => exact congrArg Except.ok (get_rename names registers register)
  | error fault => rfl

theorem rename_clear : clear.rename names = clear := by
  apply ext_get
  intro register
  obtain ⟨register, rfl⟩ := names.surjective register
  rw [get_rename, get_clear, get_clear]

end RegisterFile

/-! ## Looking up operands -/

namespace Storage

variable {names}
variable (storage : Storage)

theorem setRegister_rename (register : Register) (value : Word) :
    (storage.rename names).setRegister (names register) value =
      (storage.setRegister register value).rename names := by
  unfold setRegister rename
  rw [RegisterFile.set_rename]

theorem attempt_rename
    {α : Type} (value : Except Fault α)
    {action renamedAction : α → Storage × Ending}
    (rest :
      ∀ result, renamedAction result = renameOutcome names (action result)) :
    (storage.rename names).attempt value renamedAction =
      renameOutcome names (storage.attempt value action) := by
  cases value with
  | ok result => exact rest result
  | error fault => rfl

theorem attempt_slot_rename
    (index : Word) {action renamedAction : Register → Storage × Ending}
    (rest :
      ∀ register,
        renamedAction (names register) =
          renameOutcome names (action register)) :
    (storage.rename names).attempt (slot (Word.rename names index))
        renamedAction =
      renameOutcome names (storage.attempt (slot index) action) := by
  rw [RegisterFile.slot_rename]
  cases slot index with
  | ok register => exact rest register
  | error fault => rfl

theorem attempt_read_rename
    (index : Word) {action renamedAction : Word → Storage × Ending}
    (rest :
      ∀ value, renamedAction value = renameOutcome names (action value)) :
    (storage.rename names).attempt
        ((storage.rename names).registers.read (Word.rename names index))
        renamedAction =
      renameOutcome names
        (storage.attempt (storage.registers.read index) action) := by
  have value :
      (storage.rename names).registers.read (Word.rename names index) =
        storage.registers.read index :=
    RegisterFile.read_rename names storage.registers index
  rw [value]
  exact storage.attempt_rename _ rest

theorem readPair_rename (left right : Word) :
    (storage.rename names).readPair
        (Word.rename names left) (Word.rename names right) =
      storage.readPair left right := by
  unfold readPair rename
  rw [RegisterFile.read_rename, RegisterFile.read_rename]

theorem attemptOnRegisters_rename
    (dst left right : Word)
    {action renamedAction : Register → Word → Word → Storage × Ending}
    (rest :
      ∀ register a b,
        renamedAction (names register) a b =
          renameOutcome names (action register a b)) :
    (storage.rename names).attemptOnRegisters (Word.rename names dst)
        (Word.rename names left) (Word.rename names right) renamedAction =
      renameOutcome names
        (storage.attemptOnRegisters dst left right action) := by
  apply storage.attempt_slot_rename
  intro register
  rw [readPair_rename]
  apply storage.attempt_rename
  intro values
  exact rest register values.1 values.2

/-- The operand of a load names a register only if the load is indirect. -/
theorem loadedValue_rename (source mode : Word) :
    (storage.rename names).loadedValue
        (if mode = 1 then Word.rename names source else source) mode =
      storage.loadedValue source mode := by
  unfold loadedValue AddressingMode.ofCode
  by_cases direct : mode = 0
  · subst direct
    rfl
  · by_cases indirect : mode = 1
    · subst indirect
      have value :
          (storage.rename names).registers.read (Word.rename names source) =
            storage.registers.read source :=
        RegisterFile.read_rename names storage.registers source
      simp only [if_neg direct, if_pos, value]
      rfl
    · by_cases immediate : mode = 2
      · simp only [if_neg direct, if_neg indirect, if_pos immediate]
      · simp only [if_neg direct, if_neg indirect, if_neg immediate]


/-! ## Opcodes -/

variable (dst left right : Word)

theorem load_rename (source mode : Word) :
    (storage.rename names).load (Word.rename names dst)
        (if mode = 1 then Word.rename names source else source) mode =
      renameOutcome names (storage.load dst source mode) := by
  unfold load
  apply storage.attempt_slot_rename
  intro register
  rw [loadedValue_rename]
  apply storage.attempt_rename
  intro value
  rw [setRegister_rename]
  rfl

theorem store_rename (address source : Word) :
    (storage.rename names).store address (Word.rename names source) =
      renameOutcome names (storage.store address source) := by
  unfold store
  apply storage.attempt_read_rename
  intro value
  apply storage.attempt_rename
  intro memory
  rfl

theorem add_rename :
    (storage.rename names).add (Word.rename names dst)
        (Word.rename names left) (Word.rename names right) =
      renameOutcome names (storage.add dst left right) := by
  unfold add
  apply storage.attemptOnRegisters_rename
  intro register a b
  dsimp only
  rw [setRegister_rename]
  rfl

theorem sub_rename :
    (storage.rename names).sub (Word.rename names dst)
        (Word.rename names left) (Word.rename names right) =
      renameOutcome names (storage.sub dst left right) := by
  unfold sub
  apply storage.attemptOnRegisters_rename
  intro register a b
  dsimp only
  rw [setRegister_rename]
  rfl

theorem mul_rename :
    (storage.rename names).mul (Word.rename names dst)
        (Word.rename names left) (Word.rename names right) =
      renameOutcome names (storage.mul dst left right) := by
  unfold mul
  apply storage.attemptOnRegisters_rename
  intro register a b
  dsimp only
  rw [setRegister_rename]
  rfl

theorem div_rename :
    (storage.rename names).div (Word.rename names dst)
        (Word.rename names left) (Word.rename names right) =
      renameOutcome names (storage.div dst left right) := by
  unfold div
  apply storage.attemptOnRegisters_rename
  intro register dividend divisor
  by_cases zero : divisor = 0
  · rw [if_pos zero, if_pos zero]
    rfl
  · rw [if_neg zero, if_neg zero]
    dsimp only
    rw [setRegister_rename]
    rfl

theorem cmp_rename :
    (storage.rename names).cmp
        (Word.rename names left) (Word.rename names right) =
      renameOutcome names (storage.cmp left right) := by
  unfold cmp
  rw [readPair_rename]
  cases storage.readPair left right <;> rfl

theorem jmp_rename (target condition : Word) (programSize : Nat) :
    (storage.rename names).jmp target condition programSize =
      renameOutcome names (storage.jmp target condition programSize) := by
  have flags : (storage.rename names).flags = storage.flags := rfl
  unfold jmp
  rw [flags]
  split
  · rfl
  · split <;> rfl

theorem mov_rename (source : Word) :
    (storage.rename names).mov
        (Word.rename names dst) (Word.rename names source) =
      renameOutcome names (storage.mov dst source) := by
  unfold mov
  apply storage.attempt_read_rename
  intro value
  apply storage.attempt_slot_rename
  intro register
  rw [setRegister_rename]
  rfl

theorem checkFlag_rename (index : Word) :
    (storage.rename names).checkFlag (Word.rename names dst) index =
      renameOutcome names (storage.checkFlag dst index) := by
  unfold checkFlag
  apply storage.attempt_slot_rename
  intro register
  rw [setRegister_rename]
  rfl

end Storage

/-- A renamed instruction does to renamed registers what the instruction does to the registers, and
ends in the same way. -/
theorem execute_rename
    (instruction : Instruction) (programSize : Nat) (storage : Storage) :
    (instruction.rename names).execute programSize (storage.rename names) =
      Storage.renameOutcome names
        (instruction.execute programSize storage) := by
  obtain ⟨opcode, dst, src1, src2⟩ := instruction
  cases opcode with
  | halt => rfl
  | load => exact storage.load_rename dst src1 src2
  | store => exact storage.store_rename dst src1
  | add => exact storage.add_rename dst src1 src2
  | sub => exact storage.sub_rename dst src1 src2
  | mul => exact storage.mul_rename dst src1 src2
  | div => exact storage.div_rename dst src1 src2
  | cmp => exact storage.cmp_rename src1 src2
  | jmp => exact storage.jmp_rename dst src1 programSize
  | mov => exact storage.mov_rename dst src1
  | checkFlag => exact storage.checkFlag_rename dst src1

end RegisterMachine
