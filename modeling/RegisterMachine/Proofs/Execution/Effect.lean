import RegisterMachine.Execution.Basic
import RegisterMachine.Proofs.Word

/-!
# The effect of each instruction

One statement an opcode says what an instruction does to the storage and how it ends when its
register operands name registers of the machine.  Effects are written as changes of single
registers, flags and cells, and the flags by exact arithmetic on natural numbers.  Loads and stores
have a second ending, for an address outside the memory.
-/

namespace RegisterMachine

open RegisterFile (slot)

/-! ## Changes of the storage -/

def Flags.set (flags : Flags) (flag : Flag) (value : Bool) : Flags :=
  match flag with
  | .zero => { flags with zero := value }
  | .carry => { flags with carry := value }
  | .negative => { flags with negative := value }
  | .overflow => { flags with overflow := value }
  | .divisionFault => { flags with divisionFault := value }

theorem Flags.get_set
    (flags : Flags) (written flag : Flag) (value : Bool) :
    (flags.set written value).get flag =
      if written = flag then value else flags.get flag := by
  cases written <;> cases flag <;> rfl

theorem Flags.ext_get {left right : Flags}
    (same : ∀ flag, left.get flag = right.get flag) : left = right := by
  cases left
  cases right
  rw [Flags.mk.injEq]
  exact
    ⟨same .zero, same .carry, same .negative, same .overflow,
      same .divisionFault⟩

namespace Storage

def setFlag (storage : Storage) (flag : Flag) (value : Bool) : Storage :=
  { storage with flags := storage.flags.set flag value }

def setCell (storage : Storage) (address value : Word) : Storage :=
  { storage with memory := storage.memory.set address value }

variable (storage : Storage)

@[simp] theorem get_registers_setRegister
    (written register : Register) (value : Word) :
    (storage.setRegister written value).registers.get register =
      if written = register then value
      else storage.registers.get register :=
  RegisterFile.get_set storage.registers written register value

@[simp] theorem flags_setRegister (register : Register) (value : Word) :
    (storage.setRegister register value).flags = storage.flags :=
  rfl

@[simp] theorem memory_setRegister (register : Register) (value : Word) :
    (storage.setRegister register value).memory = storage.memory :=
  rfl

@[simp] theorem registers_setFlag (flag : Flag) (value : Bool) :
    (storage.setFlag flag value).registers = storage.registers :=
  rfl

@[simp] theorem get_flags_setFlag (written flag : Flag) (value : Bool) :
    (storage.setFlag written value).flags.get flag =
      if written = flag then value else storage.flags.get flag :=
  Flags.get_set storage.flags written flag value

@[simp] theorem memory_setFlag (flag : Flag) (value : Bool) :
    (storage.setFlag flag value).memory = storage.memory :=
  rfl

@[simp] theorem registers_setCell (address value : Word) :
    (storage.setCell address value).registers = storage.registers :=
  rfl

@[simp] theorem flags_setCell (address value : Word) :
    (storage.setCell address value).flags = storage.flags :=
  rfl

@[simp] theorem memory_setCell (address value : Word) :
    (storage.setCell address value).memory =
      storage.memory.set address value :=
  rfl

/-! ## Operands that can be used -/

theorem attempt_ok
    {α : Type} (value : α) (action : α → Storage × Ending) :
    storage.attempt (.ok value) action = action value :=
  rfl

theorem read_registers
    {index : Word} {register : Register}
    (indexSlot : slot index = .ok register) :
    storage.registers.read index =
      .ok (storage.registers.get register) := by
  simp only [RegisterFile.read, indexSlot]

theorem readPair_eq
    {left right : Word} {first second : Register}
    (firstSlot : slot left = .ok first)
    (secondSlot : slot right = .ok second) :
    storage.readPair left right =
      .ok (storage.registers.get first, storage.registers.get second) := by
  simp only [readPair, read_registers storage firstSlot,
    read_registers storage secondSlot]
  rfl

theorem attemptOnRegisters_eq
    {dst left right : Word} {target first second : Register}
    (targetSlot : slot dst = .ok target)
    (firstSlot : slot left = .ok first)
    (secondSlot : slot right = .ok second)
    (action : Register → Word → Word → Storage × Ending) :
    storage.attemptOnRegisters dst left right action =
      action target
        (storage.registers.get first) (storage.registers.get second) := by
  simp only [attemptOnRegisters, attempt_ok, targetSlot,
    readPair_eq storage firstSlot secondSlot]

theorem attempt_load
    (address : Word) (action : Word → Storage × Ending) :
    storage.attempt (storage.memory.load address) action =
      if address.toNat < storage.memory.size then
        action (storage.memory.get address)
      else
        (storage, .fault (.memoryOutOfRange address)) := by
  rw [Memory.load_eq]
  by_cases inRange : address.toNat < storage.memory.size
  · simp only [attempt, if_pos inRange]
  · simp only [attempt, if_neg inRange]

theorem attempt_store
    (address value : Word) (action : Memory → Storage × Ending) :
    storage.attempt (storage.memory.store address value) action =
      if address.toNat < storage.memory.size then
        action (storage.memory.set address value)
      else
        (storage, .fault (.memoryOutOfRange address)) := by
  rw [Memory.store_eq]
  by_cases inRange : address.toNat < storage.memory.size
  · simp only [attempt, if_pos inRange]
  · simp only [attempt, if_neg inRange]

end Storage

section Effects

variable {storage : Storage} {programSize : Nat}
variable {dst left right : Word} {target first second : Register}

/-! ## Loads and stores -/

theorem execute_loadImmediate
    (targetSlot : slot dst = .ok target) (value : Word) :
    (Instruction.loadImmediate dst value).execute programSize storage =
      (storage.setRegister target value, .next) := by
  simp only [Instruction.loadImmediate, Instruction.load,
    Instruction.execute, Storage.load, targetSlot,
    Storage.loadedValue, AddressingMode.ofCode_code, Storage.attempt_ok]

theorem execute_loadDirect
    (targetSlot : slot dst = .ok target) (address : Word) :
    (Instruction.loadDirect dst address).execute programSize storage =
      if address.toNat < storage.memory.size then
        (storage.setRegister target (storage.memory.get address), .next)
      else
        (storage, .fault (.memoryOutOfRange address)) := by
  simp only [Instruction.loadDirect, Instruction.load,
    Instruction.execute, Storage.load, Storage.attempt_ok, targetSlot,
    Storage.loadedValue, AddressingMode.ofCode_code,
    Storage.attempt_load]

theorem execute_loadIndirect
    (targetSlot : slot dst = .ok target)
    (firstSlot : slot left = .ok first) :
    (Instruction.loadIndirect dst left).execute programSize storage =
      if (storage.registers.get first).toNat < storage.memory.size then
        (storage.setRegister target
          (storage.memory.get (storage.registers.get first)), .next)
      else
        (storage,
          .fault (.memoryOutOfRange (storage.registers.get first))) := by
  simp only [Instruction.loadIndirect, Instruction.load,
    Instruction.execute, Storage.load, Storage.attempt_ok, targetSlot,
    Storage.loadedValue, AddressingMode.ofCode_code,
    Storage.read_registers storage firstSlot, bind, Except.bind,
    Storage.attempt_load]

theorem execute_store
    (firstSlot : slot left = .ok first) (address : Word) :
    (Instruction.store address left).execute programSize storage =
      if address.toNat < storage.memory.size then
        (storage.setCell address (storage.registers.get first), .next)
      else
        (storage, .fault (.memoryOutOfRange address)) := by
  simp only [Instruction.store, Instruction.execute, Storage.store,
    Storage.read_registers storage firstSlot, Storage.attempt_ok,
    Storage.attempt_store, Storage.setCell]

/-! ## Arithmetic -/

theorem execute_add
    (targetSlot : slot dst = .ok target)
    (firstSlot : slot left = .ok first)
    (secondSlot : slot right = .ok second) :
    (Instruction.add dst left right).execute programSize storage =
      (((storage.setRegister target
          (storage.registers.get first + storage.registers.get second)).setFlag
        .carry (decide (2 ^ 32 ≤ (storage.registers.get first).toNat +
          (storage.registers.get second).toNat))).setFlag
        .negative (Word.signBit
          (storage.registers.get first + storage.registers.get second)),
        .next) := by
  simp only [Instruction.add, Instruction.execute, Storage.add,
    Storage.attemptOnRegisters_eq storage targetSlot firstSlot secondSlot,
    Word.toUInt32_wideSum, Word.exceeds_eq, Word.toNat_wideSum]
  rfl

theorem execute_sub
    (targetSlot : slot dst = .ok target)
    (firstSlot : slot left = .ok first)
    (secondSlot : slot right = .ok second) :
    (Instruction.sub dst left right).execute programSize storage =
      (((storage.setRegister target
          (storage.registers.get first - storage.registers.get second)).setFlag
        .carry (decide ((storage.registers.get first).toNat <
          (storage.registers.get second).toNat))).setFlag
        .negative (Word.signBit
          (storage.registers.get first - storage.registers.get second)),
        .next) := by
  simp only [Instruction.sub, Instruction.execute, Storage.sub,
    Storage.attemptOnRegisters_eq storage targetSlot firstSlot secondSlot,
    UInt32.lt_iff_toNat_lt]
  rfl

theorem execute_mul
    (targetSlot : slot dst = .ok target)
    (firstSlot : slot left = .ok first)
    (secondSlot : slot right = .ok second) :
    (Instruction.mul dst left right).execute programSize storage =
      (((storage.setRegister target
          (storage.registers.get first * storage.registers.get second)).setFlag
        .overflow (decide (2 ^ 32 ≤ (storage.registers.get first).toNat *
          (storage.registers.get second).toNat))).setFlag
        .negative (Word.signBit
          (storage.registers.get first * storage.registers.get second)),
        .next) := by
  simp only [Instruction.mul, Instruction.execute, Storage.mul,
    Storage.attemptOnRegisters_eq storage targetSlot firstSlot secondSlot,
    Word.toUInt32_wideProduct, Word.exceeds_eq, Word.toNat_wideProduct]
  rfl

theorem execute_div
    (targetSlot : slot dst = .ok target)
    (firstSlot : slot left = .ok first)
    (secondSlot : slot right = .ok second)
    (nonzero : storage.registers.get second ≠ 0) :
    (Instruction.div dst left right).execute programSize storage =
      (((((storage.setRegister target
          (storage.registers.get first / storage.registers.get second)).setFlag
        .carry false).setFlag
        .overflow false).setFlag
        .divisionFault false).setFlag
        .negative (Word.signBit
          (storage.registers.get first / storage.registers.get second)),
        .next) := by
  simp only [Instruction.div, Instruction.execute, Storage.div,
    Storage.attemptOnRegisters_eq storage targetSlot firstSlot secondSlot,
    if_neg nonzero]
  rfl

theorem execute_div_of_eq_zero
    (targetSlot : slot dst = .ok target)
    (firstSlot : slot left = .ok first)
    (secondSlot : slot right = .ok second)
    (zero : storage.registers.get second = 0) :
    (Instruction.div dst left right).execute programSize storage =
      (((storage.setFlag .carry false).setFlag .overflow false).setFlag
        .divisionFault true, .fault .divisionByZero) := by
  simp only [Instruction.div, Instruction.execute, Storage.div,
    Storage.attemptOnRegisters_eq storage targetSlot firstSlot secondSlot,
    if_pos zero]
  rfl

/-! ## Comparison, flags and moves -/

theorem execute_cmp
    (firstSlot : slot left = .ok first)
    (secondSlot : slot right = .ok second) :
    (Instruction.cmp left right).execute programSize storage =
      (storage.setFlag .zero
        (storage.registers.get first == storage.registers.get second),
        .next) := by
  simp only [Instruction.cmp, Instruction.execute, Storage.cmp,
    Storage.readPair_eq storage firstSlot secondSlot]
  rfl

theorem execute_mov
    (targetSlot : slot dst = .ok target)
    (firstSlot : slot left = .ok first) :
    (Instruction.mov dst left).execute programSize storage =
      (storage.setRegister target (storage.registers.get first),
        .next) := by
  simp only [Instruction.mov, Instruction.execute, Storage.mov,
    Storage.read_registers storage firstSlot, Storage.attempt_ok, targetSlot]

theorem execute_checkFlag
    (targetSlot : slot dst = .ok target) (flag : Flag) :
    (Instruction.checkFlag dst flag).execute programSize storage =
      (storage.setRegister target (storage.flags.value flag), .next) := by
  simp only [Instruction.checkFlag, Instruction.execute,
    Storage.checkFlag, Storage.attempt_ok, targetSlot, Flags.readIndex,
    Flag.ofIndex_index]

/-! ## Control -/

theorem execute_jmp
    (inside : dst.toNat < programSize) :
    (Instruction.jmp dst).execute programSize storage =
      (storage, .jump dst) := by
  simp only [Instruction.jmp, Instruction.execute, Storage.jmp,
    Nat.not_le.mpr inside, if_false, true_or, if_true]

theorem execute_jmpIfEqual_of_equal
    (inside : dst.toNat < programSize)
    (equal : storage.flags.get .zero = true) :
    (Instruction.jmpIfEqual dst).execute programSize storage =
      (storage, .jump dst) := by
  rw [Flags.get] at equal
  simp only [Instruction.jmpIfEqual, Instruction.execute, Storage.jmp,
    Nat.not_le.mpr inside, if_false, equal, and_self, or_true, if_true]

theorem execute_jmpIfEqual_of_different
    (inside : dst.toNat < programSize)
    (different : storage.flags.get .zero = false) :
    (Instruction.jmpIfEqual dst).execute programSize storage =
      (storage, .next) := by
  rw [Flags.get] at different
  have oneNotZero : ¬ (1 : Word) = 0 := by decide
  simp only [Instruction.jmpIfEqual, Instruction.execute, Storage.jmp,
    Nat.not_le.mpr inside, if_false, different, oneNotZero,
    Bool.false_eq_true, and_false, or_self]

theorem execute_halt :
    Instruction.halt.execute programSize storage = (storage, .halt) :=
  rfl

end Effects

end RegisterMachine
