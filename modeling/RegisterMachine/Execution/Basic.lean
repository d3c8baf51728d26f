import RegisterMachine.Instruction.Basic
import RegisterMachine.State.Basic

/-!
# Execution of one instruction

`Instruction.execute` changes the storage and says how the instruction ended.  An operand that
cannot be used ends the instruction with a fault and leaves the storage as it was, with two
exceptions: a comparison of missing registers counts as unequal, and a division by zero is noted
in the flags.
-/

namespace RegisterMachine

/-- How an instruction ended. -/
inductive Ending where
  /-- The following instruction is next. -/
  | next
  /-- The instruction at `target` is next. -/
  | jump (target : Word)
  /-- The program is over. -/
  | halt
  /-- The instruction was skipped, and the following one is next. -/
  | fault (fault : Fault)
  deriving DecidableEq

namespace Storage

/-- Goes on with a value, or ends with the fault that stands in its place. -/
@[inline] def attempt {α : Type} (storage : Storage) (value : Except Fault α)
    (action : α → Storage × Ending) : Storage × Ending :=
  match value with
  | .ok result => action result
  | .error fault => (storage, .fault fault)

/-- The values of two registers.  The left one is looked up first. -/
def readPair (storage : Storage) (left right : Word) : Except Fault (Word × Word) := do
  return (← storage.registers.read left, ← storage.registers.read right)

/-- Runs an action on a destination register and the values of two registers, if all three
registers exist.  The destination is looked up first. -/
@[inline] def attemptOnRegisters (storage : Storage) (dst left right : Word)
    (action : Register → Word → Word → Storage × Ending) : Storage × Ending :=
  storage.attempt (RegisterFile.slot dst) fun register =>
    storage.attempt (storage.readPair left right) fun values =>
      action register values.1 values.2

/-- Puts a value into a register. -/
def setRegister (storage : Storage) (register : Register) (value : Word) : Storage :=
  { storage with registers := storage.registers.set register value }

/-- The value that a load brings. -/
def loadedValue (storage : Storage) (source mode : Word) : Except Fault Word :=
  match AddressingMode.ofCode mode with
  | .ok .direct => storage.memory.load source
  | .ok .indirect => do storage.memory.load (← storage.registers.read source)
  | .ok .immediate => .ok source
  | .error _ => .error (.invalidAddressingMode mode)

def load (storage : Storage) (dst source mode : Word) : Storage × Ending :=
  storage.attempt (RegisterFile.slot dst) fun register =>
    storage.attempt (storage.loadedValue source mode) fun value =>
      (storage.setRegister register value, .next)

def store (storage : Storage) (address source : Word) : Storage × Ending :=
  storage.attempt (storage.registers.read source) fun value =>
    storage.attempt (storage.memory.store address value) fun memory =>
      ({ storage with memory }, .next)

/-- Addition wraps, and the carry flag tells whether it did. -/
def add (storage : Storage) (dst left right : Word) : Storage × Ending :=
  storage.attemptOnRegisters dst left right fun register a b =>
    let wide := Word.wideSum a b
    let result := wide.toUInt32
    ({ storage.setRegister register result with
        flags := { storage.flags with
          carry := Word.exceeds wide
          negative := Word.signBit result } }, .next)

/-- Subtraction wraps, and the carry flag tells whether it did. -/
def sub (storage : Storage) (dst left right : Word) : Storage × Ending :=
  storage.attemptOnRegisters dst left right fun register a b =>
    let result := a - b
    ({ storage.setRegister register result with
        flags := { storage.flags with
          carry := decide (a < b)
          negative := Word.signBit result } }, .next)

/-- Multiplication wraps, and the overflow flag tells whether it did. -/
def mul (storage : Storage) (dst left right : Word) : Storage × Ending :=
  storage.attemptOnRegisters dst left right fun register a b =>
    let wide := Word.wideProduct a b
    let result := wide.toUInt32
    ({ storage.setRegister register result with
        flags := { storage.flags with
          overflow := Word.exceeds wide
          negative := Word.signBit result } }, .next)

/-- Division neither carries nor overflows.  By zero it changes no register. -/
def div (storage : Storage) (dst left right : Word) : Storage × Ending :=
  storage.attemptOnRegisters dst left right fun register dividend divisor =>
    if divisor = 0 then
      ({ storage with
          flags := { storage.flags with
            carry := false
            overflow := false
            divisionFault := true } }, .fault .divisionByZero)
    else
      let quotient := dividend / divisor
      ({ storage.setRegister register quotient with
          flags := { storage.flags with
            carry := false
            overflow := false
            divisionFault := false
            negative := Word.signBit quotient } }, .next)

/-- Sets the zero flag if the registers are equal.  Missing registers are never equal. -/
def cmp (storage : Storage) (left right : Word) : Storage × Ending :=
  match storage.readPair left right with
  | .ok (a, b) => ({ storage with flags := { storage.flags with zero := a == b } }, .next)
  | .error fault =>
    ({ storage with flags := { storage.flags with zero := false } }, .fault fault)

/-- A target outside the program is a fault, whether or not the jump would be taken.  A condition
other than 0 and 1 never holds. -/
def jmp (storage : Storage) (target condition : Word) (programSize : Nat) : Storage × Ending :=
  if programSize ≤ target.toNat then (storage, .fault (.jumpOutOfRange target programSize))
  else if condition = 0 ∨ (condition = 1 ∧ storage.flags.zero) then (storage, .jump target)
  else (storage, .next)

def mov (storage : Storage) (dst source : Word) : Storage × Ending :=
  storage.attempt (storage.registers.read source) fun value =>
    storage.attempt (RegisterFile.slot dst) fun register =>
      (storage.setRegister register value, .next)

def checkFlag (storage : Storage) (dst index : Word) : Storage × Ending :=
  storage.attempt (RegisterFile.slot dst) fun register =>
    (storage.setRegister register (storage.flags.readIndex index), .next)

end Storage

/-- Runs one instruction of a program of `programSize` instructions. -/
def Instruction.execute (instruction : Instruction) (programSize : Nat) (storage : Storage) :
    Storage × Ending :=
  match instruction with
  | ⟨.halt, _, _, _⟩ => (storage, .halt)
  | ⟨.load, dst, src1, src2⟩ => storage.load dst src1 src2
  | ⟨.store, dst, src1, _⟩ => storage.store dst src1
  | ⟨.add, dst, src1, src2⟩ => storage.add dst src1 src2
  | ⟨.sub, dst, src1, src2⟩ => storage.sub dst src1 src2
  | ⟨.mul, dst, src1, src2⟩ => storage.mul dst src1 src2
  | ⟨.div, dst, src1, src2⟩ => storage.div dst src1 src2
  | ⟨.cmp, _, src1, src2⟩ => storage.cmp src1 src2
  | ⟨.jmp, dst, src1, _⟩ => storage.jmp dst src1 programSize
  | ⟨.mov, dst, src1, _⟩ => storage.mov dst src1
  | ⟨.checkFlag, dst, src1, _⟩ => storage.checkFlag dst src1

end RegisterMachine
