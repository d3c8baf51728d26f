import RegisterMachine.Instruction.DecodeError

/-!
# Coded operands

Two operands select from a closed list: the addressing mode of a load, and the flag that a flag
check reads.
-/

namespace RegisterMachine

/-- How a load finds its value. -/
inductive AddressingMode where
  /-- In the memory cell that the operand names. -/
  | direct
  /-- In the memory cell whose address is in the register that the operand names. -/
  | indirect
  /-- In the operand itself. -/
  | immediate
  deriving DecidableEq

namespace AddressingMode

def code : AddressingMode → Word
  | direct => 0
  | indirect => 1
  | immediate => 2

def ofCode (code : Word) : Except DecodeError AddressingMode :=
  if code = 0 then .ok direct
  else if code = 1 then .ok indirect
  else if code = 2 then .ok immediate
  else .error (.unknownAddressingMode code)

theorem ofCode_code (mode : AddressingMode) : ofCode mode.code = .ok mode := by
  cases mode <;> rfl

end AddressingMode

/-- The condition flags. -/
inductive Flag where
  /-- The last comparison found its operands equal. -/
  | zero
  /-- An addition carried out of 32 bits, or a subtraction borrowed. -/
  | carry
  /-- Bit 31 of the last arithmetic result. -/
  | negative
  /-- A product did not fit in 32 bits. -/
  | overflow
  /-- The last division was by zero. -/
  | divisionFault
  deriving DecidableEq

namespace Flag

/-- All flags, in the order of their indices. -/
def all : List Flag :=
  [zero, carry, negative, overflow, divisionFault]

def index : Flag → Word
  | zero => 0
  | carry => 1
  | negative => 2
  | overflow => 3
  | divisionFault => 4

def shortName : Flag → String
  | zero => "ZF"
  | carry => "CF"
  | negative => "NF"
  | overflow => "OF"
  | divisionFault => "DF"

def ofIndex (index : Word) : Except DecodeError Flag :=
  match all[index.toNat]? with
  | some flag => .ok flag
  | none => .error (.unknownFlag index)

theorem ofIndex_index (flag : Flag) : ofIndex flag.index = .ok flag := by
  cases flag <;> rfl

end Flag

end RegisterMachine
