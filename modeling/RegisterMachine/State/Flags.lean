import RegisterMachine.Instruction.Operand

/-!
# The condition flags

Each flag belongs to the operations that set it: the zero flag to comparisons, the carry flag to
additions, subtractions and divisions, the negative flag to all four arithmetic operations, the
overflow flag to products and divisions, and the division fault to divisions.
-/

namespace RegisterMachine

structure Flags where
  zero : Bool
  carry : Bool
  negative : Bool
  overflow : Bool
  divisionFault : Bool
  deriving DecidableEq

namespace Flags

open Text.Numeral

/-- No flag is set. -/
def clear : Flags :=
  ⟨false, false, false, false, false⟩

def get (flags : Flags) : Flag → Bool
  | .zero => flags.zero
  | .carry => flags.carry
  | .negative => flags.negative
  | .overflow => flags.overflow
  | .divisionFault => flags.divisionFault

/-- A flag as a word: 1 if it is set and 0 otherwise. -/
def value (flags : Flags) (flag : Flag) : Word :=
  if flags.get flag then 1 else 0

/-- The flag with a given index as a word.  An index that names no flag reads as 0. -/
def readIndex (flags : Flags) (index : Word) : Word :=
  match Flag.ofIndex index with
  | .ok flag => flags.value flag
  | .error _ => 0

/-- All flags in one word, each at the bit of its index. -/
def bits (flags : Flags) : Word :=
  (Flag.all.map fun flag => flags.value flag <<< flag.index).foldl (· ||| ·) 0

/-- A line such as `ZF=0 CF=1 NF=0 OF=0 DF=0`. -/
def text (flags : Flags) : String :=
  " ".intercalate
    (Flag.all.map fun flag => flag.shortName ++ "=" ++ decimal (flags.value flag).toNat)

@[simp] theorem get_clear (flag : Flag) : clear.get flag = false := by
  cases flag <;> rfl

@[simp] theorem value_beq_one (flags : Flags) (flag : Flag) :
    (flags.value flag == 1) = flags.get flag := by
  unfold value
  cases flags.get flag <;> rfl

end Flags

end RegisterMachine
