import RegisterMachine.Text.Numeral
import RegisterMachine.Word

/-!
# Faults

Why an instruction could not take effect.  A fault never stops the machine: the instruction is
skipped, the fault is reported, and the next instruction follows.
-/

namespace RegisterMachine

open Text.Numeral

inductive Fault where
  | registerOutOfRange (index : Word)
  | memoryOutOfRange (address : Word)
  | invalidAddressingMode (code : Word)
  | jumpOutOfRange (target : Word) (programSize : Nat)
  | divisionByZero
  deriving DecidableEq

def Fault.message : Fault → String
  | registerOutOfRange index => "register index " ++ decimal index.toNat ++ " out of range"
  | memoryOutOfRange address => "data memory address " ++ decimal address.toNat ++ " out of range"
  | invalidAddressingMode code => "invalid addressing mode " ++ decimal code.toNat
  | jumpOutOfRange target programSize =>
    "jump target " ++ decimal target.toNat ++ " outside program of " ++ decimal programSize ++
      " instructions"
  | divisionByZero => "division by zero"

end RegisterMachine
