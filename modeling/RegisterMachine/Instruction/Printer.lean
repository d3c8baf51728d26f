import RegisterMachine.Instruction.Basic

/-!
# Printed instructions

The text of an instruction in traces and messages.  It shows exactly the operands that the opcode
uses.
-/

namespace RegisterMachine.Instruction

open Text.Numeral

/-- The name of a register, whether or not the machine has it. -/
def registerName (index : Word) : String :=
  "r" ++ decimal index.toNat

def loadText (dst source mode : Word) : String :=
  "load  " ++ registerName dst ++ ", " ++
    match AddressingMode.ofCode mode with
    | .ok .direct => "[" ++ decimal source.toNat ++ "]"
    | .ok .indirect => "[" ++ registerName source ++ "]"
    | .ok .immediate => "#" ++ decimal source.toNat
    | .error _ => decimal source.toNat ++ " (mode " ++ decimal mode.toNat ++ "?)"

def threeRegisters (dst left right : Word) : String :=
  registerName dst ++ ", " ++ registerName left ++ ", " ++ registerName right

def jumpText (target condition : Word) : String :=
  if condition = 0 then "jmp   " ++ decimal target.toNat
  else if condition = 1 then "jeq   " ++ decimal target.toNat
  else "jmp   " ++ decimal target.toNat ++ " (cond " ++ decimal condition.toNat ++ "?)"

def checkFlagText (dst index : Word) : String :=
  "flag  " ++ registerName dst ++ ", " ++
    match Flag.ofIndex index with
    | .ok flag => flag.shortName
    | .error _ => decimal index.toNat ++ "?"

def text (instruction : Instruction) : String :=
  match instruction with
  | ⟨.halt, _, _, _⟩ => "halt"
  | ⟨.load, dst, src1, src2⟩ => loadText dst src1 src2
  | ⟨.store, dst, src1, _⟩ => "store [" ++ decimal dst.toNat ++ "], " ++ registerName src1
  | ⟨.add, dst, src1, src2⟩ => "add   " ++ threeRegisters dst src1 src2
  | ⟨.sub, dst, src1, src2⟩ => "sub   " ++ threeRegisters dst src1 src2
  | ⟨.mul, dst, src1, src2⟩ => "mul   " ++ threeRegisters dst src1 src2
  | ⟨.div, dst, src1, src2⟩ => "div   " ++ threeRegisters dst src1 src2
  | ⟨.cmp, _, src1, src2⟩ => "cmp   " ++ registerName src1 ++ ", " ++ registerName src2
  | ⟨.jmp, dst, src1, _⟩ => jumpText dst src1
  | ⟨.mov, dst, src1, _⟩ => "mov   " ++ registerName dst ++ ", " ++ registerName src1
  | ⟨.checkFlag, dst, src1, _⟩ => checkFlagText dst src1

end RegisterMachine.Instruction
