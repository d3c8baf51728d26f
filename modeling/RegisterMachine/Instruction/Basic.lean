import RegisterMachine.Instruction.Opcode
import RegisterMachine.Instruction.Operand

/-!
# Instructions

An instruction is an opcode with three raw operands.  What an operand means depends on the opcode,
and nothing is checked before the instruction runs:

| opcode               | `dst`          | `src1`                          | `src2`          |
|----------------------|----------------|---------------------------------|-----------------|
| load                 | register       | address, register or value      | addressing mode |
| store                | memory address | register                        |                 |
| add, sub, mul, div   | register       | register                        | register        |
| cmp                  |                | register                        | register        |
| jmp                  | target         | 0 for always, 1 for equal       |                 |
| mov                  | register       | register                        |                 |
| checkFlag            | register       | flag index                      |                 |
-/

namespace RegisterMachine

structure Instruction where
  opcode : Opcode
  dst : Word
  src1 : Word
  src2 : Word
  deriving DecidableEq

/-- A sequence of instructions.  The position of an instruction is its address. -/
abbrev Program := Array Instruction

namespace Instruction

def halt : Instruction :=
  ⟨.halt, 0, 0, 0⟩

def load (mode : AddressingMode) (dst source : Word) : Instruction :=
  ⟨.load, dst, source, mode.code⟩

/-- Register `dst` takes the value of the memory cell `address`. -/
def loadDirect (dst address : Word) : Instruction :=
  load .direct dst address

/-- Register `dst` takes the value of the memory cell whose address is in register `register`. -/
def loadIndirect (dst register : Word) : Instruction :=
  load .indirect dst register

/-- Register `dst` takes the value `value`. -/
def loadImmediate (dst value : Word) : Instruction :=
  load .immediate dst value

/-- Memory cell `address` takes the value of register `src`. -/
def store (address src : Word) : Instruction :=
  ⟨.store, address, src, 0⟩

def add (dst left right : Word) : Instruction :=
  ⟨.add, dst, left, right⟩

def sub (dst left right : Word) : Instruction :=
  ⟨.sub, dst, left, right⟩

def mul (dst left right : Word) : Instruction :=
  ⟨.mul, dst, left, right⟩

def div (dst left right : Word) : Instruction :=
  ⟨.div, dst, left, right⟩

def cmp (left right : Word) : Instruction :=
  ⟨.cmp, 0, left, right⟩

def jmp (target : Word) : Instruction :=
  ⟨.jmp, target, 0, 0⟩

/-- A jump that is taken if the last comparison found its operands equal. -/
def jmpIfEqual (target : Word) : Instruction :=
  ⟨.jmp, target, 1, 0⟩

def mov (dst src : Word) : Instruction :=
  ⟨.mov, dst, src, 0⟩

/-- Register `dst` takes 1 if the flag is set and 0 otherwise. -/
def checkFlag (dst : Word) (flag : Flag) : Instruction :=
  ⟨.checkFlag, dst, flag.index, 0⟩

end Instruction

end RegisterMachine
