import RegisterMachine.Instruction.Basic

/-!
# The running sum program

Adds up the cells of a list.  The sum stops at the first addition that carries.
-/

namespace RegisterMachine.Program.RunningSum

/-! ## Registers -/

def pointer : Word := 0

def count : Word := 1

def sum : Word := 2

def one : Word := 3

def element : Word := 4

def carried : Word := 5

def zero : Word := 7

/-! ## Addresses -/

def loop : Word := 5

def done : Word := 15

end RunningSum

open Instruction RunningSum in
/-- Stores the sum of a list in memory cell `result`.  Memory cell `start` holds the address of the
first element and memory cell `length` the number of elements.  On the first carry the wrapped sum
is stored and the carry flag stays set. -/
def runningSum (start length result : Word) : Program :=
  #[loadDirect pointer start,
    loadDirect count length,
    loadImmediate sum 0,
    loadImmediate one 1,
    loadImmediate zero 0,
    cmp count zero,
    jmpIfEqual done,
    loadIndirect element pointer,
    add sum sum element,
    checkFlag carried .carry,
    cmp carried one,
    jmpIfEqual done,
    add pointer pointer one,
    sub count count one,
    jmp loop,
    store result sum,
    halt]

theorem getElem?_runningSum_loop (start length result : Word) :
    (runningSum start length result)[RunningSum.loop.toNat]? =
      some (Instruction.cmp RunningSum.count RunningSum.zero) :=
  rfl

theorem getElem?_runningSum_done (start length result : Word) :
    (runningSum start length result)[RunningSum.done.toNat]? =
      some (Instruction.store result RunningSum.sum) :=
  rfl

end RegisterMachine.Program
