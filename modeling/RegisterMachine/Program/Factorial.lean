import RegisterMachine.Instruction.Basic

/-!
# The factorial program

Multiplies a product by the input, the input less one, and so on down to one.
-/

namespace RegisterMachine.Program.Factorial

/-! ## Registers -/

def product : Word := 0

def count : Word := 1

def one : Word := 2

def zero : Word := 3

/-! ## Addresses -/

def loop : Word := 6

def done : Word := 11

end Factorial

open Instruction Factorial in
/-- Stores the factorial of memory cell `input` in memory cell `result`.  The product wraps. -/
def factorial (input result : Word) : Program :=
  #[loadImmediate product 1,
    loadDirect count input,
    loadImmediate one 1,
    loadImmediate zero 0,
    cmp count zero,
    jmpIfEqual done,
    cmp count one,
    jmpIfEqual done,
    mul product product count,
    sub count count one,
    jmp loop,
    store result product,
    halt]

theorem getElem?_factorial_loop (input result : Word) :
    (factorial input result)[Factorial.loop.toNat]? =
      some (Instruction.cmp Factorial.count Factorial.one) :=
  rfl

theorem getElem?_factorial_done (input result : Word) :
    (factorial input result)[Factorial.done.toNat]? =
      some (Instruction.store result Factorial.product) :=
  rfl

end RegisterMachine.Program
