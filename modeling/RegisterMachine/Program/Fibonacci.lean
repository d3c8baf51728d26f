import RegisterMachine.Instruction.Basic

/-!
# The Fibonacci program

Walks along the Fibonacci numbers with the last two in registers.  The walk stops without a result
at the first one that does not fit in a word.
-/

namespace RegisterMachine.Program.Fibonacci

/-! ## Registers -/

def input : Word := 0

def one : Word := 1

def previous : Word := 2

def current : Word := 3

def position : Word := 4

def next : Word := 5

def carried : Word := 6

/-! ## Addresses -/

def loop : Word := 7

def zeroCase : Word := 17

def finish : Word := 18

def stop : Word := 19

end Fibonacci

open Instruction Fibonacci in
/-- Stores in memory cell `result` the Fibonacci number at the position in memory cell `source`,
where positions 0 and 1 hold 0 and 1.  If the number does not fit in a word, nothing is stored and
the carry flag is set. -/
def fibonacci (source result : Word) : Program :=
  #[loadDirect input source,
    loadImmediate one 1,
    loadImmediate previous 0,
    loadImmediate current 1,
    loadImmediate position 1,
    cmp input previous,
    jmpIfEqual zeroCase,
    cmp position input,
    jmpIfEqual finish,
    add next previous current,
    checkFlag carried .carry,
    cmp carried one,
    jmpIfEqual stop,
    mov previous current,
    mov current next,
    add position position one,
    jmp loop,
    mov current previous,
    store result current,
    halt]

theorem getElem?_fibonacci_loop (source result : Word) :
    (fibonacci source result)[Fibonacci.loop.toNat]? =
      some (Instruction.cmp Fibonacci.position Fibonacci.input) :=
  rfl

theorem getElem?_fibonacci_zeroCase (source result : Word) :
    (fibonacci source result)[Fibonacci.zeroCase.toNat]? =
      some (Instruction.mov Fibonacci.current Fibonacci.previous) :=
  rfl

theorem getElem?_fibonacci_finish (source result : Word) :
    (fibonacci source result)[Fibonacci.finish.toNat]? =
      some (Instruction.store result Fibonacci.current) :=
  rfl

theorem getElem?_fibonacci_stop (source result : Word) :
    (fibonacci source result)[Fibonacci.stop.toNat]? = some Instruction.halt :=
  rfl

end RegisterMachine.Program
