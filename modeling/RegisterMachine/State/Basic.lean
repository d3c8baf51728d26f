import RegisterMachine.State.Flags
import RegisterMachine.State.Memory
import RegisterMachine.State.Registers

/-!
# Machine states

What instructions work on (registers, flags and data memory), and what goes with it while a program
runs: the address of the next instruction and the clock.
-/

namespace RegisterMachine

/-- What instructions read and change. -/
structure Storage where
  registers : RegisterFile
  flags : Flags
  memory : Memory
  deriving DecidableEq

structure State extends Storage where
  /-- The address of the next instruction. -/
  counter : Word
  /-- Counts the instructions run so far.  It has 64 bits, and behind the last of its values it
starts again at zero. -/
  clock : UInt64
  deriving DecidableEq

namespace State

/-- The number of instructions run so far, as far as the clock can tell: modulo `2 ^ 64`. -/
def steps (state : State) : Nat :=
  state.clock.toNat

/-- The state in which a program starts: all but the memory is zero. -/
def start (memory : Memory) : State where
  registers := .clear
  flags := .clear
  memory := memory
  counter := 0
  clock := 0

/-- Back to the start.  The memory is kept. -/
def reset (state : State) : State :=
  start state.memory

end State

end RegisterMachine
