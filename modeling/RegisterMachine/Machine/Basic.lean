import RegisterMachine.Execution.Step
import RegisterMachine.Trace.Sink

/-!
# The machine

A program in a program store, the state of its run, and the sink that listens to it.  A machine runs
one step at a time, up to a number of steps, or until it halts.
-/

namespace RegisterMachine

open Trace

structure Machine where
  program : Program
  state : State
  /-- The announced size of the program store.  It limits nothing. -/
  capacity : Nat
  sink : Sink
  deriving DecidableEq

/-- Whether a machine has an instruction to run. -/
inductive Status where
  | ready
  | halted
  deriving DecidableEq

/-- How a bounded run ended. -/
inductive RunOutcome where
  | halted
  /-- All steps were used and the machine is still ready. -/
  | stepLimit
  deriving DecidableEq

namespace Machine

def defaultCapacity : Nat := 256

def defaultDataSize : Nat := 1024

/-- A machine without a program, with `dataSize` memory cells. -/
def create (capacity dataSize : Nat) (sink : Sink) : Machine where
  program := #[]
  state := State.start (Memory.zeros dataSize)
  capacity := capacity
  sink := sink

/-- Replaces the program and goes back to the start.  The memory is kept. -/
def load (machine : Machine) (program : Program) : Machine :=
  { machine with program, state := machine.state.reset }

/-- Back to the start of the program.  The memory is kept. -/
def reset (machine : Machine) : Machine :=
  { machine with state := machine.state.reset }

def setSink (machine : Machine) (sink : Sink) : Machine :=
  { machine with sink }

def memory (machine : Machine) : Memory :=
  machine.state.memory

/-- Changes a memory cell.  An address outside the memory changes nothing. -/
def setCell (machine : Machine) (address value : Word) : Machine :=
  { machine with state.memory := machine.state.memory.set address value }

/-- The value of a memory cell.  An address outside the memory reads as 0. -/
def getCell (machine : Machine) (address : Word) : Word :=
  machine.state.memory.get address

def status (machine : Machine) : Status :=
  if machine.state.counter.toNat < machine.program.size then .ready else .halted

/-- Runs one instruction.  The answer tells whether there is more to run. -/
def step (machine : Machine) : Machine × Bool :=
  match machine with
  | ⟨program, state, capacity, sink⟩ =>
    match state.step program with
    | ⟨state, events, continues⟩ => (⟨program, state, capacity, sink.receiveAll events⟩, continues)

/-- Runs at most `limit` instructions. -/
def runLimit : Nat → Machine → Machine × RunOutcome
  | 0, machine =>
    match machine.status with
    | .ready => (machine, .stepLimit)
    | .halted => (machine, .halted)
  | limit + 1, machine =>
    match machine.step with
    | (machine, true) => runLimit limit machine
    | (machine, false) => (machine, .halted)

/-- The number of bits that hold a counter, the registers, the flags and the memory.  A machine that
has run `2 ^ stateBits` instructions has been in one state twice, and runs forever. -/
def stateBits (machine : Machine) : Nat :=
  32 * (1 + registerCount + machine.memory.size) + Flag.all.length

/-- Runs in rounds of doubling length. -/
def runRounds : Nat → Nat → Machine → Option Machine
  | 0, _, _ => none
  | rounds + 1, limit, machine =>
    match machine.runLimit limit with
    | (machine, .halted) => some machine
    | (machine, .stepLimit) => runRounds rounds (2 * limit) machine

/-- Runs until the machine halts.  There is no answer if it runs forever: rounds of 1, 2, 4, …
instructions, one more than there are bits in its state, outlast every run that ends. -/
def run (machine : Machine) : Option Machine :=
  runRounds (machine.stateBits + 1) 1 machine

end Machine

end RegisterMachine
