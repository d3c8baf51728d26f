import RegisterMachine.Execution.Basic

/-!
# Events

What a running machine reports.  Every instruction reports itself before it runs, and a jump, a
fault or the end of the program afterwards.
-/

namespace RegisterMachine

inductive Event where
  /-- The instruction at `counter` is about to run. -/
  | instruction (counter : Word) (instruction : Instruction)
  /-- The jump at `source` was taken. -/
  | jump (source target : Word)
  /-- The instruction at `counter` was skipped or could not do all of its work. -/
  | fault (counter : Word) (instruction : Instruction) (fault : Fault)
  /-- The program ended at `counter`. -/
  | halt (counter : Word)
  deriving DecidableEq

/-- Whether an event belongs into every trace.  Instructions and jumps belong only into a verbose
one. -/
def Event.isEssential : Event → Bool
  | instruction .. => false
  | jump .. => false
  | fault .. => true
  | halt .. => true

/-- What the instruction at `counter` reports once it has run. -/
def Ending.events (ending : Ending) (counter : Word) (instruction : Instruction) : List Event :=
  match ending with
  | next => []
  | jump target => [.jump counter target]
  | halt => [.halt counter]
  | fault reason => [.fault counter instruction reason]

end RegisterMachine
