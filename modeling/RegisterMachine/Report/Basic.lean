import RegisterMachine.Listing.Basic
import RegisterMachine.Machine.Basic

/-!
# Reports

What is told about a run: how it ended, the registers and flags it left, the watched memory cells,
and its trace.
-/

namespace RegisterMachine

open Trace

/-- How programs are run for a report. -/
structure RunSettings where
  /-- The number of instructions after which the run is given up. -/
  maxSteps : Option Nat
  /-- Whether the trace has instructions and jumps too. -/
  trace : Bool
  deriving DecidableEq

structure Report where
  name : String
  outcome : RunOutcome
  steps : Nat
  counter : Word
  registers : RegisterFile
  flags : Flags
  /-- The watched memory cells and their values. -/
  cells : List (Word × Word)
  /-- The number of faults. -/
  faults : Nat
  trace : List Entry
  deriving DecidableEq

namespace Report

/-- The report of a run that ended in the given state of a machine. -/
def capture (name : String) (machine : Machine) (outcome : RunOutcome) (watch : List Word) :
    Report where
  name := name
  outcome := outcome
  steps := machine.state.steps
  counter := machine.state.counter
  registers := machine.state.registers
  flags := machine.state.flags
  cells := watch.map fun address => (address, machine.getCell address)
  faults := machine.sink.entries.countP Entry.isFault
  trace := machine.sink.entries

end Report

namespace Machine

/-- Changes memory cells, in order.  Addresses outside the memory change nothing. -/
def setCells (machine : Machine) (cells : List (Word × Word)) : Machine :=
  cells.foldl (fun machine cell => machine.setCell cell.1 cell.2) machine

/-- Runs to the end, or up to the limit if there is one. -/
def runWithin (machine : Machine) (maxSteps : Option Nat) : Option (Machine × RunOutcome) :=
  match maxSteps with
  | some limit => some (machine.runLimit limit)
  | none => machine.run.map fun machine => (machine, .halted)

/-- Loads and runs a program, and reports on the run.  There is no answer if the run has no limit
and never ends. -/
def execute (machine : Machine) (settings : RunSettings) (name : String) (program : Program)
    (watch : List Word) : Option (Machine × Report) :=
  (((machine.setSink (.trace settings.trace #[])).load program).runWithin settings.maxSteps).map
    fun (machine, outcome) => (machine, Report.capture name machine outcome watch)

/-- Runs a listing on the memory cells that it gives, and reports on the run. -/
def executeListing (machine : Machine) (settings : RunSettings) (name : String)
    (listing : Listing) : Option (Machine × Report) :=
  (machine.setCells listing.data).execute settings name listing.program.toArray listing.watch

end Machine

end RegisterMachine
