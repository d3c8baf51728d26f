import RegisterMachine.Program.Factorial
import RegisterMachine.Program.Fibonacci
import RegisterMachine.Program.RunningSum
import RegisterMachine.Report.Basic

/-!
# Demos

The three programs on given inputs, each with its own place in memory, one after the other on one
machine.
-/

namespace RegisterMachine

open Text.Numeral

inductive Demo where
  | fibonacci
  | factorial
  | sum
  deriving DecidableEq

namespace Demo

/-- Which demos to run. -/
inductive Choice where
  | only (demo : Demo)
  | all
  deriving DecidableEq

/-- The demos of a choice, in the order in which they run. -/
def Choice.demos : Choice → List Demo
  | only demo => [demo]
  | all => [fibonacci, factorial, sum]

def Choice.title : Choice → String
  | only fibonacci => "Fibonacci"
  | only factorial => "Factorial"
  | only sum => "Sum"
  | all => "All"

/-- What the demos compute from. -/
structure Inputs where
  fibonacci : Word
  factorial : Word
  list : List Word
  deriving DecidableEq

/-! ## Layout of the memory -/

/-- The cell with the position of the Fibonacci number.  The result follows. -/
def fibonacciInput : Word := 100

/-- The cell with the number whose factorial is taken.  The result follows. -/
def factorialInput : Word := 200

/-- The cell with the address of the list.  Its length and the result follow. -/
def sumStart : Word := 300

/-- The first element of the list. -/
def sumList : Word := 400

/-- The number of memory cells that a choice needs. -/
def Choice.requiredCells (choice : Choice) (listLength : Nat) : Nat :=
  match choice with
  | only fibonacci => fibonacciInput.toNat + 2
  | only factorial => factorialInput.toNat + 2
  | only sum => max (sumList.toNat + listLength) (sumStart.toNat + 3)
  | all => max (sumList.toNat + listLength) (sumStart.toNat + 3)

/-- A memory too small for a choice of demos. -/
structure Shortage where
  choice : Choice
  required : Nat
  dataSize : Nat
  deriving DecidableEq

def Shortage.message (shortage : Shortage) : String :=
  "demo " ++ shortage.choice.title ++ " needs at least " ++ decimal shortage.required ++
    " data cells, --data-size is " ++ decimal shortage.dataSize

/-- Refuses a memory that is too small: its demos would lose their inputs. -/
def checkMemory (dataSize : Nat) (choice : Choice) (listLength : Nat) : Except Shortage Unit :=
  let required := choice.requiredCells listLength
  if dataSize < required then .error ⟨choice, required, dataSize⟩ else .ok ()

/-! ## Running -/

/-- The memory cells that a demo starts from.  Its result starts as zero. -/
def cells (inputs : Inputs) : Demo → List (Word × Word)
  | fibonacci => [(fibonacciInput, inputs.fibonacci), (fibonacciInput + 1, 0)]
  | factorial => [(factorialInput, inputs.factorial), (factorialInput + 1, 0)]
  | sum =>
    [(sumStart, sumList), (sumStart + 1, UInt32.ofNat inputs.list.length), (sumStart + 2, 0)] ++
      inputs.list.mapIdx fun index value => (sumList + UInt32.ofNat index, value)

def program : Demo → Program
  | fibonacci => Program.fibonacci fibonacciInput (fibonacciInput + 1)
  | factorial => Program.factorial factorialInput (factorialInput + 1)
  | sum => Program.runningSum sumStart (sumStart + 1) (sumStart + 2)

/-- The memory cell that takes the result. -/
def result : Demo → Word
  | fibonacci => fibonacciInput + 1
  | factorial => factorialInput + 1
  | sum => sumStart + 2

/-- The name of a demo with its input. -/
def name (inputs : Inputs) : Demo → String
  | fibonacci => "Fibonacci(" ++ decimal inputs.fibonacci.toNat ++ ")"
  | factorial => "Factorial(" ++ decimal inputs.factorial.toNat ++ ")"
  | sum => "Sum of [" ++ ", ".intercalate (inputs.list.map fun value => decimal value.toNat) ++ "]"

/-- Runs a demo and resets the machine. -/
def run (settings : RunSettings) (inputs : Inputs) (machine : Machine) (demo : Demo) :
    Option (Machine × Report) :=
  ((machine.setCells (demo.cells inputs)).execute settings (demo.name inputs) demo.program
    [demo.result]).map fun (machine, report) => (machine.reset, report)

/-- Runs demos one after the other. -/
def runList (settings : RunSettings) (inputs : Inputs) :
    Machine → List Demo → Option (Machine × List Report)
  | machine, [] => some (machine, [])
  | machine, demo :: rest => do
    let (machine, report) ← demo.run settings inputs machine
    let (machine, reports) ← runList settings inputs machine rest
    return (machine, report :: reports)

/-- Runs a choice of demos. -/
def Choice.run (choice : Choice) (settings : RunSettings) (inputs : Inputs) (machine : Machine) :
    Option (Machine × List Report) :=
  runList settings inputs machine choice.demos

end Demo

end RegisterMachine
