import RegisterMachine.Report.Basic

/-!
# Reports as text
-/

namespace RegisterMachine.Report

open Text.Numeral
open Trace

def outcomeText : RunOutcome → String
  | .halted => "halted"
  | .stepLimit => "step limit reached"

def traceText (entries : List Entry) : String :=
  if entries.isEmpty then ""
  else "  Trace:\n" ++ String.join (entries.map fun entry => "  " ++ entry.text ++ "\n")

def faultsText (faults : Nat) : String :=
  if faults = 0 then "" else "  Faults:  " ++ decimal faults ++ "\n"

def cellText (address value : Word) : String :=
  "  ✅ mem[" ++ decimal address.toNat ++ "] = " ++ decimal value.toNat ++ "\n"

/-- A report as text, with or without the trace. -/
def text (report : Report) (showTrace : Bool) : String :=
  "\n🔷 " ++ report.name ++ "\n" ++
    (if showTrace then traceText report.trace else "") ++
    "  Outcome: " ++ outcomeText report.outcome ++ " after " ++ decimal report.steps ++
    " steps (pc = " ++ decimal report.counter.toNat ++ ")\n" ++
    "  Flags:   " ++ report.flags.text ++ "\n" ++
    faultsText report.faults ++
    String.join (report.cells.map fun cell => cellText cell.1 cell.2)

end RegisterMachine.Report
