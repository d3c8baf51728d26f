import RegisterMachine.Execution.Event
import RegisterMachine.Instruction.Printer

/-!
# Console lines

How an event is told on a terminal.  Faults go to the error stream and all else to the output.
-/

namespace RegisterMachine.Trace

open Text.Numeral

/-- An address as eight hexadecimal digits. -/
def hexAddress (counter : Word) : String :=
  "0x" ++ wordHex counter.toNat

/-- The line for the output stream, if the event has one. -/
def outputLine? : Event → Option String
  | .instruction counter instruction =>
    some ("PC = " ++ hexAddress counter ++ ", Instr = " ++ instruction.text)
  | .jump source target =>
    some ("Jumping from " ++ hexAddress source ++ " to " ++ hexAddress target)
  | .fault .. => none
  | .halt counter => some ("HALT at PC = " ++ hexAddress counter)

/-- The line for the error stream, if the event has one. -/
def errorLine? : Event → Option String
  | .fault counter instruction reason =>
    some ("🚨 " ++ reason.message ++ " at PC = " ++ hexAddress counter ++ " (" ++
      instruction.text ++ ")")
  | _ => none

end RegisterMachine.Trace
