import RegisterMachine.Json
import RegisterMachine.Report.Basic

/-!
# Reports as JSON
-/

namespace RegisterMachine

open Trace

def Json.word (value : Word) : Json :=
  .number value.toNat

def Trace.Entry.toJson : Entry → Json
  | instruction counter text =>
    .object [("event", .string "instruction"), ("pc", .word counter), ("instr", .string text)]
  | jump source target =>
    .object [("event", .string "jump"), ("from", .word source), ("to", .word target)]
  | fault counter text message =>
    .object [("event", .string "fault"), ("pc", .word counter), ("instr", .string text),
      ("fault", .string message)]
  | halt counter => .object [("event", .string "halt"), ("pc", .word counter)]

namespace Report

def outcomeName : RunOutcome → String
  | .halted => "halted"
  | .stepLimit => "step_limit"

def flagsJson (flags : Flags) : Json :=
  .object [("zf", .bool flags.zero), ("cf", .bool flags.carry), ("nf", .bool flags.negative),
    ("of", .bool flags.overflow), ("df", .bool flags.divisionFault), ("bits", .word flags.bits)]

def cellJson (address value : Word) : Json :=
  .object [("address", .word address), ("value", .word value)]

/-- The field for a trace, which is left out if the trace is empty. -/
def traceField (entries : List Entry) : List (String × Json) :=
  if entries.isEmpty then [] else [("trace", .array (entries.map Entry.toJson))]

def toJson (report : Report) : Json :=
  .object ([
    ("name", .string report.name),
    ("outcome", .string (outcomeName report.outcome)),
    ("steps", .number report.steps),
    ("pc", .word report.counter),
    ("registers", .array (report.registers.values.toList.map .word)),
    ("flags", flagsJson report.flags),
    ("memory", .array (report.cells.map fun cell => cellJson cell.1 cell.2)),
    ("faults", .number report.faults)] ++ traceField report.trace)

end Report

end RegisterMachine
