import RegisterMachine.CommandLine.Arguments
import RegisterMachine.Machine.Dump
import RegisterMachine.Report.Json
import RegisterMachine.Report.Text

/-!
# Responses

What the program writes and how it exits.  Only a memory too small for the demos and a listing that
cannot be had are failures; faults of the program that runs are part of its report.  What an aborted
program writes is left out.
-/

namespace RegisterMachine.CommandLine

/-- What is found under the name of a file. -/
inductive FileContent where
  | missing
  /-- A directory, for example. -/
  | unreadable (reason : String)
  | bytes (content : ByteArray)

structure Response where
  exitCode : Nat
  output : String
  errors : String
  deriving DecidableEq

/-- Why there is nothing to report. -/
inductive Failure where
  | memoryShortage (shortage : Demo.Shortage)
  | unreadableListing (path reason : String)
  | invalidListing (error : Listing.Error)
  deriving DecidableEq

def Failure.message : Failure → String
  | memoryShortage shortage => shortage.message
  | unreadableListing path reason => "Failed to read listing " ++ path ++ ": " ++ reason
  | invalidListing error => error.message

def Failure.response (failure : Failure) : Response :=
  ⟨1, "", "Error: " ++ failure.message ++ "\n"⟩

/-- Reads the text of a listing. -/
def readText (path : String) (content : FileContent) : Except Failure String :=
  match content with
  | .missing => .error (.unreadableListing path "No such file or directory (os error 2)")
  | .unreadable reason => .error (.unreadableListing path reason)
  | .bytes content =>
    match String.fromUTF8? content with
    | some text => .ok text
    | none => .error (.unreadableListing path "stream did not contain valid UTF-8")

/-- Reads a listing. -/
def readListing (path : String) (content : FileContent) : Except Failure Listing := do
  (Listing.parse (← readText path content)).mapError .invalidListing

/-! ## Output -/

def banner : String :=
  "Register VM Runner v0.1.0\n=====================================\n"

def reportsText (reports : List Report) (trace : Bool) : String :=
  banner ++ String.join (reports.map fun report => report.text trace)

def reportsJson (reports : List Report) : String :=
  (Json.array (reports.map Report.toJson)).pretty ++ "\n"

/-- The output for the reports of a run.  The text for a listing ends with the registers. -/
def output (invocation : Invocation) (machine : Machine) (reports : List Report) : String :=
  match invocation.format, invocation.command with
  | .json, _ => reportsJson reports
  | .text, .demo _ _ => reportsText reports invocation.settings.trace
  | .text, .run _ =>
    reportsText reports invocation.settings.trace ++ "\n" ++ machine.dumpRegisters

/-- Runs what a command line asks for, once there is a machine for it.  There is no response if the
run never ends. -/
def carryOut (files : String → FileContent) (invocation : Invocation) : Option Response :=
  let machine := Machine.create invocation.programSize invocation.dataSize .silent
  match invocation.command with
  | .demo choice inputs =>
    match Demo.checkMemory invocation.dataSize choice inputs.list.length with
    | .error shortage => some (Failure.memoryShortage shortage).response
    | .ok () =>
      (choice.run invocation.settings inputs machine).map fun (machine, reports) =>
        ⟨0, output invocation machine reports, ""⟩
  | .run path =>
    match readListing path (files path) with
    | .error failure => some failure.response
    | .ok listing =>
      (machine.executeListing invocation.settings path listing).map fun (machine, report) =>
        ⟨0, output invocation machine [report], ""⟩

/-- Runs what a command line asks for on a system that grants memory for some numbers of cells.  The
memory is allocated before anything else, and without it the program is aborted.  So there is no
response then, whatever the command is. -/
def respondOn (grants : Nat → Bool) (files : String → FileContent) (invocation : Invocation) :
    Option Response :=
  if grants invocation.dataSize then carryOut files invocation else none

/-- Runs what a command line asks for on a system that never runs out of memory. -/
def respond (files : String → FileContent) (invocation : Invocation) : Option Response :=
  respondOn (fun cells => decide (cells ≤ Memory.mostCells)) files invocation

end RegisterMachine.CommandLine
