import RegisterMachine.Main
import RegisterMachine.Proofs.Execution.Effect
import RegisterMachine.Proofs.Execution.Frame
import RegisterMachine.Proofs.Execution.Refusal
import RegisterMachine.Proofs.Execution.Cases
import RegisterMachine.Proofs.Execution.Fault
import RegisterMachine.Proofs.Run.Steps
import RegisterMachine.Proofs.Run.Halting
import RegisterMachine.Proofs.Run.Path
import RegisterMachine.Proofs.Run.Contract
import RegisterMachine.Proofs.Program.Factorial
import RegisterMachine.Proofs.Program.RunningSum
import RegisterMachine.Proofs.Program.Fibonacci
import RegisterMachine.Proofs.Run.Flags
import RegisterMachine.Proofs.Run.Lifecycle
import RegisterMachine.Proofs.Run.Locality
import RegisterMachine.Proofs.Report.Execute
import RegisterMachine.Proofs.Demo.Answer
import RegisterMachine.Proofs.Program.Footprint
import RegisterMachine.Proofs.Demo.Sequence
import RegisterMachine.Proofs.Demo.Independent
import RegisterMachine.Proofs.Listing.Number
import RegisterMachine.Proofs.Text.Lines
import RegisterMachine.Proofs.Listing.Grammar
import RegisterMachine.Proofs.Listing.Parse
import RegisterMachine.Proofs.Listing.Render
import RegisterMachine.Proofs.Run.Blocks
import RegisterMachine.Proofs.Run.Calls
import RegisterMachine.Proofs.Run.Writes
import RegisterMachine.Proofs.Run.Noninterference
import RegisterMachine.Proofs.Execution.Renaming
import RegisterMachine.Proofs.Run.Renaming
import RegisterMachine.Proofs.Execution.Arithmetic
import RegisterMachine.Proofs.Run.Sights
import RegisterMachine.Proofs.Trace.Console
import RegisterMachine.Proofs.Trace.Views
import RegisterMachine.Proofs.Report.Limits
import RegisterMachine.Proofs.Report.Listing
import RegisterMachine.Proofs.Run.Restart
import RegisterMachine.Proofs.Run.Places
import RegisterMachine.Proofs.Run.Forward
import RegisterMachine.Proofs.Instruction.Text
import RegisterMachine.Proofs.Listing.Edits
import RegisterMachine.Proofs.Listing.Offence
import RegisterMachine.Proofs.Machine.Dump
import RegisterMachine.Proofs.CommandLine.Failure
