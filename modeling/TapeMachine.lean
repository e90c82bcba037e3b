import TapeMachine.Main
import TapeMachine.Proofs.Program.Matching
import TapeMachine.Proofs.Program.Pairing
import TapeMachine.Proofs.Machine.Step
import TapeMachine.Proofs.Program.Loaded
import TapeMachine.Proofs.Machine.Run
import TapeMachine.Proofs.Machine.Bounds
import TapeMachine.Proofs.Structured.Semantics
import TapeMachine.Proofs.Structured.Simulation
import TapeMachine.Proofs.Structured.Agreement
import TapeMachine.Proofs.Machine.Progress
import TapeMachine.Proofs.Machine.Lockstep
import TapeMachine.Proofs.Machine.Image
import TapeMachine.Proofs.Machine.Resumption
import TapeMachine.Proofs.Machine.Failure
import TapeMachine.Proofs.Machine.Recast
import TapeMachine.Proofs.Machine.Narrowing
import TapeMachine.Proofs.Plain.Machine
import TapeMachine.Proofs.Plain.Refinement
import TapeMachine.Proofs.Text.Place
import TapeMachine.Proofs.Program.Scan
import TapeMachine.Proofs.Text.Newline
import TapeMachine.Proofs.Program.LineEnds
import TapeMachine.Proofs.Encoding.Utf8
import TapeMachine.Proofs.Encoding.Utf16
import TapeMachine.Proofs.File.Loading
import TapeMachine.Proofs.Machine.Location
import TapeMachine.Proofs.Machine.Transfers
import TapeMachine.Proofs.Machine.LoopBacks
import TapeMachine.Proofs.Machine.Reset
import TapeMachine.Proofs.Program.Layout
import TapeMachine.Proofs.Machine.Twins
import TapeMachine.Proofs.Execution
import TapeMachine.Proofs.CommandLine.Agreement
import TapeMachine.Proofs.Program.Places
import TapeMachine.Proofs.Program.Unmatched
import TapeMachine.Proofs.Fault.Caret
import TapeMachine.Proofs.CommandLine.Process
import TapeMachine.Proofs.Execution.Log
import TapeMachine.Proofs.Machine.Stuck
import TapeMachine.Proofs.Program.Concatenation
import TapeMachine.Proofs.Fault.Advice
import TapeMachine.Proofs.Machine.Capacity
import TapeMachine.Proofs.Text.Offset
import TapeMachine.Proofs.Text.Window
import TapeMachine.Proofs.CommandLine.Choice
