import TapeMachine.Cell.Memory
import TapeMachine.Cell.Request
import TapeMachine.Event
import TapeMachine.Fault.Run
import TapeMachine.Program.Basic
import TapeMachine.Tape

/-!
# The machine

A machine has a program, a tape and two positions: the head on the tape and the number of the next
instruction.  Both positions are plain integers that can be set to anything; the commands below
check them where they use them.
-/

set_option autoImplicit false

namespace TapeMachine

def usualLength : Nat := 30000

inductive SetupFault where
  | negativeLength (length : Int)
  | row (fault : RowFault)
  | width (fault : WidthFault)
  | unknownOption (key : String)
  deriving DecidableEq, Repr

namespace SetupFault

def message : SetupFault → String
  | negativeLength length => "tape_length must not be negative, got " ++ toString length
  | row fault => fault.message
  | width fault => fault.message
  | unknownOption key =>
    "RunOptions.__init__() got an unexpected keyword argument '" ++ key ++ "'"

end SetupFault

/-- A program with its tape, its head and the number of the next instruction. -/
structure Machine where
  program : Program
  width : CellWidth
  growable : Flag
  initialLength : Nat
  tape : Tape
  head : Int
  position : Int

namespace Machine

/-- The length of a new tape: a request for zero cells leaves the length open. -/
def startLength (cells : Int) : Nat := if cells = 0 then usualLength else cells.toNat

/-- A machine with a blank tape and both positions at zero. -/
def create (memory : Memory) (program : Program) (cells : Int) (growable : Flag)
    (width : CellWidth) : Except SetupFault Machine :=
  if cells < 0 then .error (.negativeLength cells)
  else
    let length := startLength cells
    match memory.zeros width length with
    | .error fault => .error (.row fault)
    | .ok row => .ok ⟨program, width, growable, length, ⟨row, length⟩, 0, 0⟩

def reset (machine : Machine) : Machine :=
  { machine with tape := Tape.blank machine.initialLength, head := 0, position := 0 }

def finished (machine : Machine) : Bool := (machine.program.size : Int) ≤ machine.position

def currentInstruction? (machine : Machine) : Option Instruction :=
  machine.program.instructionFromStart? machine.position

/-- Where failures point; without an instruction, nowhere. -/
def currentPlace (machine : Machine) : Place :=
  match machine.currentInstruction? with
  | some instruction => instruction.place
  | none => Place.unknown

def currentCommand? (machine : Machine) : Option Command :=
  machine.currentInstruction?.map Instruction.command

def headFault (machine : Machine) (belowZero : Bool) : Fault :=
  .head
    { belowZero := belowZero
      name := machine.program.name
      source := machine.program.source
      place := machine.currentPlace
      command := machine.currentCommand?
      position := machine.head
      tapeLength := machine.tape.length }

def transferFault (machine : Machine) (cause : StreamFault) : Fault :=
  .transfer
    { name := machine.program.name
      place := machine.currentPlace
      command := machine.currentCommand?
      cause := cause }

def unresolved (machine : Machine) : Fault :=
  .unresolved machine.program.name machine.position

def cellFault (machine : Machine) (index : Int) : Fault :=
  .cellIndex index machine.tape.length

def currentCell? (machine : Machine) : Option Nat := machine.tape.get? machine.head

def builtEvent (machine : Machine) : Event :=
  .built machine.program.name machine.tape.length machine.width machine.growable

def finishedEvent (machine : Machine) : Event :=
  .finished machine.program.name machine.head machine.tape.length

end Machine

end TapeMachine
