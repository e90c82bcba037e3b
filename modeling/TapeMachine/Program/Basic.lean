import Std.Data.TreeMap
import TapeMachine.Command
import TapeMachine.Text.Place

/-!
# Programs

A program is a list of placed commands, the name it is reported under, and two tables that lead
from each loop start to its end and back.  The tables of a loaded program are inverse to each
other; a program put together by hand may have any tables.
-/

set_option autoImplicit false

namespace TapeMachine

structure Instruction where
  command : Command
  place : Place
  deriving DecidableEq, Repr

/-- Leads from the number of one instruction to the number of another. -/
abbrev JumpTable := Std.TreeMap Int Int

structure Program where
  instructions : Array Instruction
  name : String
  ends : JumpTable
  starts : JumpTable
  source : String

namespace Program

def size (program : Program) : Nat := program.instructions.size

def loops (program : Program) : Nat := program.ends.size

/-- The instruction that a number names: from the start when it is not negative, else from the
end. -/
def instruction? (program : Program) (index : Int) : Option Instruction :=
  let counted := if index < 0 then index + program.size else index
  if counted < 0 then none else program.instructions[counted.toNat]?

def instructionFromStart? (program : Program) (index : Int) : Option Instruction :=
  if index < 0 then none else program.instructions[index.toNat]?

/-- Whether two programs have the same placed commands, name and tables.  The source texts may
differ in what is no command. -/
def agrees (left right : Program) : Bool :=
  left.instructions == right.instructions && left.name == right.name
    && left.ends.toList == right.ends.toList && left.starts.toList == right.starts.toList

end Program

end TapeMachine
