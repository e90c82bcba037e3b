import TapeMachine.Program.Brackets
import TapeMachine.Program.Scan

/-!
# Loading a source text

A text is a program as soon as its loop marks pair up.
-/

set_option autoImplicit false

namespace TapeMachine.Program

def unnamed : String := "<string>"

def assemble (instructions : List Instruction) (pairs : List (Nat × Nat))
    (name source : String) : Program :=
  { instructions := instructions.toArray
    name := name
    ends := Brackets.endTable pairs
    starts := Brackets.startTable pairs
    source := source }

/-- The program written in a text, or the loop mark that has no partner. -/
def ofSource (source name : String) : Except UnmatchedBracket Program :=
  let instructions := Instruction.scan source.toList
  match Brackets.pair instructions with
  | .ok pairs => .ok (assemble instructions pairs name source)
  | .error unpaired => .error (unpaired.report name source)

end TapeMachine.Program
