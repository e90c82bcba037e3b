import TapeMachine.Fault.Bracket
import TapeMachine.Program.Basic

/-!
# Pairing loop marks

Loop marks pair up like brackets.  One pass over the instructions keeps the starts that still wait
for their end; an end takes the last of them.  An end that finds none is reported at once, and a
start left over, the last one first, when the pass is done.
-/

set_option autoImplicit false

namespace TapeMachine.Brackets

/-- A loop mark that found no partner, with the instruction that holds it. -/
inductive Unpaired where
  | start (instruction : Instruction)
  | finish (instruction : Instruction)
  deriving DecidableEq, Repr

/-- How far a pairing has come: the starts that wait, the last one first, and the pairs closed, the
last one first. -/
structure Pairing where
  waiting : List (Nat × Instruction)
  closed : List (Nat × Nat)

def visit (pairing : Pairing) (entry : Instruction × Nat) : Except Unpaired Pairing :=
  match entry.1.command with
  | .loopStart => .ok { pairing with waiting := (entry.2, entry.1) :: pairing.waiting }
  | .loopEnd =>
    match pairing.waiting with
    | [] => .error (.finish entry.1)
    | (start, _) :: rest => .ok ⟨rest, (start, entry.2) :: pairing.closed⟩
  | _ => .ok pairing

/-- The pairs of start and end among some instructions, in the order of their ends. -/
def pair (instructions : List Instruction) : Except Unpaired (List (Nat × Nat)) := do
  let pairing ← instructions.zipIdx.foldlM visit ⟨[], []⟩
  match pairing.waiting with
  | [] => .ok pairing.closed.reverse
  | (_, instruction) :: _ => .error (.start instruction)

def Unpaired.report (name source : String) : Unpaired → UnmatchedBracket
  | .start instruction => ⟨"[", name, source, instruction.place⟩
  | .finish instruction => ⟨"]", name, source, instruction.place⟩

def endTable (pairs : List (Nat × Nat)) : JumpTable :=
  Std.TreeMap.ofList (pairs.map fun entry => ((entry.1 : Int), (entry.2 : Int)))

def startTable (pairs : List (Nat × Nat)) : JumpTable :=
  Std.TreeMap.ofList (pairs.map fun entry => ((entry.2 : Int), (entry.1 : Int)))

end TapeMachine.Brackets
