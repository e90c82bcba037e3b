import TapeMachine.Cell.Width
import TapeMachine.Flag

/-!
# Events

What loading and running leave in the activity log.
-/

set_option autoImplicit false

namespace TapeMachine

inductive Event where
  | loaded (name : String) (instructions loops : Nat)
  | built (name : String) (cells : Nat) (width : CellWidth) (growable : Flag)
  | grown (cells : Nat)
  | finished (name : String) (head : Int) (cells : Nat)
  deriving DecidableEq, Repr

namespace Event

def channel : Event → String
  | loaded _ _ _ => "bftape.program"
  | built _ _ _ _ | grown _ | finished _ _ _ => "bftape.vm"

/-- The line that an event comes from, as a detailed log gives it. -/
def lineNumber : Event → Nat
  | loaded _ _ _ => 98
  | built _ _ _ _ => 43
  | grown _ => 119
  | finished _ _ _ => 92

def message : Event → String
  | loaded name instructions loops =>
    "Loaded " ++ name ++ ": " ++ toString instructions ++ " instructions, " ++ toString loops
      ++ " loops"
  | built name cells width growable =>
    "VM for " ++ name ++ ": " ++ toString cells ++ " " ++ width.name ++ " cells, growable="
      ++ growable.text
  | grown cells => "Tape grown to " ++ toString cells ++ " cells"
  | finished name head cells =>
    "Finished " ++ name ++ ": head=" ++ toString head ++ ", tape length=" ++ toString cells

end Event

end TapeMachine
