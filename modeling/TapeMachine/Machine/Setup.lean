import TapeMachine.Machine.Session

/-!
# Setting up a machine

What can be chosen about a machine, and how a session starts from it.  The cell width is looked at
before the tape length.
-/

set_option autoImplicit false

namespace TapeMachine

structure Setup where
  cells : Int := usualLength
  growable : Flag := .truth false
  width : WidthRequest := .whole 8
  deriving DecidableEq, Repr

namespace Session

/-- A session with a new machine, whose log goes on from some events. -/
def setUp (memory : Memory) (program : Program) (setup : Setup) (exchange : Exchange)
    (events : Array Event) : Except SetupFault Session :=
  match CellWidth.ofRequest setup.width with
  | .error fault => .error (.width fault)
  | .ok width =>
    match Machine.create memory program setup.cells setup.growable width with
    | .error fault => .error fault
    | .ok machine => .ok ⟨machine, exchange, events.push machine.builtEvent⟩

end Session

end TapeMachine
