import TapeMachine.Cell.Width

/-!
# Memory

The rows of cells that tapes are made of come from outside.  Which of them can be had is not up to
the machine: a row may be refused for its length or for want of room, each time in words that are
not the machine's own.  All that is relied on is that a row which is given holds zeros and is as
long as it should be.

Memory is asked for the first row of a machine.  The rows that a tape grows into, and the one that
it is set back to, are taken to be given.
-/

set_option autoImplicit false

namespace TapeMachine

/-- Why a row is refused, in the words of what refuses it. -/
inductive RowFault where
  | badLength (text : String)
  | noRoom (text : String)
  deriving DecidableEq, Repr

def RowFault.message : RowFault → String
  | badLength text | noRoom text => text

structure Memory where
  zeros : CellWidth → Int → Except RowFault (Array Nat)
  zeros_eq : ∀ width length row, zeros width length = .ok row →
    row = Array.replicate length.toNat 0

namespace Memory

/-- Memory that gives the rows below some length and refuses all others for one reason. -/
def below (limit : Int) (fault : RowFault) : Memory where
  zeros _ length := if length < limit then .ok (Array.replicate length.toNat 0) else .error fault
  zeros_eq := by
    intro _ length row given
    split at given
    · exact (Except.ok.inj given).symm
    · cases given

def ample : Memory where
  zeros _ length := .ok (Array.replicate length.toNat 0)
  zeros_eq := fun _ _ _ given => (Except.ok.inj given).symm

end Memory

end TapeMachine
