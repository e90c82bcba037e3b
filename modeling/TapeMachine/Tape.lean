/-!
# The tape

The visible part of a tape is the start of a buffer.  Growing by one cell shows one more cell of
the buffer; only when the whole buffer is visible is it replaced by one of twice the length.  Cells
are counted from the start, or from the end by negative numbers.
-/

set_option autoImplicit false

namespace TapeMachine

/-- A buffer of cells and how many of them are visible. -/
structure Tape where
  buffer : Array Nat
  length : Nat
  deriving DecidableEq, Repr

namespace Tape

def blank (length : Nat) : Tape := ⟨Array.replicate length 0, length⟩

def cells (tape : Tape) : List Nat := tape.buffer.toList.take tape.length

/-- The cell that a number names: from the start when it is not negative, else from the end. -/
def slot? (tape : Tape) (index : Int) : Option Nat :=
  let counted := if index < 0 then index + tape.length else index
  if 0 ≤ counted ∧ counted < tape.length then some counted.toNat else none

def valueAt (tape : Tape) (slot : Nat) : Nat := tape.buffer.getD slot 0

def get? (tape : Tape) (index : Int) : Option Nat :=
  (tape.slot? index).map tape.valueAt

def update (tape : Tape) (slot : Nat) (change : Nat → Nat) : Tape :=
  { tape with buffer := tape.buffer.modify slot change }

/-- The length of the buffer that replaces a full one. -/
def nextCapacity (capacity : Nat) : Nat := max (2 * capacity) 1

/-- Shows one more cell, after replacing the buffer when it is full. -/
def grow (tape : Tape) : Tape :=
  if tape.length = tape.buffer.size then
    let spare := nextCapacity tape.length - tape.length
    { buffer := tape.buffer ++ Array.replicate spare 0, length := tape.length + 1 }
  else
    { tape with length := tape.length + 1 }

/-- Where a bound of a range falls in a tape: negative bounds count from the end, and bounds
outside are moved to the nearest end. -/
def clampBound (tape : Tape) (bound : Int) : Nat :=
  let counted := if bound < 0 then bound + tape.length else bound
  (min counted tape.length).toNat

def range (tape : Tape) (start stop : Int) : List Nat :=
  let first := tape.clampBound start
  let last := tape.clampBound stop
  (List.range' first (last - first)).map tape.valueAt

def nonzero (tape : Tape) : List (Nat × Nat) :=
  (List.range tape.length).filterMap fun slot =>
    let value := tape.valueAt slot
    if value = 0 then none else some (slot, value)

theorem length_update (tape : Tape) (slot : Nat) (change : Nat → Nat) :
    (tape.update slot change).length = tape.length := rfl

theorem length_grow (tape : Tape) : tape.grow.length = tape.length + 1 := by
  unfold grow
  split <;> rfl

theorem cells_blank (length : Nat) : (blank length).cells = List.replicate length 0 := by
  simp [blank, cells]

theorem slot?_lt {tape : Tape} {index : Int} {slot : Nat} (found : tape.slot? index = some slot) :
    slot < tape.length := by
  unfold slot? at found
  simp only [Option.ite_none_right_eq_some, Option.some.injEq] at found
  omega

end Tape

end TapeMachine
