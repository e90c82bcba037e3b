/-!
# Cell widths

A cell holds an unsigned number of eight, sixteen or thirty-two bits.  Arithmetic is done on
integers and wraps around at the width, and bytes pass in and out through the lowest eight bits.
-/

set_option autoImplicit false

namespace TapeMachine

inductive CellWidth where
  | eight
  | sixteen
  | thirtyTwo
  deriving DecidableEq, Repr

namespace CellWidth

def all : List CellWidth := [eight, sixteen, thirtyTwo]

def bits : CellWidth → Nat
  | eight => 8
  | sixteen => 16
  | thirtyTwo => 32

def modulus : CellWidth → Nat
  | eight => 256
  | sixteen => 65536
  | thirtyTwo => 4294967296

def name (width : CellWidth) : String := "u" ++ toString width.bits

/-- The value a cell takes for any integer. -/
def wrap (width : CellWidth) (value : Int) : Nat :=
  (value % width.modulus).toNat

def increment (width : CellWidth) (value : Int) : Nat := width.wrap (value + 1)

def decrement (width : CellWidth) (value : Int) : Nat := width.wrap (value - 1)

def ofBits? (bits : Int) : Option CellWidth :=
  all.find? fun width => (width.bits : Int) = bits

theorem modulus_eq_two_pow (width : CellWidth) : width.modulus = Nat.pow 2 width.bits := by
  cases width <;> rfl

theorem modulus_pos (width : CellWidth) : 0 < width.modulus := by
  cases width <;> decide

theorem wrap_lt (width : CellWidth) (value : Int) : width.wrap value < width.modulus := by
  have positive : (0 : Int) < width.modulus := Int.natCast_pos.mpr width.modulus_pos
  have lower := Int.emod_nonneg value (Int.ne_of_gt positive)
  have upper := Int.emod_lt_of_pos value positive
  unfold wrap
  omega

end CellWidth

namespace Cell

/-- The lowest eight bits of an integer: what a cell keeps of a byte, and what it sends as one. -/
def lowByte (value : Int) : Nat := (value % 256).toNat

def toByte (value : Nat) : UInt8 := UInt8.ofNat value

end Cell

end TapeMachine
