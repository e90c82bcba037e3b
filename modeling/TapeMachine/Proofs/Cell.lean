import TapeMachine.Cell.Width

/-!
# Cell arithmetic

Adding one and taking one away, as arithmetic on natural numbers.
-/

set_option autoImplicit false

namespace TapeMachine

namespace CellWidth

variable (width : CellWidth) (value : Nat)

theorem le_modulus : 256 ≤ width.modulus := by
  cases width <;> decide

theorem wrap_natCast : width.wrap value = value % width.modulus := by
  rw [wrap, ← Int.natCast_emod, Int.toNat_natCast]

theorem increment_natCast : width.increment value = (value + 1) % width.modulus :=
  width.wrap_natCast (value + 1)

theorem decrement_natCast :
    width.decrement value = (value + (width.modulus - 1)) % width.modulus := by
  have positive := width.modulus_pos
  have shifted : ((value : Int) - 1) % width.modulus =
      ((value + (width.modulus - 1) : Nat) : Int) % width.modulus := by
    rw [← Int.add_emod_right]
    congr 1
    omega
  rw [decrement, wrap, shifted]
  exact width.wrap_natCast _

end CellWidth

theorem Cell.toByte_mod (value : Nat) : Cell.toByte value = UInt8.ofNat (value % 256) :=
  UInt8.ofNat_mod_size.symm

/-! ## Narrower cells -/

namespace CellWidth

/-- A change of cells that the arithmetic of two widths, bytes and a blank tape do not notice. -/
structure Casts (wide narrow : CellWidth) (cast : Nat → Nat) : Prop where
  zero : cast 0 = 0
  increment : ∀ value, narrow.increment (cast value) = cast (wide.increment value)
  decrement : ∀ value, narrow.decrement (cast value) = cast (wide.decrement value)
  ofByte : ∀ byte : UInt8, cast byte.toNat = byte.toNat
  toByte : ∀ value, Cell.toByte (cast value) = Cell.toByte value

theorem casts_id (width : CellWidth) : width.Casts width id where
  zero := rfl
  increment := fun _ => rfl
  decrement := fun _ => rfl
  ofByte := fun _ => rfl
  toByte := fun _ => rfl

variable {wide narrow : CellWidth}

theorem modulus_dvd (narrower : narrow.bits ≤ wide.bits) : narrow.modulus ∣ wide.modulus := by
  rw [modulus_eq_two_pow, modulus_eq_two_pow]
  exact Nat.pow_dvd_pow 2 narrower

theorem wrap_mod (narrower : narrow.bits ≤ wide.bits) (value : Int) :
    wide.wrap value % narrow.modulus = narrow.wrap value := by
  have positive : (0 : Int) < wide.modulus := Int.natCast_pos.mpr wide.modulus_pos
  have lower := Int.emod_nonneg value (Int.ne_of_gt positive)
  have divides : (narrow.modulus : Int) ∣ wide.modulus :=
    Int.natCast_dvd_natCast.mpr (modulus_dvd narrower)
  have narrowed : ((wide.wrap value : Nat) : Int) % narrow.modulus = value % narrow.modulus := by
    rw [wrap, Int.toNat_of_nonneg lower, Int.emod_emod_of_dvd value divides]
  change _ = (value % narrow.modulus).toNat
  rw [← narrowed, ← Int.natCast_emod, Int.toNat_natCast]

theorem wrap_mod_add (value : Nat) (shift : Int) :
    narrow.wrap ((value % narrow.modulus : Nat) + shift) = narrow.wrap (value + shift) := by
  rw [wrap, wrap, Int.natCast_emod, Int.emod_add_emod]

/-- Cells may be cut down to fewer bits before a calculation or after it. -/
theorem casts_mod (narrower : narrow.bits ≤ wide.bits) :
    wide.Casts narrow fun value => value % narrow.modulus where
  zero := Nat.zero_mod _
  increment := by
    intro value
    rw [increment, increment, wrap_mod narrower, wrap_mod_add]
  decrement := by
    intro value
    rw [decrement, decrement, wrap_mod narrower, Int.sub_eq_add_neg, wrap_mod_add]
    rfl
  ofByte := fun byte => Nat.mod_eq_of_lt (Nat.lt_of_lt_of_le byte.toNat_lt narrow.le_modulus)
  toByte := by
    intro value
    have divides : 256 ∣ narrow.modulus := by
      cases narrow <;> decide
    rw [Cell.toByte_mod, Nat.mod_mod_of_dvd value divides, ← Cell.toByte_mod]

end CellWidth

end TapeMachine
