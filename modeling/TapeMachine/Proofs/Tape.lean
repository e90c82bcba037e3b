import TapeMachine.Tape

/-!
# The visible cells

What the operations of a tape do to its visible cells.  Growing shows a cell of the buffer that was
there before; it is a zero because the spare cells of a sound tape are zeros.
-/

set_option autoImplicit false

namespace TapeMachine.Tape

/-- The visible cells are in the buffer, and the others there are zeros. -/
structure Sound (tape : Tape) : Prop where
  fits : tape.length ≤ tape.buffer.size
  spare : ∀ slot, tape.length ≤ slot → tape.valueAt slot = 0

theorem valueAt_eq (tape : Tape) (slot : Nat) :
    tape.valueAt slot = tape.buffer[slot]?.getD 0 :=
  Array.getD_eq_getD_getElem?

theorem valueAt_blank (length slot : Nat) : (blank length).valueAt slot = 0 := by
  rw [valueAt_eq, blank, Array.getElem?_replicate]
  split
  · rfl
  · rfl

theorem sound_blank (length : Nat) : (blank length).Sound where
  fits := Nat.le_of_eq Array.size_replicate.symm
  spare := fun slot _ => valueAt_blank length slot

theorem getElem?_cells {tape : Tape} {slot : Nat} (sound : tape.Sound)
    (inside : slot < tape.length) : tape.cells[slot]? = some (tape.valueAt slot) := by
  have bound : slot < tape.buffer.size := Nat.lt_of_lt_of_le inside sound.fits
  rw [cells, List.getElem?_take_of_lt inside, Array.getElem?_toList, valueAt_eq,
    Array.getElem?_eq_getElem bound, Option.getD_some]

theorem length_cells {tape : Tape} (sound : tape.Sound) : tape.cells.length = tape.length := by
  rw [cells, List.length_take, Array.length_toList]
  exact Nat.min_eq_left sound.fits

theorem cells_eq_append {short long : Tape} (sound : short.Sound) (sound' : long.Sound)
    (longer : short.length ≤ long.length)
    (values : ∀ slot, long.valueAt slot = short.valueAt slot) :
    long.cells = short.cells ++ List.replicate (long.length - short.length) 0 := by
  have shown := length_cells sound
  have shown' := length_cells sound'
  apply List.ext_getElem?
  intro slot
  by_cases inside : slot < short.length
  · rw [List.getElem?_append_left (by omega), getElem?_cells sound inside,
      getElem?_cells sound' (by omega), values]
  · rw [List.getElem?_append_right (by omega), List.getElem?_replicate, shown]
    by_cases outside : slot < long.length
    · rw [if_pos (by omega), getElem?_cells sound' outside, values,
        sound.spare slot (by omega)]
    · rw [if_neg (by omega), List.getElem?_eq_none (by omega)]

/-! ## Changing a cell -/

section Update
variable (tape : Tape) (slot : Nat) (change : Nat → Nat)

theorem cells_update : (tape.update slot change).cells = tape.cells.modify slot change := by
  rw [cells, update, Array.toList_modify, List.take_modify]
  rfl

theorem valueAt_update_of_ne {other : Nat} (differ : slot ≠ other) :
    (tape.update slot change).valueAt other = tape.valueAt other := by
  rw [valueAt_eq, valueAt_eq, update, Array.getElem?_modify, if_neg differ]

theorem valueAt_update (inside : slot < tape.buffer.size) (other : Nat) :
    (tape.update slot change).valueAt other =
      if slot = other then change (tape.valueAt other) else tape.valueAt other := by
  split
  · next same =>
      subst same
      rw [valueAt_eq, valueAt_eq, update, Array.getElem?_modify, if_pos rfl,
        Array.getElem?_eq_getElem inside]
      rfl
  · next differ => exact valueAt_update_of_ne tape slot change differ

theorem Sound.update {tape : Tape} {slot : Nat} (sound : tape.Sound) (inside : slot < tape.length)
    (change : Nat → Nat) : (tape.update slot change).Sound where
  fits := by
    rw [length_update, Tape.update, Array.size_modify]
    exact sound.fits
  spare := by
    intro other outside
    rw [length_update] at outside
    rw [valueAt_update_of_ne tape slot change (by omega)]
    exact sound.spare other outside

end Update

/-! ## Growing -/

theorem valueAt_grow (tape : Tape) (slot : Nat) : tape.grow.valueAt slot = tape.valueAt slot := by
  unfold grow
  split
  · rw [valueAt_eq, valueAt_eq]
    by_cases inside : slot < tape.buffer.size
    · rw [Array.getElem?_append_left inside]
    · rw [Array.getElem?_append_right (Nat.le_of_not_lt inside), Array.getElem?_replicate,
        Array.getElem?_eq_none (Nat.le_of_not_lt inside)]
      split <;> rfl
  · rfl

theorem Sound.grow {tape : Tape} (sound : tape.Sound) : tape.grow.Sound where
  fits := by
    have fits := sound.fits
    rw [length_grow]
    unfold Tape.grow
    split
    · simp only [Array.size_append, Array.size_replicate, nextCapacity]
      omega
    · simp only
      omega
  spare := by
    intro slot outside
    rw [length_grow] at outside
    rw [valueAt_grow]
    exact sound.spare slot (by omega)

theorem cells_grow {tape : Tape} (sound : tape.Sound) : tape.grow.cells = tape.cells ++ [0] := by
  have grown : tape.grow.cells.length = tape.length + 1 := by
    rw [length_cells sound.grow, length_grow]
  have shown := length_cells sound
  apply List.ext_getElem?
  intro slot
  rcases Nat.lt_trichotomy slot tape.length with inside | rfl | outside
  · rw [List.getElem?_append_left (by omega), getElem?_cells sound inside,
      getElem?_cells sound.grow (by rw [length_grow]; omega), valueAt_grow]
  · rw [List.getElem?_append_right (by omega), shown, Nat.sub_self,
      getElem?_cells sound.grow (by rw [length_grow]; omega), valueAt_grow,
      sound.spare _ (Nat.le_refl _)]
    rfl
  · rw [List.getElem?_eq_none (by omega), List.getElem?_eq_none]
    rw [List.length_append, List.length_singleton]
    omega

/-! ## Changing every cell -/

/-- The tape with every cell changed, the spare ones too. -/
def map (change : Nat → Nat) (tape : Tape) : Tape :=
  { tape with buffer := tape.buffer.map change }

section Map
variable (tape : Tape) {change : Nat → Nat}

theorem length_map : (tape.map change).length = tape.length := rfl

theorem cells_map : (tape.map change).cells = tape.cells.map change := by
  rw [cells, cells, map, Array.toList_map, List.map_take]

theorem map_id : tape.map id = tape := by
  rw [map, Array.map_id]

theorem valueAt_map (zero : change 0 = 0) (slot : Nat) :
    (tape.map change).valueAt slot = change (tape.valueAt slot) := by
  rw [valueAt_eq, valueAt_eq, map, Array.getElem?_map]
  cases tape.buffer[slot]? with
  | none => exact zero.symm
  | some value => rfl

theorem get?_map (zero : change 0 = 0) (index : Int) :
    (tape.map change).get? index = (tape.get? index).map change := by
  have slot : (tape.map change).slot? index = tape.slot? index := rfl
  rw [get?, get?, slot]
  cases tape.slot? index with
  | none => rfl
  | some found => exact congrArg some (tape.valueAt_map zero found)

theorem grow_map (zero : change 0 = 0) : (tape.map change).grow = tape.grow.map change := by
  have size : (tape.map change).buffer.size = tape.buffer.size := Array.size_map
  rw [grow, size, length_map, grow]
  split
  · simp [map, zero]
  · rfl

theorem update_map (slot : Nat) {update update' : Nat → Nat}
    (commutes : ∀ value, update' (change value) = change (update value)) :
    (tape.map change).update slot update' = (tape.update slot update).map change := by
  have buffers : (tape.buffer.map change).modify slot update' =
      (tape.buffer.modify slot update).map change := by
    apply Array.ext_getElem?
    intro other
    rw [Array.getElem?_modify, Array.getElem?_map, Array.getElem?_map, Array.getElem?_modify]
    split
    · cases tape.buffer[other]? with
      | none => rfl
      | some value => exact congrArg some (commutes value)
    · rfl
  rw [Tape.update, Tape.update, map, map, buffers]

end Map

theorem map_blank (change : Nat → Nat) (zero : change 0 = 0) (length : Nat) :
    (blank length).map change = blank length := by
  simp [map, blank, zero]

/-! ## Naming a cell by an integer -/

theorem slot?_of_inside {tape : Tape} {index : Int} (lower : 0 ≤ index)
    (upper : index < tape.length) : tape.slot? index = some index.toNat := by
  unfold slot?
  rw [if_neg (Int.not_lt.mpr lower), if_pos ⟨lower, upper⟩]

theorem get?_of_inside {tape : Tape} {index : Int} (lower : 0 ≤ index)
    (upper : index < tape.length) : tape.get? index = some (tape.valueAt index.toNat) := by
  rw [get?, slot?_of_inside lower upper, Option.map_some]

end TapeMachine.Tape
