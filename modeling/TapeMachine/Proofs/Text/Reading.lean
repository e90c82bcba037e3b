import TapeMachine.Proofs.Text.Place

/-!
# Reading order

Places are read line by line, and in a line from left to right.  Every character passed moves the
place on in this order.  The character that the lines of a text hold at some place is the one that a
reader finds who stands there.
-/

set_option autoImplicit false

namespace TapeMachine

namespace Place

def Precedes (place other : Place) : Prop :=
  place.line < other.line ∨ place.line = other.line ∧ place.column < other.column

instance (place other : Place) : Decidable (place.Precedes other) :=
  inferInstanceAs (Decidable (_ ∨ _))

variable {place other last : Place}

theorem Precedes.trans (first : place.Precedes other) (second : other.Precedes last) :
    place.Precedes last := by
  simp only [Precedes] at *
  omega

theorem Precedes.ne (precedes : place.Precedes other) : place ≠ other := by
  rintro rfl
  simp only [Precedes] at precedes
  omega

theorem precedes_after (place : Place) (c : Char) : place.Precedes (place.after c) := by
  by_cases feed : c = '\n'
  · subst feed
    rw [after_lineFeed]
    exact Or.inl (Int.lt_succ place.line)
  · rw [after_of_ne feed]
    exact Or.inr ⟨rfl, Int.lt_succ place.column⟩

theorem precedes_foldl_after (place : Place) (c : Char) (text : List Char) :
    place.Precedes ((c :: text).foldl after place) := by
  induction text generalizing place c with
  | nil => exact place.precedes_after c
  | cons d rest ih => exact (place.precedes_after c).trans (ih (place.after c) d)

theorem locate_append (before rest : List Char) :
    locate (before ++ rest) before.length = afterText before := by
  rw [locate, Int.toNat_natCast, List.take_left]
  simp

end Place

namespace Text

theorem getElem?_concat_cases {α : Type} {items : List α} {last found : α} {index : Nat}
    (held : (items ++ [last])[index]? = some found) :
    items[index]? = some found ∨ index = items.length ∧ found = last := by
  rw [List.getElem?_append] at held
  split at held
  · exact Or.inl held
  · rw [List.getElem?_singleton] at held
    split at held
    · exact Or.inr ⟨by omega, (Option.some.inj held).symm⟩
    · cases held

/-- What a line holds at some column is found by who reads up to this place. -/
theorem exists_of_getElem?_cutLines (text : List Char) :
    ∀ {row column : Nat} {chars : List Char} {c : Char}, (cutLines text)[row]? = some chars →
      chars[column]? = some c →
        ∃ before rest, text = before ++ c :: rest ∧
          Place.afterText before = ⟨row + 1, column + 1⟩ := by
  induction text using List.reverseRecOn with
  | nil =>
      intro row column chars c held found
      obtain rfl : chars = [] := List.mem_singleton.mp (List.mem_of_getElem? held)
      cases found
  | append_singleton text d ih =>
      intro row column chars c held found
      have earlier : ∀ {chars : List Char}, (cutLines text)[row]? = some chars →
          chars[column]? = some c → ∃ before rest, text ++ [d] = before ++ c :: rest ∧
            Place.afterText before = ⟨row + 1, column + 1⟩ := by
        intro chars held found
        obtain ⟨before, rest, rfl, place⟩ := ih held found
        exact ⟨before, rest ++ [d], by simp, place⟩
      have whole : (cutLines text).dropLast ++ [lastLine text] = cutLines text :=
        List.dropLast_concat_getLast (cutLines_ne_nil text)
      by_cases feed : d = '\n'
      · rw [feed, cutLines_snoc_lineFeed] at held
        rcases getElem?_concat_cases held with held | ⟨_, rfl⟩
        · exact earlier held found
        · cases found
      · rw [cutLines_snoc_of_ne feed] at held
        rcases getElem?_concat_cases held with held | ⟨rfl, rfl⟩
        · apply earlier _ found
          rw [← whole, List.getElem?_append_left (List.getElem?_eq_some_iff.mp held).1, held]
        · rcases getElem?_concat_cases found with found | ⟨rfl, rfl⟩
          · have last := List.getElem?_concat_length (l := (cutLines text).dropLast)
              (a := lastLine text)
            rw [whole] at last
            exact earlier last found
          · have count : (cutLines text).length = (cutLines text).dropLast.length + 1 := by
              rw [← whole, List.length_append, List.length_singleton, whole]
            refine ⟨text, [], rfl, ?_⟩
            rw [Place.afterText_eq, count]
            rfl

end Text

end TapeMachine
