import Mathlib.Data.List.Forall2
import Mathlib.Data.List.Sort
import TapeMachine.Proofs.Text.Excerpt

/-!
# The window of an excerpt

An excerpt shows the lines at most a margin away from the one in focus, in their order and each
once, and no others.  Where the focus is near an end of the text, the window is cut off there.

Main statement: the lines of an excerpt are one row for each line of the window, with the caret
behind the line in focus when there is a column to point at.
-/

set_option autoImplicit false

namespace TapeMachine.Text

/-- A row that shows the line with a number: the marker of the line in focus or a blank, the number
moved to the right in at least four places, a bar, and the line as it is. -/
def ShowsLine (shown : List String) (focus number : Nat) (row : String) : Prop :=
  ∃ line, shown[number - 1]? = some line ∧
    row = (if number = focus then ">" else " ") ++ " " ++
      String.ofList (List.replicate (4 - (toString number).length) ' ') ++ toString number ++
      " | " ++ line

theorem showsLine_excerptRow {shown : List String} {number : Nat} {line : String}
    (held : shown[number - 1]? = some line) (focus : Nat) :
    ShowsLine shown focus number (excerptRow (number = focus) number line) := by
  refine ⟨line, held, ?_⟩
  by_cases same : number = focus <;> simp [excerptRow, alignRight, same, String.append_assoc]

/-- Filtering consecutive numbers leaves consecutive numbers if what is left has no gaps. -/
theorem filter_range'_eq {near : Nat → Bool} {start count first length : Nat}
    (window : ∀ number, (start ≤ number ∧ number < start + count) ∧ near number = true ↔
      first ≤ number ∧ number < first + length) :
    (List.range' start count).filter near = List.range' first length := by
  have ordered := (List.pairwise_lt_range' (s := start) (n := count)).filter near
  refine ordered.eq_of_mem_iff List.pairwise_lt_range' ?_
  intro number
  rw [List.mem_filter, List.mem_range'_1, List.mem_range'_1, window]

theorem forall₂_plainRows {shown part : List String} {focus number first length : Nat}
    {margin : Int}
    (held : ∀ index line, part[index]? = some line → shown[number + index - 1]? = some line)
    (aside : number + part.length ≤ focus ∨ focus < number)
    (window : ∀ line : Nat, (number ≤ line ∧ line < number + part.length) ∧
      (focus - margin ≤ (line : Int) ∧ (line : Int) ≤ focus + margin) ↔
        first ≤ line ∧ line < first + length) :
    List.Forall₂ (ShowsLine shown focus) (List.range' first length)
      (plainRows part number focus margin) := by
  let near (line : Nat) : Bool := focus - margin ≤ (line : Int) && (line : Int) ≤ focus + margin
  have filtered : isNear focus margin = near ∘ Prod.snd := rfl
  have numbers : ((part.zipIdx number).filter (isNear focus margin)).map Prod.snd =
      List.range' first length := by
    rw [filtered, ← List.filter_map, List.zipIdx_map_snd]
    apply filter_range'_eq
    intro line
    rw [← window line]
    simp [near]
  rw [plainRows, ← numbers, List.forall₂_map_left_iff, List.forall₂_map_right_iff,
    List.forall₂_same]
  intro entry member
  have inside := List.mem_zipIdx_iff_le_and_getElem?_sub.mp (List.mem_of_mem_filter member)
  have bound := List.snd_lt_add_of_mem_zipIdx (List.mem_of_mem_filter member)
  obtain ⟨lower, found⟩ := inside
  have stands := held _ _ found
  rw [Nat.add_sub_of_le lower] at stands
  have other : entry.2 ≠ focus := by omega
  have shows := showsLine_excerptRow stands focus
  rwa [decide_eq_false other] at shows

theorem exists_focus {shown : List String} (nonempty : shown ≠ []) (line : Int) :
    ∃ above middle below, shown = above ++ middle :: below ∧
      focusLine shown.length line = above.length + 1 := by
  have positive := List.length_pos_iff.mpr nonempty
  have inside : (focusLine shown.length line - 1).toNat < shown.length := by
    unfold focusLine
    omega
  obtain ⟨above, below, whole, count⟩ :=
    exists_append_of_getElem? (List.getElem?_eq_getElem inside)
  refine ⟨above, _, below, whole, ?_⟩
  rw [count]
  unfold focusLine
  omega

/-- An excerpt of lines without line feeds has for its lines one row for each line at most a margin
away from the one in focus: those above it, its own, which alone is marked, and those below it.
Behind the marked row stands one with a caret if there is a column to point at, and there are no
other rows. -/
theorem excerpt_shows_the_window {shown : List String} (nonempty : shown ≠ [])
    (plain : ∀ line ∈ shown, '\n' ∉ line.toList) (line column : Int) {margin : Int}
    (nonneg : 0 ≤ margin) :
    ∃ first focus last : Nat, ∃ above here below,
      (focus : Int) = min (max 1 line) shown.length ∧
      (first : Int) = max 1 (focus - margin) ∧
      (last : Int) = min (shown.length : Int) (focus + margin) ∧
      lines (excerpt shown line column margin) =
        above ++ here :: ((if 0 < column then
          ["       | " ++ String.ofList (List.replicate (column - 1).toNat ' ') ++ "^"] else []) ++
            below) ∧
      List.Forall₂ (ShowsLine shown focus) (List.range' first (focus - first)) above ∧
      ShowsLine shown focus focus here ∧
      List.Forall₂ (ShowsLine shown focus) (List.range' (focus + 1) (last - focus)) below := by
  obtain ⟨before, middle, after, whole, focus⟩ := exists_focus nonempty line
  have total : shown.length = before.length + (after.length + 1) := by
    rw [whole, List.length_append, List.length_cons]
  have rows : excerptRows shown line column margin =
      plainRows before 1 (before.length + 1) margin ++ excerptRow true (before.length + 1) middle ::
        ((if 0 < column then [caretRow column] else []) ++
          plainRows after (before.length + 2) (before.length + 1) margin) := by
    rw [whole]
    exact excerptRows_eq (whole ▸ focus) nonneg
  have held : shown[before.length + 1 - 1]? = some middle := by
    rw [whole, Nat.add_sub_cancel, List.getElem?_append_right (Nat.le_refl _), Nat.sub_self,
      List.getElem?_cons_zero]
  refine ⟨(max 1 ((before.length : Int) + 1 - margin)).toNat, before.length + 1,
    (min (shown.length : Int) (before.length + 1 + margin)).toNat,
    plainRows before 1 (before.length + 1) margin, excerptRow true (before.length + 1) middle,
    plainRows after (before.length + 2) (before.length + 1) margin, focus.symm, by omega, by omega,
    ?_, ?_, ?_, ?_⟩
  · rw [lines_excerpt plain (by rw [rows]; simp), rows]
    rfl
  · apply forall₂_plainRows
    · intro index found stands
      have bound := (List.getElem?_eq_some_iff.mp stands).1
      rw [whole, List.getElem?_append_left (by omega), Nat.add_sub_cancel_left, stands]
    · omega
    · intro number
      omega
  · have shows := showsLine_excerptRow held (before.length + 1)
    rwa [decide_eq_true rfl] at shows
  · apply forall₂_plainRows
    · intro index found stands
      have place : before.length + 2 + index - 1 - before.length = index + 1 := by omega
      rw [whole, List.getElem?_append_right (by omega), place, List.getElem?_cons_succ, stands]
    · omega
    · intro number
      omega

/-- A line that is asked for behind the last one. -/
theorem window_at_the_end_of_three_lines :
    ["+", "[", "]"] ≠ [] ∧ (∀ line ∈ ["+", "[", "]"], '\n' ∉ line.toList) ∧ (0 : Int) ≤ 1 ∧
    ∃ above here, lines (excerpt ["+", "[", "]"] 9 2 1) = above ++ [here, "       |  ^"] ∧
      List.Forall₂ (ShowsLine ["+", "[", "]"] 3) [2] above ∧
      ShowsLine ["+", "[", "]"] 3 3 here := by
  have nonempty : ["+", "[", "]"] ≠ [] := by decide
  have plain : ∀ line ∈ ["+", "[", "]"], '\n' ∉ line.toList := by decide
  have nonneg : (0 : Int) ≤ 1 := by decide
  obtain ⟨first, focus, last, above, here, below, focus_eq, first_eq, last_eq, rows, upper, row,
    lower⟩ := excerpt_shows_the_window nonempty plain 9 2 nonneg
  rw [List.length_cons, List.length_cons, List.length_cons, List.length_nil] at focus_eq last_eq
  obtain rfl : focus = 3 := by omega
  obtain rfl : first = 2 := by omega
  obtain rfl : last = 3 := by omega
  obtain rfl := List.forall₂_nil_left_iff.mp lower
  exact ⟨nonempty, plain, nonneg, above, here, rows, upper, row⟩

end TapeMachine.Text
