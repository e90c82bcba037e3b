import Mathlib.Data.List.Induction
import TapeMachine.Text.Lines
import TapeMachine.Text.Place

/-!
# Places and lines

Two ways lead to a character of a text: its place, which is found by counting line feeds, and the
lines into which the text is cut.  The place behind a part of a text is the end of the last line of
this part, so both ways lead to the same character.
-/

set_option autoImplicit false

namespace TapeMachine

namespace Text

/-- The character at a place of a text that is cut into lines. -/
def characterAt? (text : List Char) (place : Place) : Option Char :=
  if place.line < 1 ∨ place.column < 1 then none
  else
    (cutLines text)[(place.line - 1).toNat]?.bind fun found => found[(place.column - 1).toNat]?

def lastLine (text : List Char) : List Char := (cutLines text).getLast (cutLines_ne_nil text)

theorem cutLines_lineFeed (text : List Char) : cutLines ('\n' :: text) = [] :: cutLines text := rfl

theorem putBefore_of_ne {c : Char} (other : c ≠ '\n') (line : List Char)
    (rest : List (List Char)) : putBefore c (line :: rest) = (c :: line) :: rest :=
  if_neg other

theorem cutLines_of_ne {c : Char} (other : c ≠ '\n') (text : List Char) :
    ∃ line rest, cutLines text = line :: rest ∧ cutLines (c :: text) = (c :: line) :: rest := by
  cases cut : cutLines text with
  | nil => exact (cutLines_ne_nil text cut).elim
  | cons line rest =>
      refine ⟨line, rest, rfl, ?_⟩
      rw [cutLines_cons, cut, putBefore_of_ne other]

/-- The last line of a text goes on in the first line of what is appended. -/
theorem cutLines_append (text : List Char) {more line : List Char} {rest : List (List Char)}
    (cut : cutLines more = line :: rest) :
    cutLines (text ++ more) = (cutLines text).dropLast ++ (lastLine text ++ line) :: rest := by
  induction text with
  | nil => exact cut
  | cons c text ih =>
      by_cases feed : c = '\n'
      · subst feed
        have ahead := cutLines_ne_nil text
        simp only [List.cons_append, lastLine, cutLines_lineFeed, ih,
          List.dropLast_cons_of_ne_nil ahead, List.getLast_cons ahead]
      · obtain ⟨first, others, cut', cut_cons⟩ := cutLines_of_ne feed text
        rw [List.cons_append, cutLines_cons, ih]
        simp only [lastLine, cut', cut_cons]
        cases others with
        | nil => simp [putBefore_of_ne feed]
        | cons second others => simp [putBefore_of_ne feed]

theorem cutLines_snoc_lineFeed (text : List Char) :
    cutLines (text ++ ['\n']) = cutLines text ++ [[]] := by
  have cut : cutLines ['\n'] = [] :: [[]] := rfl
  have whole : (cutLines text).dropLast ++ [lastLine text] = cutLines text :=
    List.dropLast_concat_getLast (cutLines_ne_nil text)
  rw [cutLines_append text cut, List.append_nil, List.append_cons, whole]

theorem cutLines_snoc_of_ne {c : Char} (other : c ≠ '\n') (text : List Char) :
    cutLines (text ++ [c]) = (cutLines text).dropLast ++ [lastLine text ++ [c]] :=
  cutLines_append text (putBefore_of_ne other [] [])

end Text

namespace Place

/-- The place behind a text is the end of its last line. -/
theorem afterText_eq (text : List Char) :
    afterText text = ⟨(Text.cutLines text).length, (Text.lastLine text).length + 1⟩ := by
  induction text using List.reverseRecOn with
  | nil => rfl
  | append_singleton text c ih =>
      rw [afterText_append, ih, List.foldl_cons, List.foldl_nil]
      by_cases feed : c = '\n'
      · subst feed
        have cut := Text.cutLines_snoc_lineFeed text
        have last : Text.lastLine (text ++ ['\n']) = [] := by
          simp [Text.lastLine, cut]
        rw [after_lineFeed, cut, last, List.length_append]
        rfl
      · have cut := Text.cutLines_snoc_of_ne feed text
        have one := List.length_pos_iff.mpr (Text.cutLines_ne_nil text)
        have last : Text.lastLine (text ++ [c]) = Text.lastLine text ++ [c] := by
          simp [Text.lastLine, cut]
        have count : (Text.cutLines (text ++ [c])).length = (Text.cutLines text).length := by
          rw [cut, List.length_append, List.length_dropLast]
          exact Nat.sub_add_cancel one
        rw [after_of_ne feed, last, count, List.length_append]
        rfl

end Place

theorem Text.characterAt?_afterText {c : Char} (other : c ≠ '\n') (before rest : List Char) :
    characterAt? (before ++ c :: rest) (Place.afterText before) = some c := by
  obtain ⟨line, others, _, cut⟩ := cutLines_of_ne other rest
  have one := List.length_pos_iff.mpr (cutLines_ne_nil before)
  have inside : ¬ (((cutLines before).length : Int) < 1 ∨
      ((lastLine before).length : Int) + 1 < 1) := by omega
  have row : (((cutLines before).length : Int) - 1).toNat = (cutLines before).dropLast.length := by
    rw [List.length_dropLast]
    omega
  have column : (((lastLine before).length : Int) + 1 - 1).toNat = (lastLine before).length := by
    omega
  rw [characterAt?, Place.afterText_eq]
  simp only
  rw [if_neg inside, row, column, cutLines_append before cut]
  simp

end TapeMachine
