import Mathlib.Data.List.Basic
import TapeMachine.Text.Excerpt
import TapeMachine.Text.Lines

/-!
# Rows of an excerpt

No row of an excerpt has a line feed in it, so the rows are the lines of the excerpt.  The row of
the line in focus is the only one that is marked, and the row with the caret comes right behind it.
What stands in front of a line grows with its number, once this has more than four digits.
-/

set_option autoImplicit false

namespace TapeMachine.Text

/-! ## Lines and rows -/

theorem cutLines_eq_splitOn (text : List Char) : cutLines text = text.splitOn '\n' := by
  induction text with
  | nil => simp [cutLines]
  | cons c rest ih =>
      rw [cutLines_cons, ih, List.splitOn_cons_eq_if_modifyHead]
      simp only [putBefore, beq_iff_eq]
      split
      · rfl
      · cases cut : rest.splitOn '\n' with
        | nil => exact absurd cut (List.splitOn_ne_nil '\n' rest)
        | cons line others => rfl

theorem lineFeed_not_mem_of_mem_cutLines {text line : List Char} (member : line ∈ cutLines text) :
    '\n' ∉ line := by
  induction text generalizing line with
  | nil =>
      obtain rfl := List.mem_singleton.mp member
      exact List.not_mem_nil
  | cons c rest ih =>
      rw [cutLines_cons] at member
      unfold putBefore at member
      split at member
      · rcases List.mem_cons.mp member with rfl | member
        · exact List.not_mem_nil
        · exact ih member
      · next other =>
          cases cut : cutLines rest with
          | nil => exact absurd cut (cutLines_ne_nil rest)
          | cons first others =>
              rw [cut] at ih member
              rcases List.mem_cons.mp member with rfl | member
              · intro inside
                rcases List.mem_cons.mp inside with same | inside
                · exact other same.symm
                · exact ih (List.mem_cons_self ..) inside
              · exact ih (List.mem_cons_of_mem first member)

theorem lineFeed_not_mem_of_mem_lines {text line : String} (member : line ∈ lines text) :
    '\n' ∉ line.toList := by
  obtain ⟨cut, inside, rfl⟩ := List.mem_map.mp member
  rw [String.toList_ofList]
  exact lineFeed_not_mem_of_mem_cutLines inside

/-- Rows that are put together with line feeds are the lines of the whole. -/
theorem lines_intercalate {rows : List String} (plain : ∀ row ∈ rows, '\n' ∉ row.toList)
    (nonempty : rows ≠ []) : lines ("\n".intercalate rows) = rows := by
  have plain' : ∀ row ∈ rows.map String.toList, '\n' ∉ row := by
    intro row member
    obtain ⟨text, inside, rfl⟩ := List.mem_map.mp member
    exact plain text inside
  have feed : "\n".toList = ['\n'] := rfl
  rw [lines, cutLines_eq_splitOn, String.toList_intercalate, feed,
    List.splitOn_intercalate '\n' plain' (by simpa using nonempty), List.map_map]
  simp [Function.comp_def]

theorem exists_append_of_getElem? {α : Type} {items : List α} {index : Nat} {found : α}
    (held : items[index]? = some found) :
    ∃ before after, items = before ++ found :: after ∧ before.length = index := by
  obtain ⟨inside, rfl⟩ := List.getElem?_eq_some_iff.mp held
  refine ⟨items.take index, items.drop (index + 1), ?_, ?_⟩
  · rw [List.getElem_cons_drop, List.take_append_drop]
  · exact List.length_take_of_le (Nat.le_of_lt inside)

/-! ## The characters of a row -/

def digits (number : Nat) : Nat := (toString number).length

theorem digits_eq (number : Nat) : digits number = (Nat.toDigits 10 number).length := by
  rw [digits, ← String.length_toList, Nat.toString_eq_repr, Nat.toList_repr]

theorem digits_le_four_iff (number : Nat) : digits number ≤ 4 ↔ number < 10000 := by
  rw [digits_eq, Nat.length_toDigits_le_iff (by decide) (by decide)]

def gutter (focused : Bool) (number : Nat) : List Char :=
  (if focused then '>' else ' ') :: ' ' ::
    (alignRight 4 (toString number)).toList ++ [' ', '|', ' ']

theorem length_gutter (focused : Bool) (number : Nat) :
    (gutter focused number).length = max 4 (digits number) + 5 := by
  simp only [gutter, alignRight, digits, String.toList_append, String.toList_ofList,
    List.length_append, List.length_cons, List.length_replicate, List.length_nil,
    String.length_toList, List.cons_append]
  omega

theorem toList_excerptRow (focused : Bool) (number : Nat) (line : String) :
    (excerptRow focused number line).toList = gutter focused number ++ line.toList := by
  cases focused <;> simp [excerptRow, gutter]

def indent (column : Int) : List Char :=
  List.replicate 7 ' ' ++ ['|', ' '] ++ List.replicate (column - 1).toNat ' '

theorem toList_caretRow (column : Int) : (caretRow column).toList = indent column ++ ['^'] := by
  have bar : "       | ".toList = List.replicate 7 ' ' ++ ['|', ' '] := rfl
  have caret : "^".toList = ['^'] := rfl
  rw [caretRow, String.toList_append, String.toList_append, bar, caret, String.toList_ofList,
    indent]

theorem length_indent (column : Int) : (indent column).length = 9 + (column - 1).toNat := by
  simp [indent]
  omega

theorem lineFeed_not_mem_gutter (focused : Bool) (number : Nat) :
    '\n' ∉ gutter focused number := by
  have noDigit : '\n' ∉ Nat.toDigits 10 number := by
    intro member
    have isDigit := Nat.isDigit_of_mem_toDigits (by decide) (by decide) member
    exact absurd isDigit (by decide)
  cases focused <;> simp [gutter, alignRight, noDigit]

theorem lineFeed_not_mem_excerptRow {line : String} (plain : '\n' ∉ line.toList)
    (focused : Bool) (number : Nat) : '\n' ∉ (excerptRow focused number line).toList := by
  rw [toList_excerptRow, List.mem_append]
  exact not_or.mpr ⟨lineFeed_not_mem_gutter focused number, plain⟩

theorem lineFeed_not_mem_caretRow (column : Int) : '\n' ∉ (caretRow column).toList := by
  rw [toList_caretRow]
  simp [indent]

/-! ## The rows around the focus -/

def rowsOf (focus column : Int) (entry : String × Nat) : List String :=
  let focused : Bool := (entry.2 : Int) = focus
  excerptRow focused entry.2 entry.1 :: if focused && 0 < column then [caretRow column] else []

def isNear (focus margin : Int) (entry : String × Nat) : Bool :=
  focus - margin ≤ (entry.2 : Int) && (entry.2 : Int) ≤ focus + margin

theorem excerptRows_eq_flatMap (lines : List String) (line column margin : Int) :
    excerptRows lines line column margin =
      ((lines.zipIdx 1).filter (isNear (focusLine lines.length line) margin)).flatMap
        (rowsOf (focusLine lines.length line) column) := rfl

theorem flatMap_rowsOf_of_ne {focus column : Int} {entries : List (String × Nat)}
    (others : ∀ entry ∈ entries, (entry.2 : Int) ≠ focus) :
    entries.flatMap (rowsOf focus column) =
      entries.map fun entry => excerptRow false entry.2 entry.1 := by
  rw [List.map_eq_flatMap]
  apply List.flatMap_congr
  intro entry member
  simp [rowsOf, others entry member]

/-- An excerpt from lines without line feeds has its rows for lines. -/
theorem lines_excerpt {shown : List String} (plain : ∀ line ∈ shown, '\n' ∉ line.toList)
    {line column margin : Int} (nonempty : excerptRows shown line column margin ≠ []) :
    lines (excerpt shown line column margin) = excerptRows shown line column margin := by
  refine lines_intercalate ?_ nonempty
  intro row member
  rw [excerptRows_eq_flatMap] at member
  obtain ⟨entry, near, inRows⟩ := List.mem_flatMap.mp member
  have inside := List.fst_mem_of_mem_zipIdx (List.mem_of_mem_filter near)
  rcases List.mem_cons.mp inRows with rfl | behind
  · exact lineFeed_not_mem_excerptRow (plain entry.1 inside) _ _
  · obtain ⟨_, isCaret⟩ := List.mem_ite_nil_right.mp behind
    obtain rfl := List.mem_singleton.mp isCaret
    exact lineFeed_not_mem_caretRow column

/-- The rows of lines that are not in focus, numbered from some number on, as far as they are near
the focus. -/
def plainRows (lines : List String) (number : Nat) (focus margin : Int) : List String :=
  ((lines.zipIdx number).filter (isNear focus margin)).map fun entry =>
    excerptRow false entry.2 entry.1

/-- An excerpt shows the line in focus, the caret if there is one, and what is near on both
sides. -/
theorem excerptRows_eq {before after : List String} {line : String} {number column margin : Int}
    (focus : focusLine (before ++ line :: after).length number = before.length + 1)
    (nonneg : 0 ≤ margin) :
    excerptRows (before ++ line :: after) number column margin =
      plainRows before 1 (before.length + 1) margin ++
        excerptRow true (before.length + 1) line ::
          ((if 0 < column then [caretRow column] else []) ++
            plainRows after (before.length + 2) (before.length + 1) margin) := by
  have first : before.length + 1 = 1 + before.length := Nat.add_comm ..
  have near : isNear (before.length + 1) margin (line, before.length + 1) = true := by
    simp only [isNear, Bool.and_eq_true, decide_eq_true_eq]
    omega
  have above : ∀ entry ∈ (before.zipIdx 1).filter (isNear (before.length + 1) margin),
      (entry.2 : Int) ≠ before.length + 1 := by
    intro entry member
    have bound := List.snd_lt_add_of_mem_zipIdx (List.mem_of_mem_filter member)
    omega
  have below : ∀ entry ∈
      (after.zipIdx (before.length + 2)).filter (isNear (before.length + 1) margin),
      (entry.2 : Int) ≠ before.length + 1 := by
    intro entry member
    have bound := List.le_snd_of_mem_zipIdx (List.mem_of_mem_filter member)
    omega
  have here : rowsOf (before.length + 1) column (line, before.length + 1) =
      excerptRow true (before.length + 1) line ::
        if 0 < column then [caretRow column] else [] := by
    simp [rowsOf]
  rw [excerptRows_eq_flatMap, focus, List.zipIdx_append, List.zipIdx_cons, ← first,
    List.filter_append, List.filter_cons_of_pos near, List.flatMap_append, List.flatMap_cons,
    flatMap_rowsOf_of_ne above, flatMap_rowsOf_of_ne below, here]
  rfl

end TapeMachine.Text
