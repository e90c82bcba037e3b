import TapeMachine.Proofs.Text.Excerpt
import TapeMachine.Proofs.Text.Reading

/-!
# Offsets and places

The line of an offset is one more than the number of line feeds below it, and the column says how
far the offset is from the start of this line.  A line starts behind the line feed before it, so
that a line feed itself belongs to the line it ends.

Main statement: looking an offset up is undone by counting from the start of the line, and keeps
the order, for all offsets before the text, in it and behind it.
-/

set_option autoImplicit false

namespace TapeMachine

namespace Text

def lineFeeds (text : List Char) : List Nat := text.findIdxs (· = '\n')

def feedsBelow (text : List Char) (offset : Int) : Nat :=
  (lineFeeds text).countP fun feed : Nat => (feed : Int) < offset

/-- The offset at which a line starts, for lines counted from zero. -/
def lineStart? (text : List Char) : Nat → Option Nat
  | 0 => some 0
  | row + 1 => (lineFeeds text)[row]?.map (· + 1)

theorem lineFeeds_append (text more : List Char) :
    lineFeeds (text ++ more) =
      lineFeeds text ++ more.findIdxs (· = '\n') text.length := by
  rw [lineFeeds, lineFeeds, List.findIdxs_append, Nat.zero_add]

theorem lineFeeds_snoc_lineFeed (text : List Char) :
    lineFeeds (text ++ ['\n']) = lineFeeds text ++ [text.length] := by
  rw [lineFeeds_append]
  rfl

theorem lineFeeds_snoc_of_ne {c : Char} (other : c ≠ '\n') (text : List Char) :
    lineFeeds (text ++ [c]) = lineFeeds text := by
  rw [lineFeeds_append]
  simp [other]

theorem lineStart?_append {text : List Char} {row start : Nat}
    (starts : lineStart? text row = some start) (more : List Char) :
    lineStart? (text ++ more) row = some start := by
  cases row with
  | zero => exact starts
  | succ row =>
      obtain ⟨feed, found, rfl⟩ := Option.map_eq_some_iff.mp starts
      have inside := (List.getElem?_eq_some_iff.mp found).1
      rw [lineStart?, lineFeeds_append, List.getElem?_append_left inside, found]
      rfl

theorem feedsBelow_eq (text : List Char) (offset : Int) :
    feedsBelow text offset = (lineFeeds (text.take offset.toNat)).length := by
  have parts := lineFeeds_append (text.take offset.toNat) (text.drop offset.toNat)
  have before : ∀ feed ∈ lineFeeds (text.take offset.toNat), (feed : Int) < offset := by
    intro feed member
    have bound := List.lt_add_of_mem_findIdxs feed member
    rw [List.length_take] at bound
    omega
  have behind : ∀ feed ∈
      (text.drop offset.toNat).findIdxs (· = '\n') (text.take offset.toNat).length,
      ¬ (feed : Int) < offset := by
    intro feed member
    have lower := List.ge_of_mem_findIdxs feed member
    have upper := List.lt_add_of_mem_findIdxs feed member
    rw [List.length_take] at lower upper
    rw [List.length_drop] at upper
    omega
  rw [List.take_append_drop] at parts
  rw [feedsBelow, parts, List.countP_append, List.countP_eq_length.mpr (by simpa using before),
    List.countP_eq_zero.mpr (by simpa using behind), Nat.add_zero]

end Text

namespace Place

/-- The reader behind a text stands on the line that the last line feed has begun, as far from its
start as the column says. -/
theorem afterText_start (text : List Char) :
    (afterText text).line = (Text.lineFeeds text).length + 1 ∧
      ∃ start, Text.lineStart? text (Text.lineFeeds text).length = some start ∧
        (text.length : Int) = start + (afterText text).column - 1 := by
  induction text using List.reverseRecOn with
  | nil => exact ⟨rfl, 0, rfl, rfl⟩
  | append_singleton text c ih =>
      obtain ⟨line, start, starts, length⟩ := ih
      rw [afterText_append, List.foldl_cons, List.foldl_nil, List.length_append,
        List.length_singleton]
      by_cases feed : c = '\n'
      · subst feed
        rw [after_lineFeed, Text.lineFeeds_snoc_lineFeed, List.length_append,
          List.length_singleton]
        simp only
        refine ⟨?_, text.length + 1, ?_, ?_⟩
        · omega
        · rw [Text.lineStart?, Text.lineFeeds_snoc_lineFeed, List.getElem?_concat_length]
          rfl
        · omega
      · rw [after_of_ne feed, Text.lineFeeds_snoc_of_ne feed]
        simp only
        refine ⟨line, start, Text.lineStart?_append starts [c], ?_⟩
        omega

variable (text : List Char) (offset : Int)

theorem line_locate :
    (locate text offset).line = Text.feedsBelow text offset + 1 := by
  rw [Text.feedsBelow_eq]
  exact (afterText_start (text.take offset.toNat)).1

/-- Counting on from the start of the line undoes a look-up. -/
theorem exists_start_locate :
    ∃ start, Text.lineStart? text (Text.feedsBelow text offset) = some start ∧
      offset = start + (locate text offset).column - 1 := by
  obtain ⟨_, start, starts, length⟩ := afterText_start (text.take offset.toNat)
  have whole := Text.lineStart?_append starts (text.drop offset.toNat)
  rw [List.take_append_drop] at whole
  refine ⟨start, ?_, ?_⟩
  · rw [Text.feedsBelow_eq]
    exact whole
  · simp only [locate]
    omega

variable {text offset}

theorem exists_line_locate (lower : 0 ≤ offset) (upper : offset ≤ text.length) :
    ∃ line, (text.splitOn '\n')[((locate text offset).line - 1).toNat]? = some line ∧
      1 ≤ (locate text offset).column ∧ (locate text offset).column ≤ line.length + 1 := by
  have size : (text.take offset.toNat).length = offset.toNat := by
    rw [List.length_take]
    omega
  have reached : locate text offset = afterText (text.take offset.toNat) := by
    simp only [locate, size, Int.toNat_of_nonneg lower, Int.sub_self, Int.add_zero]
  obtain ⟨line, rest, cut⟩ := List.exists_cons_of_ne_nil
    (Text.cutLines_ne_nil (text.drop offset.toNat))
  have parts := Text.cutLines_append (text.take offset.toNat) cut
  have one := List.length_pos_iff.mpr (Text.cutLines_ne_nil (text.take offset.toNat))
  have row : ((Text.cutLines (text.take offset.toNat)).length - 1 : Int).toNat =
      (Text.cutLines (text.take offset.toNat)).dropLast.length := by
    rw [List.length_dropLast]
    omega
  rw [List.take_append_drop, Text.cutLines_eq_splitOn] at parts
  refine ⟨Text.lastLine (text.take offset.toNat) ++ line, ?_, ?_, ?_⟩
  · rw [reached, afterText_eq, row, parts, List.getElem?_append_right (Nat.le_refl _),
      Nat.sub_self, List.getElem?_cons_zero]
  · rw [reached, afterText_eq]
    exact Int.le_add_of_nonneg_left (Int.natCast_nonneg _)
  · rw [reached, afterText_eq, List.length_append]
    simp only
    omega

/-- Of two offsets, the lower one has the earlier place: on one line it has the lower column, since
both are counted from the same start. -/
theorem locate_precedes {first second : Int} (lower : first < second) :
    (locate text first).Precedes (locate text second) := by
  have lines : Text.feedsBelow text first ≤ Text.feedsBelow text second := by
    apply List.countP_mono_left
    intro feed _ below
    have below' := of_decide_eq_true below
    exact decide_eq_true (Int.lt_trans below' lower)
  obtain ⟨start, starts, offset⟩ := exists_start_locate text first
  obtain ⟨start', starts', offset'⟩ := exists_start_locate text second
  rw [Precedes, line_locate, line_locate]
  rcases Nat.eq_or_lt_of_le lines with same | earlier
  · rw [same, starts', Option.some.injEq] at starts
    right
    omega
  · left
    omega

end Place

/-- The look-up of an offset in a text gives the line that is one more than the number of line feeds
below it, and the column by which the offset lies behind the start of this line; an offset in the
text, or at its end, has a column in this line or right behind it.  A lower offset has an earlier
place, so that no two offsets share one. -/
theorem look_up_is_an_ordered_inverse (text : List Char) :
    (∀ offset : Int, ∃ row start : Nat,
      row = Text.feedsBelow text offset ∧
      Text.lineStart? text row = some start ∧
      (Place.locate text offset).line = row + 1 ∧
      offset = start + (Place.locate text offset).column - 1 ∧
      (0 ≤ offset → offset ≤ text.length → ∃ line, (text.splitOn '\n')[row]? = some line ∧
        1 ≤ (Place.locate text offset).column ∧
        (Place.locate text offset).column ≤ line.length + 1)) ∧
    (∀ first second : Int, first < second →
      (Place.locate text first).Precedes (Place.locate text second)) ∧
    Function.Injective (Place.locate text) := by
  refine ⟨?_, fun _ _ => Place.locate_precedes, ?_⟩
  · intro offset
    obtain ⟨start, starts, counted⟩ := Place.exists_start_locate text offset
    have line := Place.line_locate text offset
    refine ⟨_, start, rfl, starts, line, counted, ?_⟩
    intro lower upper
    have held := Place.exists_line_locate lower upper
    rwa [line, Int.add_sub_cancel, Int.toNat_natCast] at held
  · intro first second same
    rcases Int.lt_trichotomy first second with before | equal | behind
    · exact absurd same (Place.locate_precedes before).ne
    · exact equal
    · exact absurd same.symm (Place.locate_precedes behind).ne

/-- The second of two line feeds ends the empty line that the first has begun. -/
theorem places_around_a_second_line_feed :
    (0 : Int) ≤ 2 ∧ (2 : Int) ≤ "a\n\nb".toList.length ∧ (2 : Int) < 3 ∧
    (∃ line, ("a\n\nb".toList.splitOn '\n')[1]? = some line ∧
      1 ≤ (Place.locate "a\n\nb".toList 2).column ∧
      (Place.locate "a\n\nb".toList 2).column ≤ line.length + 1) ∧
    (Place.locate "a\n\nb".toList 2).Precedes (Place.locate "a\n\nb".toList 3) := by
  obtain ⟨offsets, ordered, _⟩ := look_up_is_an_ordered_inverse "a\n\nb".toList
  refine ⟨by decide, by decide, by decide, ?_, ordered 2 3 (by decide)⟩
  obtain ⟨row, start, counted, _, _, _, held⟩ := offsets 2
  obtain rfl : row = 1 := counted
  exact held (by decide) (by decide)

end TapeMachine
