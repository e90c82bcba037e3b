/-!
# Places in a text

A place is a line and a column, both counted from one; a line ends at a line feed and at nothing
else.  `Place.after` says where the reader stands once a character is passed, and `Place.locate`
gives the place of any offset, inside the text or not.
-/

set_option autoImplicit false

namespace TapeMachine

/-- A line and a column.  They are integers, since an offset before the text has column zero or
less. -/
structure Place where
  line : Int
  column : Int
  deriving DecidableEq, Repr

namespace Place

def first : Place := ⟨1, 1⟩

/-- What stands for the place where there is no instruction to point at. -/
def unknown : Place := ⟨0, 0⟩

/-- The place behind one character: a line feed opens the next line. -/
def after (place : Place) (c : Char) : Place :=
  if c = '\n' then ⟨place.line + 1, 1⟩ else ⟨place.line, place.column + 1⟩

def afterText (text : List Char) : Place :=
  text.foldl after first

/-- The place of an offset.  Offsets before the text lie on its first line and offsets past the end
on its last one, as far off in columns as they are off in characters. -/
def locate (text : List Char) (offset : Int) : Place :=
  let before := text.take offset.toNat
  let reached := afterText before
  ⟨reached.line, reached.column + (offset - before.length)⟩

theorem after_lineFeed (place : Place) : place.after '\n' = ⟨place.line + 1, 1⟩ := rfl

theorem after_of_ne {place : Place} {c : Char} (other : c ≠ '\n') :
    place.after c = ⟨place.line, place.column + 1⟩ := if_neg other

theorem afterText_append (text more : List Char) :
    afterText (text ++ more) = more.foldl after (afterText text) := List.foldl_append

end Place

end TapeMachine
