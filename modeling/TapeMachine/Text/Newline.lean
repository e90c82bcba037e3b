/-!
# Line ends

A carriage return with a line feed behind it, and a carriage return alone, both end a line.  The
text of a file is read with a line feed in the place of either.
-/

set_option autoImplicit false

namespace TapeMachine.Text

/-- Puts one character in front of text whose line ends are already unified; the line feed of a
carriage return that it belongs to is not put twice. -/
def unifyBefore (c : Char) (rest : List Char × Bool) : List Char × Bool :=
  if c = '\r' then (if rest.2 then rest.1 else '\n' :: rest.1, false)
  else (c :: rest.1, c = '\n')

/-- A text with a line feed for every line end.  The pass goes from the end of the text to its
start and keeps in mind whether the character just passed was a line feed. -/
def unifyLineEnds (text : List Char) : List Char :=
  (text.foldr unifyBefore ([], false)).1

end TapeMachine.Text
