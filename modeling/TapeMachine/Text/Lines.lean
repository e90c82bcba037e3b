/-!
# Lines of a text

A text is cut at every line feed and at no other character, so carriage returns and other
separators stay inside their line.  A text always has at least one line.
-/

set_option autoImplicit false

namespace TapeMachine.Text

/-- Puts one character in front of the lines of what follows it. -/
def putBefore (c : Char) (lines : List (List Char)) : List (List Char) :=
  if c = '\n' then [] :: lines
  else
    match lines with
    | [] => [[c]]
    | line :: rest => (c :: line) :: rest

def cutLines (text : List Char) : List (List Char) :=
  text.foldr putBefore [[]]

def lines (text : String) : List String :=
  (cutLines text.toList).map String.ofList

theorem cutLines_cons (c : Char) (text : List Char) :
    cutLines (c :: text) = putBefore c (cutLines text) := rfl

theorem putBefore_ne_nil (c : Char) (lines : List (List Char)) : putBefore c lines ≠ [] := by
  unfold putBefore
  split
  · exact List.cons_ne_nil _ _
  · cases lines with
    | nil => exact List.cons_ne_nil _ _
    | cons line rest => exact List.cons_ne_nil _ _

theorem cutLines_ne_nil (text : List Char) : cutLines text ≠ [] := by
  cases text with
  | nil => exact List.cons_ne_nil _ _
  | cons c rest => exact putBefore_ne_nil c (cutLines rest)

end TapeMachine.Text
