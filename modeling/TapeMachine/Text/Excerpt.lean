/-!
# Excerpts

An excerpt shows a few numbered lines of a text around one of them.  The line in focus carries a
marker, and below it a caret points at a column.
-/

set_option autoImplicit false

namespace TapeMachine.Text

def alignRight (width : Nat) (text : String) : String :=
  String.ofList (List.replicate (width - text.length) ' ') ++ text

/-- One numbered line, with a marker when it is in focus. -/
def excerptRow (focused : Bool) (number : Nat) (line : String) : String :=
  (if focused then ">" else " ") ++ " " ++ alignRight 4 (toString number) ++ " | " ++ line

def caretRow (column : Int) : String :=
  "       | " ++ String.ofList (List.replicate (column - 1).toNat ' ') ++ "^"

/-- The line in focus: the wanted one, or the nearest there is. -/
def focusLine (count : Nat) (line : Int) : Int :=
  min (max 1 line) count

/-- The rows of an excerpt: the lines at most `margin` away from the one in focus, and the caret row
behind the latter when there is a column to point at. -/
def excerptRows (lines : List String) (line column margin : Int) : List String :=
  let focus := focusLine lines.length line
  let near := (lines.zipIdx 1).filter fun entry =>
    focus - margin ≤ (entry.2 : Int) && (entry.2 : Int) ≤ focus + margin
  near.flatMap fun entry =>
    let focused : Bool := (entry.2 : Int) = focus
    excerptRow focused entry.2 entry.1 :: if focused && 0 < column then [caretRow column] else []

def excerpt (lines : List String) (line column margin : Int) : String :=
  "\n".intercalate (excerptRows lines line column margin)

def usualMargin : Int := 2

end TapeMachine.Text
