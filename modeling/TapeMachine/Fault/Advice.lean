/-!
# Advice

A failure text may end with a line of advice.  The advice is chosen by the words that occur in the
text, letter case aside, and by whether the failure arose while loading or while running.
-/

set_option autoImplicit false

namespace TapeMachine

namespace Text

def occurs (part : List Char) : List Char → Bool
  | [] => part.isEmpty
  | c :: rest => part.isPrefixOf (c :: rest) || occurs part rest

end Text

inductive Activity where
  | loading
  | running
  deriving DecidableEq, Repr

namespace Advice

def closeLoop : String := "Every '[' needs a matching ']' later in the program."

def dropLoopEnd : String := "Remove the stray ']' or add the '[' that should open this loop."

def balanceMoves : String :=
  "The tape has no cells below index 0; check the balance of < and > in the loop body."

def lengthenTape : String :=
  "Use a longer tape (--cells) or let it grow on demand (--extensible)."

/-- The words that call for advice, the more urgent ones first.  They are in lower case. -/
def table : Activity → List (String × String)
  | .loading => [("unmatched '['", closeLoop), ("unmatched ']'", dropLoopEnd)]
  | .running => [("left of cell 0", balanceMoves), ("past the end of the tape", lengthenTape)]

/-- The advice for a failure text.  Only the letters A to Z have another case here: no other
character turns into a letter of the table. -/
def forMessage? (activity : Activity) (message : String) : Option String :=
  let lowered := message.toList.map Char.toLower
  ((table activity).find? fun entry => Text.occurs entry.1.toList lowered).map Prod.snd

/-- The closing line of a failure text, with the line break before it. -/
def block (activity : Activity) (message : String) : String :=
  match forMessage? activity message with
  | some advice => "\nHint: " ++ advice
  | none => ""

end Advice

end TapeMachine
