import TapeMachine.Fault.Advice
import TapeMachine.Text.Excerpt
import TapeMachine.Text.Lines
import TapeMachine.Text.Place

/-!
# Unmatched brackets

A loop mark without its partner is reported with its place, an excerpt of the source around it and
advice.
-/

set_option autoImplicit false

namespace TapeMachine

/-- A loop mark that has no partner. -/
structure UnmatchedBracket where
  bracket : String
  name : String
  source : String
  place : Place
  deriving DecidableEq, Repr

namespace UnmatchedBracket

/-- Whether the loop is one that is never closed; any other mark is a stray end. -/
def isOpen (fault : UnmatchedBracket) : Bool := fault.bracket == "["

def context (fault : UnmatchedBracket) : String :=
  Text.excerpt (Text.lines fault.source) fault.place.line fault.place.column Text.usualMargin

def summary (fault : UnmatchedBracket) : String :=
  "unmatched '" ++ fault.bracket ++ "' in " ++ fault.name
    ++ " at line " ++ toString fault.place.line ++ ", column " ++ toString fault.place.column

def message (fault : UnmatchedBracket) : String :=
  "LoadError: " ++ fault.summary ++ "\n" ++ fault.context
    ++ Advice.block .loading fault.summary

end UnmatchedBracket

end TapeMachine
