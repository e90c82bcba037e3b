import TapeMachine.Text.Quoted

/-!
# Switches

The switches of the command line, the spellings of each, and what can be wrong with their use.
-/

set_option autoImplicit false

namespace TapeMachine.CommandLine

inductive Switch where
  | help
  | cells
  | extensible
  | cellBits
  | debug
  deriving DecidableEq, Repr

namespace Switch

/-- Every switch, in the order of the help text. -/
def all : List Switch := [help, cells, extensible, cellBits, debug]

/-- The spellings of a switch, a short one first. -/
def names : Switch → List String
  | help => ["-h", "--help"]
  | cells => ["-c", "--cells"]
  | extensible => ["-e", "--extensible"]
  | cellBits => ["--cell-bits"]
  | debug => ["--debug"]

def takesValue : Switch → Bool
  | cells | cellBits => true
  | help | extensible | debug => false

def label (switch : Switch) : String := "/".intercalate switch.names

def spellings : List (String × Switch) :=
  all.flatMap fun switch => switch.names.map fun name => (name, switch)

def ofName? (name : String) : Option Switch :=
  (spellings.find? fun entry => entry.1 = name).map Prod.snd

def ofLetter? (letter : Char) : Option Switch := ofName? (String.ofList ['-', letter])

def startingWith (beginning : List Char) : List (String × Switch) :=
  spellings.filter fun entry => beginning.isPrefixOf entry.1.toList

end Switch

inductive UsageFault where
  | ambiguous (argument : String) (matching : List String)
  | missingValue (switch : Switch)
  | needlessValue (switch : Switch) (value : String)
  | noNumber (switch : Switch) (value : String)
  | noChoice (value : Int)
  | noFilename
  | unrecognized (arguments : List String)
  | negativeCells
  deriving DecidableEq, Repr

namespace UsageFault

def message : UsageFault → String
  | ambiguous argument matching =>
    "ambiguous option: " ++ argument ++ " could match " ++ ", ".intercalate matching
  | missingValue switch => "argument " ++ switch.label ++ ": expected one argument"
  | needlessValue switch value =>
    "argument " ++ switch.label ++ ": ignored explicit argument " ++ Text.quoted value
  | noNumber switch value =>
    "argument " ++ switch.label ++ ": invalid int value: " ++ Text.quoted value
  | noChoice value =>
    "argument " ++ Switch.cellBits.label ++ ": invalid choice: " ++ toString value
      ++ " (choose from 8, 16, 32)"
  | noFilename => "the following arguments are required: filename"
  | unrecognized arguments => "unrecognized arguments: " ++ " ".intercalate arguments
  | negativeCells => "--cells must not be negative"

end UsageFault

end TapeMachine.CommandLine
