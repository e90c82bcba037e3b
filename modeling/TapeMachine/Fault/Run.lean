import TapeMachine.Command
import TapeMachine.Fault.Advice
import TapeMachine.Stream
import TapeMachine.Text.Excerpt
import TapeMachine.Text.Lines
import TapeMachine.Text.Place
import TapeMachine.Word

/-!
# Failures of a running machine

A failure keeps the facts it arose from: which instruction was at work, where the head stood, how
long the tape was.  The texts are made from these facts.
-/

set_option autoImplicit false

namespace TapeMachine

structure HeadFault where
  /-- Whether the head was to move below the first cell; otherwise it is past the last one. -/
  belowZero : Bool
  name : String
  source : String
  place : Place
  command : Option Command
  position : Int
  tapeLength : Int
  deriving DecidableEq, Repr

namespace HeadFault

def deed (fault : HeadFault) : String :=
  if fault.belowZero then "the head cannot move left of cell 0"
  else "the head is past the end of the tape at position " ++ toString fault.position

def summary (fault : HeadFault) : String :=
  let culprit :=
    match fault.command with
    | some command => " by the command: " ++ command.label
    | none => ""
  "In " ++ fault.name ++ ": line " ++ toString fault.place.line ++ ", column "
    ++ toString fault.place.column ++ " " ++ fault.deed ++ culprit
    ++ ". The head should stay within 0 and " ++ toString (fault.tapeLength - 1) ++ "."

/-- The excerpt around the command, when there is a source and a line to show. -/
def context (fault : HeadFault) : String :=
  if fault.source.isEmpty || fault.place.line ≤ 0 then ""
  else Text.excerpt (Text.lines fault.source) fault.place.line fault.place.column Text.usualMargin

def message (fault : HeadFault) : String :=
  let excerpt := if fault.context.isEmpty then "" else "\n" ++ fault.context
  "RuntimeError: " ++ fault.summary ++ excerpt ++ Advice.block .running fault.summary

end HeadFault

structure TransferFault where
  name : String
  place : Place
  command : Option Command
  cause : StreamFault
  deriving DecidableEq, Repr

namespace TransferFault

def message (fault : TransferFault) : String :=
  let culprit :=
    match fault.command with
    | some command => " (" ++ command.symbol.toString ++ ")"
    | none => ""
  "IOError: in " ++ fault.name ++ ": line " ++ toString fault.place.line ++ ", column "
    ++ toString fault.place.column ++ culprit ++ ": " ++ fault.cause.message

end TransferFault

inductive CellMiss where
  | offTape
  /-- The number fits into a machine word only when the word has no sign. -/
  | unsigned
  | noWord
  deriving DecidableEq, Repr

namespace CellMiss

def ofIndex (index : Int) : CellMiss :=
  if Word.fits index then .offTape
  else if Word.needsUnsigned index then .unsigned
  else .noWord

def message (index : Int) (length : Nat) : CellMiss → String
  | offTape =>
    "index " ++ toString index ++ " is out of bounds for axis 0 with size " ++ toString length
  | unsigned => "Python int too large to convert to C long"
  | noWord =>
    "only integers, slices (`:`), ellipsis (`...`), numpy.newaxis (`None`) and integer or boolean "
      ++ "arrays are valid indices"

end CellMiss

inductive Fault where
  | head (fault : HeadFault)
  | transfer (fault : TransferFault)
  /-- A loop mark has no partner in the program's tables. -/
  | unresolved (name : String) (position : Int)
  | cellIndex (index : Int) (length : Nat)
  | instructionIndex (index : Int)
  /-- A stream reports trouble that is not the machine's to explain. -/
  | stream (fault : StreamFault)
  deriving DecidableEq, Repr

namespace Fault

/-- Whether the failure is one of the machine's own, made for people to read. -/
def isReport : Fault → Bool
  | head _ | transfer _ | unresolved _ _ => true
  | cellIndex _ _ | instructionIndex _ | stream _ => false

def instructionIndexMessage (index : Int) : String :=
  if Word.fits index then "tuple index out of range"
  else "cannot fit 'int' into an index-sized integer"

def message : Fault → String
  | head fault => fault.message
  | transfer fault => fault.message
  | unresolved name position =>
    "RuntimeError: in " ++ name ++ ": no matching bracket recorded for instruction "
      ++ toString position
  | cellIndex index length => (CellMiss.ofIndex index).message index length
  | instructionIndex index => instructionIndexMessage index
  | stream fault => fault.message

end Fault

end TapeMachine
