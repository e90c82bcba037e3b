import TapeMachine.Cell.Width
import TapeMachine.Flag
import TapeMachine.Text.Decimal
import TapeMachine.Text.Numeral
import TapeMachine.Text.Quoted

/-!
# Asking for a cell width

A width may be asked for by a whole number, by a decimal fraction (of which the part before the
point counts), by a truth value (counted as one or zero), or by a text that holds a whole number.
Anything else is refused, and so is a number of bits that no cell has.
-/

set_option autoImplicit false

namespace TapeMachine

inductive WidthRequest where
  | whole (bits : Int)
  | decimal (bits : Text.Decimal)
  | truth (value : Bool)
  | text (bits : String)
  | absent
  | sequence
  | mapping
  deriving DecidableEq, Repr

inductive WidthFault where
  | unsupported (request : WidthRequest)
  | malformed (text : String)
  | tooLong (digits : Nat)
  | noNumber (request : WidthRequest)
  deriving DecidableEq, Repr

namespace WidthRequest

/-- What was given, in words; for what is no number, its kind. -/
def shown : WidthRequest → String
  | whole bits => toString bits
  | decimal bits => bits.text
  | truth value => (Flag.truth value).text
  | text bits => bits
  | absent => "NoneType"
  | sequence => "list"
  | mapping => "dict"

def bits (request : WidthRequest) : Except WidthFault Int :=
  match request with
  | whole bits => .ok bits
  | decimal bits => .ok bits.truncate
  | truth value => .ok (if value then 1 else 0)
  | text bits =>
    match Text.Numeral.read bits.toList with
    | .ok value => .ok value
    | .error .malformed => .error (.malformed bits)
    | .error (.tooLong digits) => .error (.tooLong digits)
  | absent | sequence | mapping => .error (.noNumber request)

end WidthRequest

namespace CellWidth

def ofRequest (request : WidthRequest) : Except WidthFault CellWidth :=
  match request.bits with
  | .error fault => .error fault
  | .ok bits =>
    match ofBits? bits with
    | some width => .ok width
    | none => .error (.unsupported request)

end CellWidth

namespace WidthFault

/-- How much of a quoted text a failure text shows. -/
def quoteLimit : Nat := 200

def message : WidthFault → String
  | unsupported request =>
    "Unsupported cell width: " ++ request.shown ++ " (expected one of "
      ++ "[" ++ ", ".intercalate (CellWidth.all.map fun width => toString width.bits) ++ "])"
  | malformed text =>
    "invalid literal for int() with base 10: "
      ++ String.ofList ((Text.quoted text).toList.take quoteLimit)
  | tooLong digits =>
    "Exceeds the limit (" ++ toString Text.Numeral.digitLimit
      ++ " digits) for integer string conversion: value has " ++ toString digits
      ++ " digits; use sys.set_int_max_str_digits() to increase the limit"
  | noNumber request =>
    "int() argument must be a string, a bytes-like object or a real number, not '"
      ++ request.shown ++ "'"

end WidthFault

end TapeMachine
