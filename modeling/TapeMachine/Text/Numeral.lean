import TapeMachine.Text.Digit

/-!
# Whole numbers in texts

A whole number is written with decimal digits of any script, after an optional sign and between
optional blanks.  Single underscores may stand between digits.  A number of more than 4300 digits
is refused before it is read.
-/

set_option autoImplicit false

namespace TapeMachine.Text

inductive NumeralFault where
  | malformed
  | tooLong (digits : Nat)
  deriving DecidableEq, Repr

namespace Numeral

def digitLimit : Nat := 4300

/-- Splits off a sign; the flag says whether it is a minus. -/
def takeSign : List Char → Bool × List Char
  | '-' :: rest => (true, rest)
  | '+' :: rest => (false, rest)
  | text => (false, text)

/-- Whether digits and underscores alternate as they should, given whether a digit came just
before: a digit comes first, a digit comes last, and no underscore follows another. -/
def isGrouped : Bool → List Char → Bool
  | afterDigit, [] => afterDigit
  | afterDigit, c :: rest =>
    if c = '_' then afterDigit && isGrouped false rest else isGrouped true rest

def valueOf (digits : List Nat) : Nat :=
  digits.foldl (fun value digit => 10 * value + digit) 0

def read (text : List Char) : Except NumeralFault Int :=
  let (negative, body) := takeSign (text.dropWhile isBlank)
  let (body, rest) := body.span fun c => isDigit c || c = '_'
  let digits := body.filterMap digitValue?
  if !isGrouped false body then .error .malformed
  else if digitLimit < digits.length then .error (.tooLong digits.length)
  else if !rest.all isBlank then .error .malformed
  else .ok (if negative then -(valueOf digits : Int) else valueOf digits)

end Numeral

end TapeMachine.Text
