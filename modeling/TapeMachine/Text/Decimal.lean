import TapeMachine.Text.Numeral

/-!
# Decimal fractions

A decimal fraction is a count of units of a power of ten.  It is written with a point and at least
one digit on each side of it, or, when it is very large or very small, as a number between one and
ten with an exponent of at least two digits.
-/

set_option autoImplicit false

namespace TapeMachine.Text

/-- So many digits, taken as a whole number, times ten to the power of the exponent, or the opposite of
that. -/
structure Decimal where
  negative : Bool
  digits : Nat
  exponent : Int
  deriving DecidableEq, Repr

namespace Decimal

def truncate (decimal : Decimal) : Int :=
  let whole :=
    if decimal.exponent < 0 then decimal.digits / Nat.pow 10 (-decimal.exponent).toNat
    else decimal.digits * Nat.pow 10 decimal.exponent.toNat
  if decimal.negative then -(whole : Int) else whole

/-- The significant digits, without zeros behind the last one that is not zero. -/
def significant (digits : Nat) : List Char :=
  ((toString digits).toList.reverse.dropWhile (· = '0')).reverse

def exponentText (exponent : Int) : List Char :=
  let size := (toString exponent.natAbs).toList
  'e' :: (if exponent < 0 then '-' else '+') :: List.replicate (2 - size.length) '0' ++ size

/-- Digits with the point behind the first `point` of them, which may lie outside them. -/
def positional (digits : List Char) (point : Int) : List Char :=
  if point ≤ 0 then '0' :: '.' :: List.replicate (-point).toNat '0' ++ digits
  else
    let padded := digits ++ List.replicate (point.toNat + 1 - digits.length) '0'
    padded.take point.toNat ++ '.' :: padded.drop point.toNat

/-- Digits with the point behind the first of them, and an exponent. -/
def scientific (digits : List Char) (point : Int) : List Char :=
  let tail := digits.drop 1
  digits.take 1 ++ (if tail.isEmpty then [] else '.' :: tail) ++ exponentText (point - 1)

def text (decimal : Decimal) : String :=
  let sign := if decimal.negative then ['-'] else []
  let digits := significant decimal.digits
  let point : Int := (toString decimal.digits).length + decimal.exponent
  let body :=
    if digits.isEmpty then ['0', '.', '0']
    else if -4 < point ∧ point ≤ 16 then positional digits point
    else scientific digits point
  String.ofList (sign ++ body)

/-- Splits a text at the first character of a kind, which is dropped. -/
def splitAt (isMark : Char → Bool) (text : List Char) : List Char × List Char :=
  let (before, rest) := text.span fun c => !isMark c
  (before, rest.drop 1)

/-- The number that some text without a sign writes; no text writes zero. -/
def natural? (text : List Char) : Option Nat :=
  if text.all Char.isDigit then some (Numeral.valueOf (text.filterMap digitValue?)) else none

def integer? (text : List Char) : Option Int :=
  let (negative, body) := Numeral.takeSign text
  (natural? body).map fun value => if negative then -(value : Int) else value

/-- The number that a text writes with a sign, a point and an exponent, each of which may be
missing. -/
def ofText? (text : List Char) : Option Decimal := do
  let (negative, body) := Numeral.takeSign text
  let (mantissa, exponentText) := splitAt (fun c => c = 'e' || c = 'E') body
  let (whole, places) := splitAt (· = '.') mantissa
  let digits ← natural? (whole ++ places)
  let exponent ← integer? exponentText
  return ⟨negative, digits, exponent - places.length⟩

end Decimal

end TapeMachine.Text
