import TapeMachine.Text.Quoted

/-!
# Reading bytes as text

A decoder turns bytes into characters or points at the bytes that it cannot read.  The positions
count bytes from the start of what is decoded.
-/

set_option autoImplicit false

namespace TapeMachine

inductive DecodeTrouble where
  | invalidStart
  | invalidContinuation
  | unexpectedEnd
  | aboveAscii
  | undefinedCharacter
  | truncatedUnit
  | loneSurrogate
  | brokenPair
  deriving DecidableEq, Repr

namespace DecodeTrouble

def message : DecodeTrouble → String
  | invalidStart => "invalid start byte"
  | invalidContinuation => "invalid continuation byte"
  | unexpectedEnd => "unexpected end of data"
  | aboveAscii => "ordinal not in range(128)"
  | undefinedCharacter => "character maps to <undefined>"
  | truncatedUnit => "truncated data"
  | loneSurrogate => "illegal encoding"
  | brokenPair => "illegal UTF-16 surrogate"

end DecodeTrouble

/-- Bytes that cannot be read: `size` of them from `start` on, the first of which is `byte`. -/
structure DecodeFault where
  codec : String
  byte : UInt8
  start : Nat
  size : Nat
  trouble : DecodeTrouble
  deriving DecidableEq, Repr

namespace DecodeFault

/-- The bytes in question: a single one is shown, of several the first and the last position. -/
def subject (fault : DecodeFault) : String :=
  if fault.size = 1 then
    "byte 0x" ++ String.ofList (Text.hex 2 fault.byte.toNat) ++ " in position "
      ++ toString fault.start
  else
    "bytes in position " ++ toString fault.start ++ "-"
      ++ toString (fault.start + fault.size - 1)

def message (fault : DecodeFault) : String :=
  "'" ++ fault.codec ++ "' codec can't decode " ++ fault.subject ++ ": " ++ fault.trouble.message

end DecodeFault

end TapeMachine
