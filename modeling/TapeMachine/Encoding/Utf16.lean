import TapeMachine.Encoding.Basic

/-!
# UTF-16

A unit takes two bytes, in one of two orders.  A character is one unit, or a high surrogate unit
followed by a low one.  Where the order is not given, a byte order mark in front gives it.
-/

set_option autoImplicit false

namespace TapeMachine.Encoding.Utf16

inductive ByteOrder where
  | little
  | big
  deriving DecidableEq, Repr

namespace ByteOrder

def codec : ByteOrder → String
  | little => "utf-16-le"
  | big => "utf-16-be"

def unit (order : ByteOrder) (first second : UInt8) : Nat :=
  match order with
  | little => first.toNat + 256 * second.toNat
  | big => 256 * first.toNat + second.toNat

end ByteOrder

/-- Whether a unit is the first half of a pair. -/
def isHigh (unit : Nat) : Bool := 0xD800 ≤ unit && unit < 0xDC00

def isLow (unit : Nat) : Bool := 0xDC00 ≤ unit && unit < 0xE000

def pairChar (high low : Nat) : Char :=
  Char.ofNat (0x10000 + (high - 0xD800) * 0x400 + (low - 0xDC00))

/-- Decodes bytes from a position on, behind characters already read, the last one first. -/
def decodeFrom (order : ByteOrder) (position : Nat) (chars : List Char) :
    List UInt8 → Except DecodeFault (List Char)
  | [] => .ok chars.reverse
  | [byte] => .error ⟨order.codec, byte, position, 1, .truncatedUnit⟩
  | first :: second :: rest =>
    let unit := order.unit first second
    if isLow unit then .error ⟨order.codec, first, position, 2, .loneSurrogate⟩
    else if isHigh unit then
      match rest with
      | third :: fourth :: rest =>
        let next := order.unit third fourth
        if isLow next then decodeFrom order (position + 4) (pairChar unit next :: chars) rest
        else .error ⟨order.codec, first, position, 2, .brokenPair⟩
      | rest => .error ⟨order.codec, first, position, 2 + rest.length, .unexpectedEnd⟩
    else decodeFrom order (position + 2) (Char.ofNat unit :: chars) rest

def decode (order : ByteOrder) (bytes : List UInt8) : Except DecodeFault (List Char) :=
  decodeFrom order 0 [] bytes

def markedOrder? : List UInt8 → Option ByteOrder
  | 0xFF :: 0xFE :: _ => some .little
  | 0xFE :: 0xFF :: _ => some .big
  | _ => none

end TapeMachine.Encoding.Utf16
