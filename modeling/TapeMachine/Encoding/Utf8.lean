import TapeMachine.Encoding.Basic

/-!
# UTF-8

A character takes one to four bytes.  The first byte says how many follow and bounds the second
one, so that neither overlong forms, nor surrogates, nor numbers above the last character are read.
-/

set_option autoImplicit false

namespace TapeMachine.Encoding.Utf8

/-- A character of which some bytes are still to come. -/
structure Partial where
  bits : Nat
  owed : Nat
  /-- The least and the greatest byte that may come next. -/
  low : Nat
  high : Nat
  /-- The first byte, and the number of bytes read. -/
  lead : UInt8
  seen : Nat
  deriving DecidableEq, Repr

inductive Lead where
  | whole (c : Char)
  | part (part : Partial)
  | invalid
  deriving DecidableEq, Repr

def lead (byte : UInt8) : Lead :=
  let n := byte.toNat
  if n < 0x80 then .whole (Char.ofNat n)
  else if n < 0xC2 then .invalid
  else if n < 0xE0 then .part ⟨n - 0xC0, 1, 0x80, 0xBF, byte, 1⟩
  else if n = 0xE0 then .part ⟨0, 2, 0xA0, 0xBF, byte, 1⟩
  else if n = 0xED then .part ⟨0xD, 2, 0x80, 0x9F, byte, 1⟩
  else if n < 0xF0 then .part ⟨n - 0xE0, 2, 0x80, 0xBF, byte, 1⟩
  else if n = 0xF0 then .part ⟨0, 3, 0x90, 0xBF, byte, 1⟩
  else if n < 0xF4 then .part ⟨n - 0xF0, 3, 0x80, 0xBF, byte, 1⟩
  else if n = 0xF4 then .part ⟨4, 3, 0x80, 0x8F, byte, 1⟩
  else .invalid

def Partial.add (part : Partial) (byte : UInt8) : Lead :=
  let bits := part.bits * 64 + (byte.toNat - 0x80)
  if part.owed ≤ 1 then .whole (Char.ofNat bits)
  else .part ⟨bits, part.owed - 1, 0x80, 0xBF, part.lead, part.seen + 1⟩

/-- How far a decoding has come: the position of the next byte, the characters read, the last one
first, and the character that is only partly read. -/
structure Decoding where
  position : Nat
  chars : List Char
  pending : Option Partial

def Decoding.faultAt (decoding : Decoding) (part : Partial) (trouble : DecodeTrouble) :
    DecodeFault :=
  ⟨"utf-8", part.lead, decoding.position - part.seen, part.seen, trouble⟩

def Decoding.proceed (decoding : Decoding) (byte : UInt8) : Lead → Except DecodeFault Decoding
  | .whole c => .ok ⟨decoding.position + 1, c :: decoding.chars, none⟩
  | .part part => .ok ⟨decoding.position + 1, decoding.chars, some part⟩
  | .invalid => .error ⟨"utf-8", byte, decoding.position, 1, .invalidStart⟩

def Decoding.visit (decoding : Decoding) (byte : UInt8) : Except DecodeFault Decoding :=
  match decoding.pending with
  | none => decoding.proceed byte (lead byte)
  | some part =>
    if part.low ≤ byte.toNat ∧ byte.toNat ≤ part.high then
      decoding.proceed byte (part.add byte)
    else .error (decoding.faultAt part .invalidContinuation)

def decode (bytes : List UInt8) : Except DecodeFault (List Char) := do
  let decoding ← bytes.foldlM Decoding.visit ⟨0, [], none⟩
  match decoding.pending with
  | none => .ok decoding.chars.reverse
  | some part => .error (decoding.faultAt part .unexpectedEnd)

def mark : List UInt8 := [0xEF, 0xBB, 0xBF]

/-- The characters that bytes stand for, without a byte order mark in front.  Bytes that end within
the mark stand for nothing. -/
def decodeMarked (bytes : List UInt8) : Except DecodeFault (List Char) :=
  if bytes.length < 3 ∧ bytes.isPrefixOf mark then .ok []
  else if mark.isPrefixOf bytes then decode (bytes.drop 3)
  else decode bytes

end TapeMachine.Encoding.Utf8
