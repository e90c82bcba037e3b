import TapeMachine.Encoding.Basic

/-!
# Encodings of one byte per character

Every byte stands for a character on its own, or for none.
-/

set_option autoImplicit false

namespace TapeMachine.Encoding.SingleByte

/-- A table of characters with the name of the encoding and what is wrong with a byte that is not
in the table. -/
structure Table where
  codec : String
  trouble : DecodeTrouble
  char? : UInt8 → Option Char

def ascii : Table where
  codec := "ascii"
  trouble := .aboveAscii
  char? byte := if byte.toNat < 0x80 then some (Char.ofNat byte.toNat) else none

def latin1 : Table where
  codec := "latin-1"
  trouble := .undefinedCharacter
  char? byte := some (Char.ofNat byte.toNat)

/-- What code page 1252 has from 0x80 to 0x9F; zero stands for none. -/
def codePageBlock : List Nat :=
  [0x20AC, 0, 0x201A, 0x0192, 0x201E, 0x2026, 0x2020, 0x2021,
    0x02C6, 0x2030, 0x0160, 0x2039, 0x0152, 0, 0x017D, 0,
    0, 0x2018, 0x2019, 0x201C, 0x201D, 0x2022, 0x2013, 0x2014,
    0x02DC, 0x2122, 0x0161, 0x203A, 0x0153, 0, 0x017E, 0x0178]

def codePage1252 : Table where
  codec := "charmap"
  trouble := .undefinedCharacter
  char? byte :=
    let n := byte.toNat
    if n < 0x80 ∨ 0xA0 ≤ n then some (Char.ofNat n)
    else
      match codePageBlock[n - 0x80]? with
      | some 0 | none => none
      | some code => some (Char.ofNat code)

/-- Decodes bytes from a position on, behind characters already read, the last one first. -/
def Table.decodeFrom (table : Table) (position : Nat) (chars : List Char) :
    List UInt8 → Except DecodeFault (List Char)
  | [] => .ok chars.reverse
  | byte :: rest =>
    match table.char? byte with
    | some c => table.decodeFrom (position + 1) (c :: chars) rest
    | none => .error ⟨table.codec, byte, position, 1, table.trouble⟩

def Table.decode (table : Table) (bytes : List UInt8) : Except DecodeFault (List Char) :=
  table.decodeFrom 0 [] bytes

end TapeMachine.Encoding.SingleByte
