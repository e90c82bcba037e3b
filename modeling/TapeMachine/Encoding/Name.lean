import TapeMachine.Encoding.SingleByte
import TapeMachine.Encoding.Utf16
import TapeMachine.Encoding.Utf8

/-!
# Encodings by name

An encoding is asked for by a name in which letter case, and the characters between letters and
digits, do not matter.  Points matter, but in all names except the first of each encoding an
underscore may be written as a point.
-/

set_option autoImplicit false

namespace TapeMachine

inductive Encoding where
  | utf8
  /-- UTF-8 whose byte order mark is no part of the text. -/
  | utf8Marked
  | utf16 (order : Encoding.Utf16.ByteOrder)
  /-- UTF-16 whose byte order mark gives the order. -/
  | utf16Marked
  | ascii
  | latin1
  | codePage1252
  deriving DecidableEq, Repr

namespace Encoding

/-- A name in lower case, with one underscore for each run of characters that are neither letters
nor digits nor points, and none at the ends. -/
def plainName (name : List Char) : List Char :=
  let step := fun (state : List Char × Bool) (c : Char) =>
    if c.isAlphanum || c = '.' then
      let gap := state.2 && !state.1.isEmpty
      (c.toLower :: (if gap then '_' :: state.1 else state.1), false)
    else (state.1, true)
  (name.foldl step ([], false)).1.reverse

def withoutPoints (name : List Char) : List Char := name.map fun c => if c = '.' then '_' else c

structure Names where
  encoding : Encoding
  /-- The name that has to be written as it is. -/
  own : String
  /-- The names that may be written with points. -/
  others : List String
  deriving DecidableEq, Repr

def names : List Names :=
  [⟨utf8, "utf_8", ["u8", "utf", "utf8", "utf8_ucs2", "utf8_ucs4", "cp65001"]⟩,
    ⟨utf8Marked, "utf_8_sig", []⟩,
    ⟨utf16Marked, "utf_16", ["u16", "utf16"]⟩,
    ⟨utf16 .little, "utf_16_le", ["unicodelittleunmarked", "utf_16le"]⟩,
    ⟨utf16 .big, "utf_16_be", ["unicodebigunmarked", "utf_16be"]⟩,
    ⟨ascii, "ascii", ["646", "ansi_x3.4_1968", "ansi_x3_4_1968", "ansi_x3.4_1986", "cp367",
      "csascii", "ibm367", "iso646_us", "iso_646.irv_1991", "iso_ir_6", "us", "us_ascii"]⟩,
    ⟨latin1, "latin_1", ["8859", "cp819", "csisolatin1", "ibm819", "iso8859", "iso8859_1",
      "iso_8859_1", "iso_8859_1_1987", "iso_ir_100", "l1", "latin", "latin1"]⟩,
    ⟨codePage1252, "cp1252", ["1252", "windows_1252"]⟩]

def Names.covers (names : Names) (plain : List Char) : Bool :=
  names.own = String.ofList plain || names.others.contains (String.ofList plain)
    || names.others.contains (String.ofList (withoutPoints plain))

def ofName? (name : String) : Option Encoding :=
  let plain := plainName name.toList
  (names.find? fun entry => entry.covers plain).map Names.encoding

inductive TextFault where
  | undecodable (fault : DecodeFault)
  | noByteOrderMark
  deriving DecidableEq, Repr

/-- Decodes UTF-16 in the order of its byte order mark.  Positions count from the mark on.  Bytes
without a mark are looked at in the little order first. -/
def decodeMarked16 (bytes : List UInt8) : Except TextFault (List Char) :=
  match Utf16.markedOrder? bytes with
  | some order =>
    (Utf16.decodeFrom order 2 [] (bytes.drop 2)).mapError TextFault.undecodable
  | none =>
    match Utf16.decode .little bytes with
    | .error fault => .error (.undecodable fault)
    | .ok chars => if bytes.length < 2 then .ok chars else .error .noByteOrderMark

def decode (encoding : Encoding) (bytes : List UInt8) : Except TextFault (List Char) :=
  match encoding with
  | utf8 => (Utf8.decode bytes).mapError TextFault.undecodable
  | utf8Marked => (Utf8.decodeMarked bytes).mapError TextFault.undecodable
  | utf16 order => (Utf16.decode order bytes).mapError TextFault.undecodable
  | utf16Marked => decodeMarked16 bytes
  | ascii => (SingleByte.ascii.decode bytes).mapError TextFault.undecodable
  | latin1 => (SingleByte.latin1.decode bytes).mapError TextFault.undecodable
  | codePage1252 => (SingleByte.codePage1252.decode bytes).mapError TextFault.undecodable

end Encoding

end TapeMachine
