import Mathlib.Algebra.Group.Nat.Defs
import TapeMachine.Encoding.Utf8

/-!
# UTF-8 read and written

A character is written as a first byte and continuation bytes that hold six bits each.  Reading
keeps the bits so far, and its bounds on the second byte leave just those numbers that are written
with so many bytes and belong to a character.

Main statement: reading accepts exactly what writing produces, and gives back what was written.
-/

set_option autoImplicit false

namespace TapeMachine.Encoding

theorem toNat_byte {number : Nat} (bound : number < 256) :
    (UInt8.ofNat number).toNat = number := UInt8.toNat_ofNat_of_lt' bound

theorem toNat_char {number : Nat} (valid : number.isValidChar) :
    (Char.ofNat number).toNat = number := by
  rw [Char.ofNat, dif_pos valid]
  rfl

theorem isValidChar_toNat (c : Char) :
    c.toNat < 0xD800 ∨ 0xDFFF < c.toNat ∧ c.toNat < 0x110000 := c.valid

namespace Utf8

/-! ## Writing -/

def encode (text : List Char) : List UInt8 := text.flatMap String.utf8EncodeChar

theorem encode_cons (c : Char) (text : List Char) :
    encode (c :: text) = String.utf8EncodeChar c ++ encode text := List.flatMap_cons

theorem encode_toList (text : String) : encode text.toList = text.toUTF8.data.toList := by
  have bytes : (String.ofList text.toList).toByteArray = text.toList.utf8Encode :=
    String.toByteArray_ofList
  rw [String.ofList_toList] at bytes
  rw [String.toUTF8, bytes]
  exact List.toList_data_toByteArray.symm

/-- So many bytes that hold the lowest bits of a number, six in each. -/
def continuation : Nat → Nat → List UInt8
  | 0, _ => []
  | count + 1, value => UInt8.ofNat (value / 64 ^ count % 64 + 0x80) :: continuation count value

section Written

variable {c : Char}

theorem encodeChar_one (most : c.toNat < 0x80) :
    String.utf8EncodeChar c = [UInt8.ofNat c.toNat] := by
  have most : c.toNat ≤ 0x7F := by omega
  simp only [String.utf8EncodeChar, Char.toNat_val, if_pos most]

theorem encodeChar_two (least : 0x80 ≤ c.toNat) (most : c.toNat < 0x800) :
    String.utf8EncodeChar c = UInt8.ofNat (c.toNat / 64 + 0xC0) :: continuation 1 c.toNat := by
  have one : ¬ c.toNat ≤ 0x7F := by omega
  have two : c.toNat ≤ 0x7FF := by omega
  have whole : c.toNat / 64 % 32 = c.toNat / 64 := by omega
  simp [String.utf8EncodeChar, continuation, one, two, whole]

theorem encodeChar_three (least : 0x800 ≤ c.toNat) (most : c.toNat < 0x10000) :
    String.utf8EncodeChar c = UInt8.ofNat (c.toNat / 4096 + 0xE0) :: continuation 2 c.toNat := by
  have one : ¬ c.toNat ≤ 0x7F := by omega
  have two : ¬ c.toNat ≤ 0x7FF := by omega
  have three : c.toNat ≤ 0xFFFF := by omega
  have whole : c.toNat / 4096 % 16 = c.toNat / 4096 := by omega
  simp [String.utf8EncodeChar, continuation, one, two, three, whole]

theorem encodeChar_four (least : 0x10000 ≤ c.toNat) (most : c.toNat < 0x110000) :
    String.utf8EncodeChar c = UInt8.ofNat (c.toNat / 262144 + 0xF0) :: continuation 3 c.toNat := by
  have one : ¬ c.toNat ≤ 0x7F := by omega
  have two : ¬ c.toNat ≤ 0x7FF := by omega
  have three : ¬ c.toNat ≤ 0xFFFF := by omega
  have whole : c.toNat / 262144 % 8 = c.toNat / 262144 := by omega
  simp [String.utf8EncodeChar, continuation, one, two, three, whole]

end Written

/-! ## The first byte -/

section First

variable {first : UInt8}

theorem lead_one (most : first.toNat < 0x80) : lead first = .whole (Char.ofNat first.toNat) := by
  simp only [lead, if_pos most]

theorem lead_two (least : 0xC2 ≤ first.toNat) (most : first.toNat < 0xE0) :
    lead first = .part ⟨first.toNat - 0xC0, 1, 0x80, 0xBF, first, 1⟩ := by
  have one : ¬ first.toNat < 0x80 := by omega
  have none : ¬ first.toNat < 0xC2 := by omega
  simp only [lead, if_neg one, if_neg none, if_pos most]

theorem lead_three (least : 0xE0 ≤ first.toNat) (most : first.toNat < 0xF0) :
    lead first =
      .part ⟨first.toNat - 0xE0, 2, if first.toNat = 0xE0 then 0xA0 else 0x80,
        if first.toNat = 0xED then 0x9F else 0xBF, first, 1⟩ := by
  have one : ¬ first.toNat < 0x80 := by omega
  have none : ¬ first.toNat < 0xC2 := by omega
  have two : ¬ first.toNat < 0xE0 := by omega
  simp only [lead, if_neg one, if_neg none, if_neg two]
  by_cases lowest : first.toNat = 0xE0
  · simp [lowest]
  by_cases surrogates : first.toNat = 0xED
  · simp [surrogates]
  · simp only [if_neg lowest, if_neg surrogates, if_pos most]

theorem lead_four (least : 0xF0 ≤ first.toNat) (most : first.toNat < 0xF5) :
    lead first =
      .part ⟨first.toNat - 0xF0, 3, if first.toNat = 0xF0 then 0x90 else 0x80,
        if first.toNat = 0xF4 then 0x8F else 0xBF, first, 1⟩ := by
  have one : ¬ first.toNat < 0x80 := by omega
  have none : ¬ first.toNat < 0xC2 := by omega
  have two : ¬ first.toNat < 0xE0 := by omega
  have three : ¬ first.toNat < 0xF0 := by omega
  have noLowest : ¬ first.toNat = 0xE0 := by omega
  have noSurrogate : ¬ first.toNat = 0xED := by omega
  simp only [lead, if_neg one, if_neg none, if_neg two, if_neg three, if_neg noLowest,
    if_neg noSurrogate]
  by_cases lowest : first.toNat = 0xF0
  · simp [lowest]
  by_cases highest : first.toNat = 0xF4
  · simp [highest]
  · have less : first.toNat < 0xF4 := by omega
    simp only [if_neg lowest, if_neg highest, if_pos less]

theorem lead_invalid (outside : (0x80 ≤ first.toNat ∧ first.toNat < 0xC2) ∨ 0xF5 ≤ first.toNat) :
    lead first = .invalid := by
  simp only [lead]
  repeat' split
  all_goals first | rfl | omega

end First

/-! ## The bytes that complete a character -/

namespace Partial

variable {part : Partial} (byte : UInt8)

theorem add_last (owed : part.owed = 1) :
    part.add byte = .whole (Char.ofNat (part.bits * 64 + (byte.toNat - 0x80))) := by
  rw [add, if_pos (Nat.le_of_eq owed)]

theorem add_more {count : Nat} (owed : part.owed = count + 1 + 1) :
    part.add byte =
      .part ⟨part.bits * 64 + (byte.toNat - 0x80), count + 1, 0x80, 0xBF, part.lead,
        part.seen + 1⟩ := by
  have more : ¬ part.owed ≤ 1 := by omega
  rw [add, if_neg more, owed]
  rfl

end Partial

/-- With some bytes behind it, what a byte came to is a character. -/
inductive Completes : Lead → List UInt8 → Char → Prop where
  | whole (c : Char) : Completes (.whole c) [] c
  | part {part : Partial} {byte : UInt8} {rest : List UInt8} {c : Char}
      (low : part.low ≤ byte.toNat) (high : byte.toNat ≤ part.high)
      (later : Completes (part.add byte) rest c) : Completes (.part part) (byte :: rest) c

section Completes

variable {part : Partial} {bytes : List UInt8} {c d : Char}

theorem completes_whole_iff : Completes (.whole d) bytes c ↔ bytes = [] ∧ c = d := by
  constructor
  · rintro ⟨⟩
    exact ⟨rfl, rfl⟩
  · rintro ⟨rfl, rfl⟩
    exact .whole c

theorem completes_part_iff :
    Completes (.part part) bytes c ↔
      ∃ byte rest, bytes = byte :: rest ∧ part.low ≤ byte.toNat ∧ byte.toNat ≤ part.high ∧
        Completes (part.add byte) rest c := by
  constructor
  · rintro (_ | ⟨low, high, later⟩)
    exact ⟨_, _, rfl, low, high, later⟩
  · rintro ⟨byte, rest, rfl, low, high, later⟩
    exact .part low high later

theorem not_completes_invalid : ¬ Completes .invalid bytes c := nofun

/-- The bytes that complete a character are the continuation bytes of a number that begins with the
bits read so far, the first of them within the bounds. -/
theorem completes_iff_continuation (count : Nat) (owed : part.owed = count + 1)
    (least : 0x80 ≤ part.low) (most : part.high ≤ 0xBF) :
    Completes (.part part) bytes c ↔
      ∃ value, value / 64 ^ (count + 1) = part.bits ∧
        part.low ≤ value / 64 ^ count % 64 + 0x80 ∧
        value / 64 ^ count % 64 + 0x80 ≤ part.high ∧
        bytes = continuation (count + 1) value ∧ c = Char.ofNat value := by
  induction count generalizing part bytes with
  | zero =>
      rw [completes_part_iff]
      constructor
      · rintro ⟨byte, rest, rfl, low, high, later⟩
        rw [Partial.add_last byte owed, completes_whole_iff] at later
        obtain ⟨rfl, char⟩ := later
        have last : (part.bits * 64 + (byte.toNat - 0x80)) / 64 ^ 0 % 64 + 0x80 = byte.toNat := by
          omega
        refine ⟨part.bits * 64 + (byte.toNat - 0x80), ?_, ?_, ?_, ?_, char⟩
        · omega
        · rwa [last]
        · rwa [last]
        · rw [continuation, continuation, last, UInt8.ofNat_toNat]
      · rintro ⟨value, bits, low, high, rfl, rfl⟩
        have byte : (UInt8.ofNat (value / 64 ^ 0 % 64 + 0x80)).toNat =
            value / 64 ^ 0 % 64 + 0x80 := toNat_byte (by omega)
        have number : part.bits * 64 + (value / 64 ^ 0 % 64 + 0x80 - 0x80) = value := by omega
        refine ⟨_, _, rfl, ?_, ?_, ?_⟩
        · rwa [byte]
        · rwa [byte]
        · rw [Partial.add_last _ owed, byte, number]
          exact .whole _
  | succ count ih =>
      have powers : ∀ value, value / 64 ^ (count + 1 + 1) = value / 64 ^ (count + 1) / 64 := by
        intro value
        rw [Nat.pow_succ 64 (count + 1), Nat.div_div_eq_div_mul]
      rw [completes_part_iff]
      constructor
      · rintro ⟨byte, rest, rfl, low, high, later⟩
        rw [Partial.add_more byte owed, ih rfl (Nat.le_refl _) (Nat.le_refl _)] at later
        obtain ⟨value, bits, _, _, rfl, rfl⟩ := later
        have bits : value / 64 ^ (count + 1) = part.bits * 64 + (byte.toNat - 0x80) := bits
        have next : value / 64 ^ (count + 1) % 64 + 0x80 = byte.toNat := by omega
        refine ⟨value, ?_, ?_, ?_, ?_, rfl⟩
        · rw [powers, bits]
          omega
        · rwa [next]
        · rwa [next]
        · rw [continuation.eq_2 _ (count + 1), next, UInt8.ofNat_toNat]
      · rintro ⟨value, bits, low, high, rfl, rfl⟩
        rw [powers] at bits
        have byte : (UInt8.ofNat (value / 64 ^ (count + 1) % 64 + 0x80)).toNat =
            value / 64 ^ (count + 1) % 64 + 0x80 := toNat_byte (by omega)
        refine ⟨_, _, rfl, ?_, ?_, ?_⟩
        · rwa [byte]
        · rwa [byte]
        · rw [Partial.add_more _ owed, ih rfl (Nat.le_refl _) (Nat.le_refl _), byte]
          refine ⟨value, ?_, ?_, ?_, rfl, rfl⟩
          all_goals dsimp only
          · omega
          · omega
          · omega

end Completes

/-! ## Written and read characters are the same -/

section Inverse

variable {first : UInt8} {rest : List UInt8} {c : Char}

theorem completes_one_iff (most : first.toNat < 0x80) :
    Completes (lead first) rest c ↔ c.toNat = first.toNat ∧ rest = [] := by
  rw [lead_one most, completes_whole_iff]
  constructor
  · rintro ⟨rfl, char⟩
    refine ⟨?_, rfl⟩
    rw [char, toNat_char (.inl (by omega))]
  · rintro ⟨number, rfl⟩
    refine ⟨rfl, ?_⟩
    rw [← number, Char.ofNat_toNat]

theorem completes_two_iff (least : 0xC2 ≤ first.toNat) (most : first.toNat < 0xE0) :
    Completes (lead first) rest c ↔
      c.toNat / 64 + 0xC0 = first.toNat ∧ rest = continuation 1 c.toNat := by
  rw [lead_two least most, completes_iff_continuation 0 rfl (Nat.le_refl _) (Nat.le_refl _)]
  dsimp only
  constructor
  · rintro ⟨value, bits, _, _, rfl, char⟩
    have number : c.toNat = value := by
      rw [char, toNat_char (.inl (by omega))]
    rw [number]
    refine ⟨?_, rfl⟩
    omega
  · rintro ⟨byte, rfl⟩
    refine ⟨c.toNat, ?_, ?_, ?_, rfl, (Char.ofNat_toNat c).symm⟩
    · omega
    · omega
    · omega

theorem completes_three_iff (least : 0xE0 ≤ first.toNat) (most : first.toNat < 0xF0) :
    Completes (lead first) rest c ↔
      0x800 ≤ c.toNat ∧ c.toNat / 4096 + 0xE0 = first.toNat ∧
        rest = continuation 2 c.toNat := by
  have low : 0x80 ≤ if first.toNat = 0xE0 then 0xA0 else 0x80 := by split <;> decide
  have high : (if first.toNat = 0xED then 0x9F else 0xBF) ≤ 0xBF := by split <;> decide
  rw [lead_three least most, completes_iff_continuation 1 rfl low high]
  dsimp only
  constructor
  · rintro ⟨value, bits, low, high, rfl, char⟩
    have long : 0x800 ≤ value := by
      split at low
      · omega
      · omega
    have valid : value.isValidChar := by
      rw [Nat.isValidChar]
      split at high
      · omega
      · omega
    rw [char, toNat_char valid]
    refine ⟨long, ?_, rfl⟩
    omega
  · rintro ⟨long, byte, rfl⟩
    have valid := isValidChar_toNat c
    refine ⟨c.toNat, ?_, ?_, ?_, rfl, (Char.ofNat_toNat c).symm⟩
    · omega
    · split
      · omega
      · omega
    · split
      · omega
      · omega

theorem completes_four_iff (least : 0xF0 ≤ first.toNat) (most : first.toNat < 0xF5) :
    Completes (lead first) rest c ↔
      0x10000 ≤ c.toNat ∧ c.toNat / 262144 + 0xF0 = first.toNat ∧
        rest = continuation 3 c.toNat := by
  have low : 0x80 ≤ if first.toNat = 0xF0 then 0x90 else 0x80 := by split <;> decide
  have high : (if first.toNat = 0xF4 then 0x8F else 0xBF) ≤ 0xBF := by split <;> decide
  rw [lead_four least most, completes_iff_continuation 2 rfl low high]
  dsimp only
  constructor
  · rintro ⟨value, bits, low, high, rfl, char⟩
    have long : 0x10000 ≤ value := by
      split at low
      · omega
      · omega
    have short : value < 0x110000 := by
      split at high
      · omega
      · omega
    rw [char, toNat_char (.inr (by omega))]
    refine ⟨long, ?_, rfl⟩
    omega
  · rintro ⟨long, byte, rfl⟩
    have valid := isValidChar_toNat c
    refine ⟨c.toNat, ?_, ?_, ?_, rfl, (Char.ofNat_toNat c).symm⟩
    · omega
    · split
      · omega
      · omega
    · split
      · omega
      · omega

theorem encodeChar_of_completes (completes : Completes (lead first) rest c) :
    String.utf8EncodeChar c = first :: rest := by
  have bound : first.toNat < 256 := first.toNat_lt
  by_cases one : first.toNat < 0x80
  · obtain ⟨byte, rfl⟩ := (completes_one_iff one).mp completes
    rw [encodeChar_one (byte ▸ one), byte, UInt8.ofNat_toNat]
  by_cases two : 0xC2 ≤ first.toNat ∧ first.toNat < 0xE0
  · obtain ⟨byte, rfl⟩ := (completes_two_iff two.1 two.2).mp completes
    rw [encodeChar_two (by omega) (by omega), byte, UInt8.ofNat_toNat]
  by_cases three : 0xE0 ≤ first.toNat ∧ first.toNat < 0xF0
  · obtain ⟨long, byte, rfl⟩ := (completes_three_iff three.1 three.2).mp completes
    rw [encodeChar_three long (by omega), byte, UInt8.ofNat_toNat]
  by_cases four : 0xF0 ≤ first.toNat ∧ first.toNat < 0xF5
  · obtain ⟨long, byte, rfl⟩ := (completes_four_iff four.1 four.2).mp completes
    have valid := isValidChar_toNat c
    rw [encodeChar_four long (by omega), byte, UInt8.ofNat_toNat]
  · rw [lead_invalid (by omega)] at completes
    exact (not_completes_invalid completes).elim

theorem completes_of_encodeChar (written : String.utf8EncodeChar c = first :: rest) :
    Completes (lead first) rest c := by
  have valid := isValidChar_toNat c
  by_cases one : c.toNat < 0x80
  · rw [encodeChar_one one] at written
    obtain ⟨rfl, rfl⟩ := List.cons.inj written
    have byte : (UInt8.ofNat c.toNat).toNat = c.toNat := toNat_byte (by omega)
    exact (completes_one_iff (by omega)).mpr ⟨byte.symm, rfl⟩
  by_cases two : c.toNat < 0x800
  · rw [encodeChar_two (by omega) two] at written
    obtain ⟨rfl, rfl⟩ := List.cons.inj written
    have byte : (UInt8.ofNat (c.toNat / 64 + 0xC0)).toNat = c.toNat / 64 + 0xC0 :=
      toNat_byte (by omega)
    exact (completes_two_iff (by omega) (by omega)).mpr ⟨byte.symm, rfl⟩
  by_cases three : c.toNat < 0x10000
  · rw [encodeChar_three (by omega) three] at written
    obtain ⟨rfl, rfl⟩ := List.cons.inj written
    have byte : (UInt8.ofNat (c.toNat / 4096 + 0xE0)).toNat = c.toNat / 4096 + 0xE0 :=
      toNat_byte (by omega)
    exact (completes_three_iff (by omega) (by omega)).mpr ⟨by omega, byte.symm, rfl⟩
  · rw [encodeChar_four (by omega) (by omega)] at written
    obtain ⟨rfl, rfl⟩ := List.cons.inj written
    have byte : (UInt8.ofNat (c.toNat / 262144 + 0xF0)).toNat = c.toNat / 262144 + 0xF0 :=
      toNat_byte (by omega)
    exact (completes_four_iff (by omega) (by omega)).mpr ⟨by omega, byte.symm, rfl⟩

/-- The bytes that read as a character are the bytes in which it is written. -/
theorem completes_lead_iff :
    Completes (lead first) rest c ↔ String.utf8EncodeChar c = first :: rest :=
  ⟨encodeChar_of_completes, completes_of_encodeChar⟩

end Inverse

/-! ## Whole texts -/

theorem foldlM_visit_of_completes {came : Lead} {rest : List UInt8} {c : Char}
    (completes : Completes came rest c) (more : List UInt8) (byte : UInt8) :
    ∀ decoding : Decoding, ∃ position,
      (decoding.proceed byte came >>= (rest ++ more).foldlM Decoding.visit) =
        more.foldlM Decoding.visit ⟨position, c :: decoding.chars, none⟩ := by
  induction completes generalizing byte with
  | whole c => exact fun decoding => ⟨decoding.position + 1, rfl⟩
  | @part part next rest c low high later ih =>
      intro decoding
      have visited : Decoding.visit ⟨decoding.position + 1, decoding.chars, some part⟩ next =
          Decoding.proceed ⟨decoding.position + 1, decoding.chars, some part⟩ next
            (part.add next) := if_pos ⟨low, high⟩
      obtain ⟨position, read⟩ := ih next ⟨decoding.position + 1, decoding.chars, some part⟩
      refine ⟨position, ?_⟩
      rw [← visited] at read
      exact read

theorem foldlM_visit_encode (text : List Char) :
    ∀ position chars, ∃ position',
      (encode text).foldlM Decoding.visit ⟨position, chars, none⟩ =
        .ok ⟨position', text.reverse ++ chars, none⟩ := by
  induction text with
  | nil => exact fun position chars => ⟨position, rfl⟩
  | cons c text ih =>
      intro position chars
      obtain ⟨first, rest, written⟩ :=
        List.exists_cons_of_ne_nil (String.utf8EncodeChar_ne_nil (c := c))
      obtain ⟨behind, read⟩ := foldlM_visit_of_completes (completes_lead_iff.mpr written)
        (encode text) first ⟨position, chars, none⟩
      obtain ⟨position', later⟩ := ih behind (c :: chars)
      refine ⟨position', ?_⟩
      rw [encode_cons, written, List.cons_append, List.foldlM_cons, List.reverse_cons,
        List.append_assoc]
      exact read.trans later

/-- What is still to come when a byte came to something: the rest of a character, and a text. -/
def Continues (came : Lead) (bytes : List UInt8) (text : List Char) : Prop :=
  ∃ rest c more, bytes = rest ++ encode more ∧ text = c :: more ∧ Completes came rest c

def Remains : Option Partial → List UInt8 → List Char → Prop
  | none, bytes, text => bytes = encode text
  | some part, bytes, text => Continues (.part part) bytes text

theorem continues_of_proceed {decoding next : Decoding} {byte : UInt8} {came : Lead}
    {bytes : List UInt8} {chars text : List Char}
    (proceeded : decoding.proceed byte came = .ok next)
    (read : chars = text.reverse ++ next.chars) (remains : Remains next.pending bytes text) :
    ∃ text, chars = text.reverse ++ decoding.chars ∧ Continues came bytes text := by
  cases came with
  | whole c =>
      cases proceeded
      refine ⟨c :: text, ?_, [], c, text, remains, rfl, .whole c⟩
      rw [read, List.reverse_cons, List.append_assoc]
      rfl
  | part part =>
      cases proceeded
      exact ⟨text, read, remains⟩
  | invalid => cases proceeded

theorem remains_of_foldlM {bytes : List UInt8} {decoding last : Decoding}
    (read : bytes.foldlM Decoding.visit decoding = .ok last) (closed : last.pending = none) :
    ∃ text, last.chars = text.reverse ++ decoding.chars ∧ Remains decoding.pending bytes text := by
  induction bytes generalizing decoding with
  | nil =>
      cases read
      refine ⟨[], rfl, ?_⟩
      rw [closed]
      rfl
  | cons byte bytes ih =>
      rw [List.foldlM_cons] at read
      cases visited : decoding.visit byte with
      | error fault =>
          rw [visited] at read
          cases read
      | ok next =>
          rw [visited] at read
          obtain ⟨text, chars, remains⟩ := ih read
          rw [Decoding.visit] at visited
          cases pending : decoding.pending with
          | none =>
              simp only [pending] at visited
              obtain ⟨text, chars, rest, c, more, rfl, rfl, completes⟩ :=
                continues_of_proceed visited chars remains
              refine ⟨c :: more, chars, ?_⟩
              rw [Remains, encode_cons, completes_lead_iff.mp completes]
              rfl
          | some part =>
              simp only [pending] at visited
              split at visited
              · next within =>
                  obtain ⟨text, chars, rest, c, more, rfl, rfl, completes⟩ :=
                    continues_of_proceed visited chars remains
                  exact ⟨c :: more, chars, byte :: rest, c, more, rfl, rfl,
                    .part within.1 within.2 completes⟩
              · cases visited

theorem decode_of_foldlM {bytes : List UInt8} {last : Decoding}
    (folded : bytes.foldlM Decoding.visit ⟨0, [], none⟩ = .ok last) :
    decode bytes =
      match last.pending with
      | none => .ok last.chars.reverse
      | some part => .error (last.faultAt part .unexpectedEnd) := by
  rw [decode, folded]
  rfl

/-- Bytes are read as a text exactly when they are what the text is written in. -/
theorem decode_eq_ok_iff {bytes : List UInt8} {text : List Char} :
    decode bytes = .ok text ↔ bytes = encode text := by
  constructor
  · intro read
    cases folded : bytes.foldlM Decoding.visit ⟨0, [], none⟩ with
    | error fault =>
        rw [decode, folded] at read
        cases read
    | ok last =>
        rw [decode_of_foldlM folded] at read
        cases pending : last.pending with
        | some part =>
            rw [pending] at read
            cases read
        | none =>
            rw [pending] at read
            cases read
            obtain ⟨text, chars, remains⟩ := remains_of_foldlM folded pending
            rw [chars, List.append_nil, List.reverse_reverse]
            exact remains
  · rintro rfl
    obtain ⟨position, read⟩ := foldlM_visit_encode text 0 []
    rw [decode_of_foldlM read, List.append_nil]
    exact congrArg Except.ok text.reverse_reverse

end Utf8

end TapeMachine.Encoding
