import TapeMachine.Encoding.Utf16
import TapeMachine.Proofs.Encoding.Utf8

/-!
# UTF-16 read and written

A character is written as one unit, or as a pair of surrogates that share its bits out; no unit of
its own is a surrogate, so a reader sees which of the two it has before it.

Main statement: reading accepts exactly what writing produces, and gives back what was written.
-/

set_option autoImplicit false

namespace TapeMachine.Encoding.Utf16

/-! ## Bytes and units -/

namespace ByteOrder

def bytes (order : ByteOrder) (unit : Nat) : List UInt8 :=
  match order with
  | little => [UInt8.ofNat (unit % 256), UInt8.ofNat (unit / 256)]
  | big => [UInt8.ofNat (unit / 256), UInt8.ofNat (unit % 256)]

theorem unit_lt (order : ByteOrder) (first second : UInt8) :
    order.unit first second < 0x10000 := by
  have lower : first.toNat < 256 := first.toNat_lt
  have upper : second.toNat < 256 := second.toNat_lt
  cases order with
  | little =>
      rw [unit]
      omega
  | big =>
      rw [unit]
      omega

theorem bytes_unit (order : ByteOrder) (first second : UInt8) :
    order.bytes (order.unit first second) = [first, second] := by
  have lower : first.toNat < 256 := first.toNat_lt
  have upper : second.toNat < 256 := second.toNat_lt
  cases order with
  | little =>
      have rest : (first.toNat + 256 * second.toNat) % 256 = first.toNat := by omega
      have quotient : (first.toNat + 256 * second.toNat) / 256 = second.toNat := by omega
      rw [unit, bytes]
      simp only [rest, quotient, UInt8.ofNat_toNat]
  | big =>
      have rest : (256 * first.toNat + second.toNat) % 256 = second.toNat := by omega
      have quotient : (256 * first.toNat + second.toNat) / 256 = first.toNat := by omega
      rw [unit, bytes]
      simp only [rest, quotient, UInt8.ofNat_toNat]

theorem exists_bytes (order : ByteOrder) {number : Nat} (bound : number < 0x10000) :
    ∃ first second, order.bytes number = [first, second] ∧ order.unit first second = number := by
  have quotient : (UInt8.ofNat (number / 256)).toNat = number / 256 := toNat_byte (by omega)
  have rest : (UInt8.ofNat (number % 256)).toNat = number % 256 := toNat_byte (by omega)
  cases order with
  | little =>
      refine ⟨_, _, rfl, ?_⟩
      rw [unit, quotient, rest]
      exact Nat.mod_add_div number 256
  | big =>
      refine ⟨_, _, rfl, ?_⟩
      rw [unit, quotient, rest]
      exact Nat.div_add_mod number 256

end ByteOrder

/-! ## Units and characters -/

theorem isHigh_iff {unit : Nat} : isHigh unit = true ↔ 0xD800 ≤ unit ∧ unit < 0xDC00 := by
  simp [isHigh]

theorem isLow_iff {unit : Nat} : isLow unit = true ↔ 0xDC00 ≤ unit ∧ unit < 0xE000 := by
  simp [isLow]

def units (c : Char) : List Nat :=
  if c.toNat < 0x10000 then [c.toNat]
  else [0xD800 + (c.toNat - 0x10000) / 0x400, 0xDC00 + (c.toNat - 0x10000) % 0x400]

def encode (order : ByteOrder) (text : List Char) : List UInt8 :=
  text.flatMap fun c => (units c).flatMap order.bytes

theorem encode_cons (order : ByteOrder) (c : Char) (text : List Char) :
    encode order (c :: text) = (units c).flatMap order.bytes ++ encode order text :=
  List.flatMap_cons

theorem units_ofNat {unit : Nat} (bound : unit < 0x10000) (noHigh : isHigh unit = false)
    (noLow : isLow unit = false) : units (Char.ofNat unit) = [unit] := by
  rw [Bool.eq_false_iff, ne_eq, isHigh_iff] at noHigh
  rw [Bool.eq_false_iff, ne_eq, isLow_iff] at noLow
  have number : (Char.ofNat unit).toNat = unit := by
    apply toNat_char
    rw [Nat.isValidChar]
    omega
  rw [units, number, if_pos bound]

theorem units_pairChar {high low : Nat} (isHigh : isHigh high = true) (isLow : isLow low = true) :
    units (pairChar high low) = [high, low] := by
  rw [isHigh_iff] at isHigh
  rw [isLow_iff] at isLow
  have number : (pairChar high low).toNat = 0x10000 + (high - 0xD800) * 0x400 + (low - 0xDC00) :=
    toNat_char (.inr (by omega))
  have large : ¬ (pairChar high low).toNat < 0x10000 := by omega
  have upper : 0xD800 + ((pairChar high low).toNat - 0x10000) / 0x400 = high := by omega
  have lower : 0xDC00 + ((pairChar high low).toNat - 0x10000) % 0x400 = low := by omega
  rw [units, if_neg large, upper, lower]

/-! ## Reading -/

section Reading

variable (order : ByteOrder) (position : Nat) (chars : List Char) (first second : UInt8)
  (rest : List UInt8)

theorem decodeFrom_single (noHigh : isHigh (order.unit first second) = false)
    (noLow : isLow (order.unit first second) = false) :
    decodeFrom order position chars (first :: second :: rest) =
      decodeFrom order (position + 2) (Char.ofNat (order.unit first second) :: chars) rest := by
  rw [decodeFrom.eq_def]
  simp only [noHigh, noLow, Bool.false_eq_true, if_false]

theorem decodeFrom_pair (third fourth : UInt8) (high : isHigh (order.unit first second) = true)
    (low : isLow (order.unit third fourth) = true) :
    decodeFrom order position chars (first :: second :: third :: fourth :: rest) =
      decodeFrom order (position + 4)
        (pairChar (order.unit first second) (order.unit third fourth) :: chars) rest := by
  have noLow : isLow (order.unit first second) = false := by
    rw [isHigh_iff] at high
    rw [Bool.eq_false_iff, ne_eq, isLow_iff]
    omega
  rw [decodeFrom.eq_def]
  simp only [high, low, noLow, Bool.false_eq_true, if_true, if_false]

end Reading

/-- A character is read from its units, and reading goes on behind it. -/
theorem exists_decodeFrom_units (order : ByteOrder) (c : Char) (position : Nat)
    (chars : List Char) (rest : List UInt8) :
    ∃ position', decodeFrom order position chars ((units c).flatMap order.bytes ++ rest) =
      decodeFrom order position' (c :: chars) rest := by
  have valid := isValidChar_toNat c
  rw [units]
  by_cases single : c.toNat < 0x10000
  · obtain ⟨first, second, bytes, unit⟩ := order.exists_bytes single
    have noHigh : isHigh c.toNat = false := by
      rw [Bool.eq_false_iff, ne_eq, isHigh_iff]
      omega
    have noLow : isLow c.toNat = false := by
      rw [Bool.eq_false_iff, ne_eq, isLow_iff]
      omega
    have read := decodeFrom_single order position chars first second rest
    rw [unit, Char.ofNat_toNat] at read
    refine ⟨position + 2, ?_⟩
    rw [if_pos single, List.flatMap_singleton, bytes]
    exact read noHigh noLow
  · have high : 0xD800 + (c.toNat - 0x10000) / 0x400 < 0x10000 := by omega
    have low : 0xDC00 + (c.toNat - 0x10000) % 0x400 < 0x10000 := by omega
    obtain ⟨first, second, upper, highUnit⟩ := order.exists_bytes high
    obtain ⟨third, fourth, lower, lowUnit⟩ := order.exists_bytes low
    have read := decodeFrom_pair order position chars first second rest third fourth
    have char : pairChar (0xD800 + (c.toNat - 0x10000) / 0x400)
        (0xDC00 + (c.toNat - 0x10000) % 0x400) = c := by
      have number : 0x10000 + (0xD800 + (c.toNat - 0x10000) / 0x400 - 0xD800) * 0x400 +
          (0xDC00 + (c.toNat - 0x10000) % 0x400 - 0xDC00) = c.toNat := by omega
      rw [pairChar, number, Char.ofNat_toNat]
    rw [highUnit, lowUnit, char, isHigh_iff, isLow_iff] at read
    refine ⟨position + 4, ?_⟩
    rw [if_neg single, List.flatMap_cons, List.flatMap_singleton, upper, lower]
    exact read (by omega) (by omega)

theorem decodeFrom_encode (order : ByteOrder) (text : List Char) :
    ∀ position chars, decodeFrom order position chars (encode order text) =
      .ok (chars.reverse ++ text) := by
  induction text with
  | nil =>
      intro position chars
      rw [List.append_nil]
      rfl
  | cons c text ih =>
      intro position chars
      obtain ⟨position', read⟩ :=
        exists_decodeFrom_units order c position chars (encode order text)
      rw [encode_cons, read, ih, List.reverse_cons, List.append_assoc]
      rfl

theorem exists_of_decodeFrom {order : ByteOrder} {position : Nat} {chars text : List Char}
    {bytes : List UInt8} (read : decodeFrom order position chars bytes = .ok text) :
    ∃ more, text = chars.reverse ++ more ∧ bytes = encode order more := by
  fun_induction decodeFrom order position chars bytes with
  | case1 position chars =>
      cases read
      exact ⟨[], (List.append_nil _).symm, rfl⟩
  | case4 position chars first second unit noLow high third fourth rest next low ih =>
      obtain ⟨more, rfl, rfl⟩ := ih read
      refine ⟨pairChar unit next :: more, ?_, ?_⟩
      · rw [List.reverse_cons, List.append_assoc]
        rfl
      · rw [encode_cons, units_pairChar high low, List.flatMap_cons, List.flatMap_singleton,
          order.bytes_unit, order.bytes_unit]
        rfl
  | case7 position chars first second rest unit noLow noHigh ih =>
      obtain ⟨more, rfl, rfl⟩ := ih read
      refine ⟨Char.ofNat unit :: more, ?_, ?_⟩
      · rw [List.reverse_cons, List.append_assoc]
        rfl
      · rw [encode_cons, units_ofNat (order.unit_lt first second) (Bool.eq_false_iff.mpr noHigh)
          (Bool.eq_false_iff.mpr noLow), List.flatMap_singleton, order.bytes_unit]
        rfl
  | case2 | case3 | case5 | case6 => cases read

/-- Bytes are read as a text exactly when they are what the text is written in. -/
theorem decode_eq_ok_iff {order : ByteOrder} {bytes : List UInt8} {text : List Char} :
    decode order bytes = .ok text ↔ bytes = encode order text := by
  constructor
  · intro read
    obtain ⟨more, rfl, written⟩ := exists_of_decodeFrom read
    exact written
  · rintro rfl
    exact decodeFrom_encode order text 0 []

end TapeMachine.Encoding.Utf16
