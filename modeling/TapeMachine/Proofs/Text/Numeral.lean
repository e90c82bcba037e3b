import Mathlib.Data.List.TakeDrop
import Mathlib.Data.List.TakeWhile
import TapeMachine.Text.Numeral

/-!
# Plain numerals

A number that is written with digits of ASCII and nothing else is read as this number, unless it has
more digits than may be read.
-/

set_option autoImplicit false

namespace TapeMachine.Text

/-- A text that writes a number with decimal digits of ASCII, the most significant one first, and
with no more of them than may be read. -/
structure Writes (text : String) (number : Nat) : Prop where
  nonempty : text.toList ≠ []
  digits : ∀ c ∈ text.toList, c.isDigit = true
  short : text.length ≤ 4300
  value : Nat.ofDigitChars 10 text.toList 0 = number

/-- The usual way to write a number, which begins with no zero that could be left out. -/
theorem writes_toString {number : Nat} (short : (toString number).length ≤ 4300) :
    Writes (toString number) number where
  nonempty := by
    rw [Nat.toString_eq_repr, Nat.toList_repr]
    exact Nat.toDigits_ne_nil
  digits := by
    intro c member
    rw [Nat.toString_eq_repr, Nat.toList_repr] at member
    exact Nat.isDigit_of_mem_toDigits (by decide) (by decide) member
  short := short
  value := by
    rw [Nat.toString_eq_repr, Nat.toList_repr]
    exact Nat.ofDigitChars_ten_toDigits

/-! ## Digits of ASCII -/

section Digit

variable {c : Char}

theorem toNat_of_isDigit (digit : c.isDigit = true) : 48 ≤ c.toNat ∧ c.toNat ≤ 57 := by
  simp only [Char.isDigit, Bool.and_eq_true, decide_eq_true_eq] at digit
  obtain ⟨lower, upper⟩ := digit
  exact ⟨UInt32.le_iff_toNat_le.mp lower, UInt32.le_iff_toNat_le.mp upper⟩

theorem digitValue?_of_isDigit (digit : c.isDigit = true) :
    digitValue? c = some (c.toNat - 48) := by
  obtain ⟨lower, upper⟩ := toNat_of_isDigit digit
  have inRun : ((0x30 ≤ c.toNat && c.toNat < 0x30 + 10) : Bool) = true := by
    simp only [Bool.and_eq_true, decide_eq_true_eq]
    omega
  have runs : digitZeros = 0x30 :: digitZeros.tail := rfl
  rw [digitValue?, runs, List.find?_cons, inRun]
  rfl

theorem isDigit_of_isDigit (digit : c.isDigit = true) : isDigit c = true := by
  rw [isDigit, digitValue?_of_isDigit digit]
  rfl

theorem isBlank_of_isDigit (digit : c.isDigit = true) : isBlank c = false := by
  obtain ⟨lower, upper⟩ := toNat_of_isDigit digit
  simp only [isBlank, Bool.or_eq_false_iff, Bool.and_eq_false_iff, decide_eq_false_iff_not,
    beq_eq_false_iff_ne]
  omega

theorem ne_of_isDigit (digit : c.isDigit = true) {other : Char} (noDigit : other.isDigit = false) :
    c ≠ other := by
  rintro rfl
  rw [digit] at noDigit
  cases noDigit

end Digit

namespace Numeral

variable {text : List Char}

theorem isGrouped_of_digits (digits : ∀ c ∈ text, c.isDigit = true) (afterDigit : Bool) :
    isGrouped afterDigit text = (afterDigit || !text.isEmpty) := by
  induction text generalizing afterDigit with
  | nil => simp [isGrouped]
  | cons c rest ih =>
      have first := digits c (List.mem_cons_self ..)
      rw [isGrouped, if_neg (ne_of_isDigit first (by decide)),
        ih fun d member => digits d (List.mem_cons_of_mem c member)]
      simp

theorem filterMap_digitValue? (digits : ∀ c ∈ text, c.isDigit = true) :
    text.filterMap digitValue? = text.map fun c => c.toNat - 48 := by
  induction text with
  | nil => rfl
  | cons c rest ih =>
      rw [List.filterMap_cons_some (digitValue?_of_isDigit (digits c (List.mem_cons_self ..))),
        ih fun d member => digits d (List.mem_cons_of_mem c member), List.map_cons]

theorem valueOf_map (text : List Char) :
    valueOf (text.map fun c => c.toNat - 48) = Nat.ofDigitChars 10 text 0 := by
  rw [valueOf, List.foldl_map, Nat.ofDigitChars_eq_foldl]
  rfl

theorem takeSign_of_digit {c : Char} (digit : c.isDigit = true) (rest : List Char) :
    takeSign (c :: rest) = (false, c :: rest) := by
  have minus : c ≠ '-' := ne_of_isDigit digit (by decide)
  have plus : c ≠ '+' := ne_of_isDigit digit (by decide)
  simp [takeSign, minus, plus]

theorem read_of_writes {text : String} {number : Nat} (writes : Writes text number) :
    read text.toList = .ok number := by
  obtain ⟨nonempty, digits, short, value⟩ := writes
  obtain ⟨c, rest, whole⟩ := List.exists_cons_of_ne_nil nonempty
  have first : c.isDigit = true := digits c (whole ▸ List.mem_cons_self ..)
  have notBlank : ¬ isBlank c = true := by
    rw [isBlank_of_isDigit first]
    exact Bool.false_ne_true
  have body : ∀ d ∈ text.toList, (isDigit d || decide (d = '_')) = true := by
    intro d member
    rw [isDigit_of_isDigit (digits d member), Bool.true_or]
  have noBlanks : text.toList.dropWhile isBlank = text.toList := by
    rw [whole, List.dropWhile_cons_of_neg notBlank]
  have noSign : takeSign text.toList = (false, text.toList) := by
    rw [whole, takeSign_of_digit first]
  have length : (text.toList.map fun c => c.toNat - 48).length ≤ 4300 := by
    rw [List.length_map, String.length_toList]
    exact short
  have grouped : isGrouped false text.toList = true := by
    rw [isGrouped_of_digits digits, whole]
    rfl
  simp only [read, noBlanks, noSign, List.span_eq_takeWhile_dropWhile,
    List.takeWhile_eq_self_iff.mpr body, List.dropWhile_eq_nil_iff.mpr body,
    filterMap_digitValue? digits, grouped, valueOf_map, value, digitLimit,
    if_neg (Nat.not_lt.mpr length)]
  rfl

end Numeral

end TapeMachine.Text
