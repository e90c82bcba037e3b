import Mathlib.Data.List.Basic
import TapeMachine.Fault.Advice

/-!
# Searching a text

A search finds the contiguous parts of a text.  Where a text is put together from pieces, most of
its pieces can be left out of a search: those without the first or without the last character that
is looked for.  A character that the words lack parts the text into two that are searched apart.
-/

set_option autoImplicit false

namespace TapeMachine.Text

theorem occurs_iff (part text : List Char) : occurs part text = true ↔ part <:+: text := by
  induction text with
  | nil => simp [occurs]
  | cons c rest ih => simp [occurs, ih, List.infix_cons_iff]

/-! ## Parts of a text put together from pieces -/

section Pieces
variable {c : Char} {part : List Char}

theorem not_isInfix_of_notMem {text : List Char} (member : c ∈ part) (absent : c ∉ text) :
    ¬ part <:+: text := fun inside => absent (inside.subset member)

/-- Words do not begin in a piece without their first character. -/
theorem isInfix_append_left_iff {front : List Char} (absent : c ∉ front) (text : List Char) :
    c :: part <:+: front ++ text ↔ c :: part <:+: text := by
  induction front with
  | nil => rfl
  | cons d front ih =>
      obtain ⟨other, absent⟩ := not_or.mp (mt List.mem_cons.mpr absent)
      rw [List.cons_append, List.infix_cons_iff, List.cons_prefix_cons, ih absent]
      exact or_iff_right fun begins => other begins.1

/-- Words do not end in a piece without their last character. -/
theorem isInfix_append_right_iff {back : List Char} (absent : c ∉ back) (text : List Char) :
    part ++ [c] <:+: text ++ back ↔ part ++ [c] <:+: text := by
  have absent' : c ∉ back.reverse := fun member => absent (List.mem_reverse.mp member)
  have backwards : ∀ other : List Char,
      part ++ [c] <:+: other ↔ c :: part.reverse <:+: other.reverse := by
    intro other
    rw [← List.reverse_infix, List.reverse_append, List.reverse_singleton, List.singleton_append]
  rw [backwards, List.reverse_append, isInfix_append_left_iff absent', ← backwards]

theorem isPrefix_append_cons_iff (absent : c ∉ part) (front back : List Char) :
    part <+: front ++ c :: back ↔ part <+: front := by
  constructor
  · intro begins
    rcases List.prefix_or_prefix_of_prefix begins (List.prefix_append ..) with inside | ⟨rest, rfl⟩
    · exact inside
    · rw [List.prefix_append_right_inj, List.prefix_cons_iff] at begins
      rcases begins with rfl | ⟨_, rfl, _⟩
      · simp
      · simp at absent
  · intro begins
    exact begins.trans (List.prefix_append ..)

/-- Words that lack a character lie on one side of it. -/
theorem isInfix_append_cons_iff (absent : c ∉ part) (front back : List Char) :
    part <:+: front ++ c :: back ↔ part <:+: front ∨ part <:+: back := by
  induction front with
  | nil =>
      have begins := isPrefix_append_cons_iff absent [] back
      rw [List.nil_append] at begins ⊢
      rw [List.infix_cons_iff, begins, List.prefix_nil, List.infix_nil]
  | cons d front ih =>
      have begins := isPrefix_append_cons_iff absent (d :: front) back
      rw [List.cons_append] at begins ⊢
      rw [List.infix_cons_iff, begins, ih, List.infix_cons_iff, or_assoc]

end Pieces

/-! ## Letter case aside -/

def lowered (text : String) : List Char := text.toList.map Char.toLower

theorem lowered_append (text more : String) :
    lowered (text ++ more) = lowered text ++ lowered more := by
  simp [lowered]

/-- Whether some words, given in lower case, occur in a text, letter case aside. -/
def Mentions (text words : String) : Prop := words.toList <:+: lowered text

instance (text words : String) : Decidable (Mentions text words) :=
  decidable_of_iff (occurs words.toList (lowered text) = true) (occurs_iff _ _)

theorem mentions_append_left {text words : String} (mentions : Mentions text words)
    (more : String) : Mentions (text ++ more) words := by
  rw [Mentions, lowered_append]
  exact List.infix_append_of_infix_left mentions

theorem mentions_append_right {text words : String} (mentions : Mentions text words)
    (before : String) : Mentions (before ++ text) words := by
  rw [Mentions, lowered_append]
  exact List.infix_append_of_infix_right mentions

theorem toLower_of_isDigit {c : Char} (isDigit : c.isDigit = true) : c.toLower = c := by
  simp only [Char.isDigit, Bool.and_eq_true, decide_eq_true_eq] at isDigit
  unfold Char.toLower
  rw [dif_neg]
  rintro ⟨lower, _⟩
  exact absurd (UInt32.le_trans lower isDigit.2) (by decide)

theorem isDigit_or_eq_of_mem_lowered {c : Char} {number : Int}
    (member : c ∈ lowered (toString number)) : c.isDigit = true ∨ c = '-' := by
  have natural : ∀ {n : Nat}, c ∈ lowered (toString n) → c.isDigit = true := by
    intro n member
    rw [lowered, Nat.toString_eq_repr, Nat.toList_repr] at member
    obtain ⟨d, inDigits, rfl⟩ := List.mem_map.mp member
    have isDigit := Nat.isDigit_of_mem_toDigits (by decide) (by decide) inDigits
    rwa [toLower_of_isDigit isDigit]
  cases number with
  | ofNat n => exact Or.inl (natural member)
  | negSucc n =>
      have split : toString (Int.negSucc n) = "-" ++ toString (n + 1) := rfl
      rw [split, lowered_append, List.mem_append] at member
      rcases member with sign | digits
      · exact Or.inr (List.mem_singleton.mp sign)
      · exact Or.inl (natural digits)

theorem notMem_lowered_number {c : Char} (other : c.isDigit = false) (other' : c ≠ '-')
    (number : Int) : c ∉ lowered (toString number) := by
  intro member
  rcases isDigit_or_eq_of_mem_lowered member with isDigit | sign
  · rw [other] at isDigit
    cases isDigit
  · exact other' sign

end TapeMachine.Text
