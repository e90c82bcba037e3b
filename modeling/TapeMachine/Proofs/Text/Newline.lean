import TapeMachine.Text.Newline

/-!
# Unified line ends

Line ends are unified in one pass from the end of a text.  It comes to the same as replacing first
each carriage return that has a line feed behind it, together with the line feed, and then every
carriage return that is left.
-/

set_option autoImplicit false

namespace TapeMachine.Text

/-! ## The pass, character by character -/

/-- What the pass keeps in mind is whether the text it has seen begins with a line feed. -/
theorem foldr_unifyBefore (text : List Char) :
    text.foldr unifyBefore ([], false) =
      (unifyLineEnds text, decide (text.head? = some '\n')) := by
  cases text with
  | nil => rfl
  | cons c rest =>
      rw [unifyLineEnds, List.foldr_cons, unifyBefore]
      split
      · next returns =>
          subst returns
          rfl
      · simp

theorem unifyLineEnds_cons (c : Char) (rest : List Char) :
    unifyLineEnds (c :: rest) =
      (unifyBefore c (unifyLineEnds rest, decide (rest.head? = some '\n'))).1 := by
  rw [unifyLineEnds, List.foldr_cons, foldr_unifyBefore]

theorem unifyLineEnds_of_ne {c : Char} (other : c ≠ '\r') (rest : List Char) :
    unifyLineEnds (c :: rest) = c :: unifyLineEnds rest := by
  rw [unifyLineEnds_cons, unifyBefore, if_neg other]

theorem unifyLineEnds_lineFeed (rest : List Char) :
    unifyLineEnds ('\n' :: rest) = '\n' :: unifyLineEnds rest :=
  unifyLineEnds_of_ne (by decide) rest

theorem unifyLineEnds_pair (rest : List Char) :
    unifyLineEnds ('\r' :: '\n' :: rest) = '\n' :: unifyLineEnds rest := by
  rw [unifyLineEnds_cons, unifyLineEnds_lineFeed]
  rfl

theorem unifyLineEnds_return {rest : List Char} (alone : rest.head? ≠ some '\n') :
    unifyLineEnds ('\r' :: rest) = '\n' :: unifyLineEnds rest := by
  rw [unifyLineEnds_cons, decide_eq_false alone]
  rfl

/-! ## Two replacements in a row -/

/-- The text with a line feed for each carriage return and line feed in a row. -/
def joinLineEnds : List Char → List Char
  | [] => []
  | '\r' :: '\n' :: rest => '\n' :: joinLineEnds rest
  | c :: rest => c :: joinLineEnds rest

def feedReturns (text : List Char) : List Char := text.map fun c => if c = '\r' then '\n' else c

theorem unifyLineEnds_eq (text : List Char) :
    unifyLineEnds text = feedReturns (joinLineEnds text) := by
  fun_induction joinLineEnds text with
  | case1 => rfl
  | case2 rest ih =>
      rw [unifyLineEnds_pair, ih]
      rfl
  | case3 c rest unpaired ih =>
      by_cases returns : c = '\r'
      · subst returns
        have alone : rest.head? ≠ some '\n' := by
          intro feed
          obtain ⟨more, same⟩ := List.head?_eq_some_iff.mp feed
          exact unpaired more rfl same
        rw [unifyLineEnds_return alone, ih]
        rfl
      · rw [unifyLineEnds_of_ne returns, ih]
        exact congrArg (List.cons · _) (if_neg returns).symm

/-! ## Texts whose carriage returns belong to line feeds -/

/-- Every carriage return has a line feed right behind it. -/
def ReturnsPaired (text : List Char) : Prop :=
  ∀ index, text[index]? = some '\r' → text[index + 1]? = some '\n'

instance (text : List Char) : Decidable (ReturnsPaired text) :=
  decidable_of_iff
    (∀ index < text.length, text[index]? = some '\r' → text[index + 1]? = some '\n')
    ⟨fun paired index returns =>
        paired index (List.getElem?_eq_some_iff.mp returns).choose returns,
      fun paired index _ => paired index⟩

namespace ReturnsPaired

variable {c : Char} {rest : List Char}

theorem tail (paired : ReturnsPaired (c :: rest)) : ReturnsPaired rest :=
  fun index => paired (index + 1)

theorem exists_of_return (paired : ReturnsPaired ('\r' :: rest)) : ∃ more, rest = '\n' :: more := by
  have next : rest[0]? = some '\n' := paired 0 rfl
  rw [← List.head?_eq_getElem?] at next
  exact List.head?_eq_some_iff.mp next

end ReturnsPaired

end TapeMachine.Text
