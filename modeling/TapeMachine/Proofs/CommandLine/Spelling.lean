import TapeMachine.CommandLine.Item
import TapeMachine.Proofs.Text.Numeral

/-!
# Spellings of switches

A switch with two dashes may be shortened as long as no other switch begins with what is left, and
may have a value behind an equals sign.  The value of a switch with one dash may also stand right
behind its letter.

Main statements: what such an argument is sorted as.
-/

set_option autoImplicit false

namespace TapeMachine.CommandLine

open Text (Writes)

/-- A text that goes on from some beginning of a name, and is a beginning of the name itself. -/
structure Shortens (text least name : String) : Prop where
  enough : least.toList <+: text.toList
  fits : text.toList <+: name.toList

/-! ## Looking switches up -/

namespace Switch

theorem equals_notMem_spellings : ∀ entry ∈ spellings, '=' ∉ entry.1.toList := by
  decide

theorem not_any_isDigit_spellings :
    ∀ entry ∈ spellings, entry.1.toList.any Char.isDigit = false := by
  decide

theorem mem_spellings_of_ofName? {name : String} {switch : Switch}
    (found : ofName? name = some switch) : (name, switch) ∈ spellings := by
  obtain ⟨⟨name', switch'⟩, held, rfl⟩ := Option.map_eq_some_iff.mp found
  have same := List.find?_some held
  obtain rfl := of_decide_eq_true same
  exact List.mem_of_find?_eq_some held

theorem ofName?_of_equals {name : String} (equals : '=' ∈ name.toList) : ofName? name = none := by
  rw [Option.eq_none_iff_forall_ne_some]
  intro switch found
  exact equals_notMem_spellings _ (mem_spellings_of_ofName? found) equals

theorem ofName?_of_digit {name : String} {c : Char} (member : c ∈ name.toList)
    (digit : c.isDigit = true) : ofName? name = none := by
  rw [Option.eq_none_iff_forall_ne_some]
  intro switch found
  have noDigit := not_any_isDigit_spellings _ (mem_spellings_of_ofName? found)
  exact List.any_eq_false.mp noDigit c member digit

variable {text least name : String} {switch : Switch}

/-- What goes on from a beginning that only one spelling has, and still is a beginning of it, is a
beginning of no other. -/
theorem startingWith_of_shortens (only : startingWith least.toList = [(name, switch)])
    (shortens : Shortens text least name) : startingWith text.toList = [(name, switch)] := by
  have narrower : startingWith text.toList =
      (startingWith least.toList).filter fun entry => text.toList.isPrefixOf entry.1.toList := by
    rw [startingWith, startingWith, List.filter_filter]
    apply List.filter_congr
    intro entry _
    rw [Bool.eq_iff_iff, Bool.and_eq_true, List.isPrefixOf_iff_prefix, List.isPrefixOf_iff_prefix]
    exact ⟨fun begins => ⟨begins, shortens.enough.trans begins⟩, And.left⟩
  have fits : text.toList.isPrefixOf name.toList = true :=
    List.isPrefixOf_iff_prefix.mpr shortens.fits
  simp only [narrower, only, List.filter_cons, fits, if_true, List.filter_nil]

theorem equals_notMem_of_startingWith
    (only : startingWith text.toList = [(name, switch)]) : '=' ∉ text.toList := by
  have member : (name, switch) ∈ startingWith text.toList := by
    rw [only]
    exact List.mem_singleton_self _
  rw [startingWith, List.mem_filter, List.isPrefixOf_iff_prefix] at member
  exact fun equals => equals_notMem_spellings _ member.1 (member.2.subset equals)

/-- So a text like this is the full spelling of no other switch. -/
theorem eq_of_ofName? {found : Switch} (only : startingWith text.toList = [(name, switch)])
    (spelled : ofName? text = some found) : found = switch := by
  have member : (text, found) ∈ startingWith text.toList := by
    rw [startingWith, List.mem_filter]
    exact ⟨mem_spellings_of_ofName? spelled, List.isPrefixOf_iff_prefix.mpr List.prefix_rfl⟩
  rw [only, List.mem_singleton, Prod.mk.injEq] at member
  exact member.2

end Switch

/-! ## Sorting -/

namespace Item

theorem ne_equals_of_notMem {text : List Char} (plain : '=' ∉ text) :
    ∀ c ∈ text, decide (c ≠ '=') = true := by
  intro c member
  rw [decide_eq_true_eq]
  rintro rfl
  exact plain member

theorem splitAtEquals_of_notMem {text : List Char} (plain : '=' ∉ text) :
    splitAtEquals text = (text, none) := by
  have all := ne_equals_of_notMem plain
  rw [splitAtEquals, List.span_eq_takeWhile_dropWhile, List.takeWhile_eq_self_iff.mpr all,
    List.dropWhile_eq_nil_iff.mpr all]

theorem splitAtEquals_append {name : List Char} (plain : '=' ∉ name) (value : List Char) :
    splitAtEquals (name ++ '=' :: value) = (name, some value) := by
  have all := ne_equals_of_notMem plain
  rw [splitAtEquals, List.span_eq_takeWhile_dropWhile, List.takeWhile_append_of_pos all,
    List.dropWhile_append_of_pos all, List.takeWhile_cons_of_neg (by decide), List.append_nil,
    List.dropWhile_cons_of_neg (by decide)]

theorem ofArgument_of_head?_ne {text : String} (plain : text.toList.head? ≠ some '-') :
    ofArgument text = .ok (.word text) := by
  simp only [ofArgument, if_pos (Or.inl plain)]

section Dashed

variable {argument : String} {letter : Char} {rest : List Char} {item : Item}
  (dashed : argument.toList = '-' :: letter :: rest)

include dashed

theorem begins_of_dashed :
    ¬ (argument.toList.head? ≠ some '-' ∨ argument.toList.length = 1) := by
  rw [dashed]
  simp

theorem ofArgument_of_spelledOut (spelled : spelledOut? argument.toList = some item) :
    ofArgument argument = .ok item := by
  simp only [ofArgument, if_neg (begins_of_dashed dashed), spelled]

/-- An argument with a dash is what its only reading says, if it is spelled out as nothing else. -/
theorem ofArgument_of_readings {name : String}
    (spelled : ∀ found, spelledOut? argument.toList = some found → found = item)
    (read : readings argument.toList = [(name, item)]) : ofArgument argument = .ok item := by
  cases out : spelledOut? argument.toList with
  | some found =>
      rw [spelled found out] at out
      exact ofArgument_of_spelledOut dashed out
  | none => simp only [ofArgument, if_neg (begins_of_dashed dashed), out, read]

end Dashed

theorem readings_dashes (rest : List Char) :
    readings ('-' :: '-' :: rest) =
      (Switch.startingWith (splitAtEquals ('-' :: '-' :: rest)).1).map fun entry =>
        (entry.1, .known entry.2 false (splitAtEquals ('-' :: '-' :: rest)).2) := rfl

section Shortened

variable {text least name : String} {switch : Switch} {more : List Char}
  (dashed : least.toList = '-' :: '-' :: more)
  (only : Switch.startingWith least.toList = [(name, switch)])
  (shortens : Shortens text least name)

include dashed only shortens

theorem ofArgument_of_shortens : ofArgument text = .ok (.known switch false none) := by
  have begins := Switch.startingWith_of_shortens only shortens
  have plain := Switch.equals_notMem_of_startingWith begins
  obtain ⟨tail, whole⟩ := shortens.enough
  rw [dashed, List.cons_append, List.cons_append] at whole
  have read : readings text.toList = [(name, .known switch false none)] := by
    rw [← whole, readings_dashes, whole, splitAtEquals_of_notMem plain, begins]
    rfl
  refine ofArgument_of_readings whole.symm ?_ read
  intro found out
  rw [spelledOut?, String.ofList_toList] at out
  cases spelled : Switch.ofName? text with
  | some other =>
      obtain rfl := Switch.eq_of_ofName? begins spelled
      rw [spelled, ← whole] at out
      exact (Option.some.inj out).symm
  | none =>
      rw [spelled, splitAtEquals_of_notMem plain] at out
      cases out

theorem ofArgument_of_shortens_append (value : String) :
    ofArgument (text ++ "=" ++ value) = .ok (.known switch false (some value.toList)) := by
  have begins := Switch.startingWith_of_shortens only shortens
  have plain := Switch.equals_notMem_of_startingWith begins
  obtain ⟨tail, whole⟩ := shortens.enough
  rw [dashed, List.cons_append, List.cons_append] at whole
  have parts : (text ++ "=" ++ value).toList = text.toList ++ '=' :: value.toList := by
    simp
  have split := splitAtEquals_append plain value.toList
  have front : (text ++ "=" ++ value).toList =
      '-' :: '-' :: (more ++ tail ++ '=' :: value.toList) := by
    rw [parts, ← whole]
    rfl
  have read : readings (text ++ "=" ++ value).toList =
      [(name, .known switch false (some value.toList))] := by
    rw [front, readings_dashes, ← front, parts, split, begins]
    rfl
  refine ofArgument_of_readings front ?_ read
  intro found out
  have unspelled : Switch.ofName? (text ++ "=" ++ value) = none :=
    Switch.ofName?_of_equals (parts ▸ by simp)
  rw [spelledOut?, String.ofList_toList, unspelled, parts, split] at out
  obtain ⟨other, spelled, rfl⟩ := Option.map_eq_some_iff.mp out
  rw [String.ofList_toList] at spelled
  obtain rfl := Switch.eq_of_ofName? begins spelled
  rw [← whole]
  rfl

end Shortened

/-! ## The letter for the number of cells -/

theorem ofArgument_letter_equals (text : String) :
    ofArgument ("-c=" ++ text) = .ok (.known .cells true (some text.toList)) := by
  have parts : ("-c=" ++ text).toList = ['-', 'c'] ++ '=' :: text.toList := by
    simp
  have unspelled : Switch.ofName? ("-c=" ++ text) = none :=
    Switch.ofName?_of_equals (parts ▸ by simp)
  apply ofArgument_of_spelledOut parts
  rw [spelledOut?, String.ofList_toList, unspelled, parts, splitAtEquals_append (by decide)]
  rfl

variable {text : String} {count : Nat}

theorem ofArgument_letter_append (writes : Writes text count) :
    ofArgument ("-c" ++ text) = .ok (.known .cells true (some text.toList)) := by
  obtain ⟨c, rest, whole⟩ := List.exists_cons_of_ne_nil writes.nonempty
  have member : c ∈ text.toList := whole ▸ List.mem_cons_self ..
  have parts : ("-c" ++ text).toList = '-' :: 'c' :: text.toList := by
    simp
  have plain : '=' ∉ '-' :: 'c' :: text.toList := by
    simp only [List.mem_cons, not_or]
    refine ⟨by decide, by decide, ?_⟩
    intro equals
    exact absurd (writes.digits _ equals) (by decide)
  have read : readings ("-c" ++ text).toList =
      [("-c", .known .cells true (some text.toList))] := by
    rw [parts]
    rfl
  refine ofArgument_of_readings parts ?_ read
  intro found out
  have unspelled : Switch.ofName? ("-c" ++ text) = none :=
    Switch.ofName?_of_digit (parts ▸ by simp [member]) (writes.digits c member)
  rw [spelledOut?, String.ofList_toList, unspelled, parts, splitAtEquals_of_notMem plain] at out
  cases out

theorem ofArgument_of_writes (writes : Writes text count) :
    ofArgument text = .ok (.word text) := by
  obtain ⟨c, rest, whole⟩ := List.exists_cons_of_ne_nil writes.nonempty
  have first : c.isDigit = true := writes.digits c (whole ▸ List.mem_cons_self ..)
  apply ofArgument_of_head?_ne
  rw [whole, List.head?_cons]
  exact fun same => Text.ne_of_isDigit first (by decide) (Option.some.inj same)

end Item

end TapeMachine.CommandLine
