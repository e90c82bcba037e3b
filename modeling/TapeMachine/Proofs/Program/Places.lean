import TapeMachine.Proofs.Program.Scan
import TapeMachine.Proofs.Text.Reading

/-!
# The places of scanned instructions

A scan counts lines and columns as it goes.  The places it gives are those that a look-up of each
offset gives, and those at which the lines of the text hold the characters.

Main statement: the instructions of a text are its command characters in order, each at its own
place, and no command character is left out.
-/

set_option autoImplicit false

namespace TapeMachine

namespace Command

def symbols : List Char := ['>', '<', '+', '-', '.', ',', '[', ']']

theorem symbol_mem_symbols (command : Command) : command.symbol ∈ symbols := by
  cases command <;> decide

theorem exists_of_mem_symbols {c : Char} (isSymbol : c ∈ symbols) :
    ∃ command, ofChar? c = some command := by
  simp only [symbols, List.mem_cons, List.not_mem_nil, or_false] at isSymbol
  rcases isSymbol with rfl | rfl | rfl | rfl | rfl | rfl | rfl | rfl
  all_goals exact ⟨_, rfl⟩

theorem map_symbol_ofChar? (c : Char) :
    (ofChar? c).map symbol = Option.guard (symbols.contains ·) c := by
  cases read : ofChar? c with
  | some command =>
      obtain rfl := symbol_of_ofChar? read
      simp [Option.guard, symbol_mem_symbols]
  | none =>
      have other : c ∉ symbols := by
        intro isSymbol
        obtain ⟨command, read'⟩ := exists_of_mem_symbols isSymbol
        simp [read] at read'
      simp [Option.guard, other]

end Command

namespace Instruction

theorem scanFrom_append (place : Place) (text more : List Char) :
    scanFrom place (text ++ more) =
      scanFrom place text ++ scanFrom (text.foldl Place.after place) more := by
  induction text generalizing place with
  | nil => rfl
  | cons c rest ih =>
      rw [List.cons_append, scanFrom, scanFrom, ih, List.foldl_cons]
      cases Command.ofChar? c with
      | none => rfl
      | some command => rfl

/-- The symbols of the instructions are the command characters of the text. -/
theorem map_symbol_scan (text : List Char) :
    (scan text).map (fun instruction => instruction.command.symbol) =
      text.filter (Command.symbols.contains ·) := by
  have split : (fun instruction : Instruction => instruction.command.symbol) =
      Command.symbol ∘ command := rfl
  rw [split, ← List.map_map, commands_scan, List.map_filterMap, ← List.filterMap_eq_filter]
  exact congrArg (List.filterMap · text) (funext Command.map_symbol_ofChar?)

/-- Scanning on from some offset looks the place of every command up. -/
theorem scanFrom_eq_filterMap (before rest : List Char) :
    scanFrom (Place.afterText before) rest =
      (rest.zipIdx before.length).filterMap fun entry =>
        (Command.ofChar? entry.1).map fun command =>
          ⟨command, Place.locate (before ++ rest) entry.2⟩ := by
  induction rest generalizing before with
  | nil => rfl
  | cons c rest ih =>
      have here : Place.afterText before = Place.locate (before ++ c :: rest) before.length :=
        (Place.locate_append before (c :: rest)).symm
      have next : (Place.afterText before).after c = Place.afterText (before ++ [c]) := by
        rw [Place.afterText_append]
        rfl
      have later := ih (before ++ [c])
      rw [List.length_append, List.length_singleton, ← List.append_cons] at later
      rw [scanFrom, next, later, List.zipIdx_cons, List.filterMap_cons, here]
      cases Command.ofChar? c with
      | none => rfl
      | some command => rfl

theorem scan_eq_filterMap (text : List Char) :
    scan text = text.zipIdx.filterMap fun entry =>
      (Command.ofChar? entry.1).map fun command => ⟨command, Place.locate text entry.2⟩ := by
  rw [scan_eq]
  exact scanFrom_eq_filterMap [] text

theorem place_of_mem_scanFrom {place : Place} {text : List Char} {instruction : Instruction}
    (member : instruction ∈ scanFrom place text) :
    instruction.place = place ∨ place.Precedes instruction.place := by
  obtain ⟨before, c, rest, _, _, stands⟩ := exists_of_mem_scanFrom member
  cases before with
  | nil => exact Or.inl stands
  | cons d before =>
      rw [stands]
      exact Or.inr (place.precedes_foldl_after d before)

theorem pairwise_scanFrom (place : Place) (text : List Char) :
    (scanFrom place text).Pairwise fun left right => left.place.Precedes right.place := by
  induction text generalizing place with
  | nil => exact List.Pairwise.nil
  | cons c rest ih =>
      rw [scanFrom]
      cases Command.ofChar? c with
      | none => exact ih (place.after c)
      | some command =>
          refine List.Pairwise.cons ?_ (ih (place.after c))
          intro later member
          have passed := place.precedes_after c
          rcases place_of_mem_scanFrom member with same | behind
          · rwa [same]
          · exact passed.trans behind

theorem pairwise_scan (text : List Char) :
    (scan text).Pairwise fun left right => left.place.Precedes right.place := by
  rw [scan_eq]
  exact pairwise_scanFrom Place.first text

theorem eq_of_place_eq {text : List Char} {first second : Nat} {place : Place}
    (stands : (scan text)[first]?.map Instruction.place = some place)
    (stands' : (scan text)[second]?.map Instruction.place = some place) : first = second := by
  obtain ⟨instruction, found, rfl⟩ := Option.map_eq_some_iff.mp stands
  obtain ⟨instruction', found', same⟩ := Option.map_eq_some_iff.mp stands'
  obtain ⟨inside, rfl⟩ := List.getElem?_eq_some_iff.mp found
  obtain ⟨inside', rfl⟩ := List.getElem?_eq_some_iff.mp found'
  have ordered := List.pairwise_iff_getElem.mp (pairwise_scan text)
  rcases Nat.lt_trichotomy first second with before | equal | behind
  · exact absurd same.symm (ordered first second inside inside' before).ne
  · exact equal
  · exact absurd same (ordered second first inside' inside behind).ne

theorem exists_getElem?_scan {text : List Char} {row column : Nat} {chars : List Char} {c : Char}
    (held : (Text.cutLines text)[row]? = some chars) (found : chars[column]? = some c)
    (isSymbol : c ∈ Command.symbols) :
    ∃ index : Nat, (scan text)[index]?.map Instruction.place = some ⟨row + 1, column + 1⟩ := by
  obtain ⟨before, rest, rfl, place⟩ := Text.exists_of_getElem?_cutLines text held found
  obtain ⟨command, read⟩ := Command.exists_of_mem_symbols isSymbol
  refine ⟨(scanFrom Place.first before).length, ?_⟩
  rw [scan_eq, scanFrom_append, List.getElem?_append_right (Nat.le_refl _), Nat.sub_self,
    scanFrom, read, ← place]
  rfl

end Instruction

structure Place.Holds (place : Place) (lines : List String) (c : Char) : Prop where
  line_pos : 1 ≤ place.line
  line_le : place.line ≤ lines.length
  column_pos : 1 ≤ place.column
  character : ∃ line, lines[(place.line - 1).toNat]? = some line ∧
    place.column ≤ line.length ∧ line.toList[(place.column - 1).toNat]? = some c

theorem Instruction.holds_of_mem_scan {source : String} {instruction : Instruction}
    (member : instruction ∈ scan source.toList) :
    instruction.place.Holds (Text.lines source) instruction.command.symbol := by
  have found := characterAt?_of_mem_scan member
  rw [Text.characterAt?, Option.ite_none_left_eq_some] at found
  obtain ⟨inside, found⟩ := found
  obtain ⟨line, held, stands⟩ := Option.bind_eq_some_iff.mp found
  have bound := (List.getElem?_eq_some_iff.mp held).1
  have bound' := (List.getElem?_eq_some_iff.mp stands).1
  refine ⟨by omega, ?_, by omega, String.ofList line, ?_, ?_, ?_⟩
  · rw [Text.lines, List.length_map]
    omega
  · rw [Text.lines, List.getElem?_map, held, Option.map_some]
  · rw [String.length_ofList]
    omega
  · rw [String.toList_ofList]
    exact stands

/-- The instructions of a source text are its command characters in their order.  Each one stands at
the place that a look-up of its offset gives, where the lines of the source hold its symbol; the
places come in reading order; and to every place at which the lines hold a command character
belongs exactly one instruction. -/
theorem scan_gives_the_places_of_the_lines (source : String) :
    (Instruction.scan source.toList).map (fun instruction => instruction.command.symbol) =
        source.toList.filter (Command.symbols.contains ·) ∧
      (Instruction.scan source.toList = source.toList.zipIdx.filterMap fun entry =>
        (Command.ofChar? entry.1).map fun command =>
          ⟨command, Place.locate source.toList entry.2⟩) ∧
      (∀ instruction ∈ Instruction.scan source.toList,
        instruction.place.Holds (Text.lines source) instruction.command.symbol) ∧
      (Instruction.scan source.toList).Pairwise (fun left right =>
        left.place.Precedes right.place) ∧
      ∀ (place : Place) (c : Char), place.Holds (Text.lines source) c → c ∈ Command.symbols →
        ∃! index : Nat, (Instruction.scan source.toList)[index]?.map Instruction.place =
          some place := by
  refine ⟨Instruction.map_symbol_scan _, Instruction.scan_eq_filterMap _,
    fun _ => Instruction.holds_of_mem_scan, Instruction.pairwise_scan _, ?_⟩
  intro place c holds isSymbol
  obtain ⟨line, held, _, found⟩ := holds.character
  rw [Text.lines, List.getElem?_map] at held
  obtain ⟨cut, inCut, rfl⟩ := Option.map_eq_some_iff.mp held
  rw [String.toList_ofList] at found
  obtain ⟨index, stands⟩ := Instruction.exists_getElem?_scan inCut found isSymbol
  have row := Int.toNat_of_nonneg (Int.sub_nonneg_of_le holds.line_pos)
  have column := Int.toNat_of_nonneg (Int.sub_nonneg_of_le holds.column_pos)
  rw [row, column, Int.sub_add_cancel, Int.sub_add_cancel] at stands
  exact ⟨index, stands, fun other stands' => Instruction.eq_of_place_eq stands' stands⟩

/-- A text with an empty line, in which a command opens a line and ends another one. -/
theorem places_around_an_empty_line :
    (∃ instruction ∈ Instruction.scan "a+\n\n[.\n".toList,
      instruction.place = ⟨1, 2⟩ ∧ instruction.place.Holds ["a+", "", "[.", ""] '+') ∧
    (⟨3, 1⟩ : Place).Holds ["a+", "", "[.", ""] '[' ∧
    ∃! index : Nat, (Instruction.scan "a+\n\n[.\n".toList)[index]?.map Instruction.place =
      some ⟨3, 1⟩ := by
  have lines : Text.lines "a+\n\n[.\n" = ["a+", "", "[.", ""] := by decide
  obtain ⟨_, _, held, _, unique⟩ := scan_gives_the_places_of_the_lines "a+\n\n[.\n"
  rw [lines] at held unique
  have first : (⟨.increment, ⟨1, 2⟩⟩ : Instruction) ∈ Instruction.scan "a+\n\n[.\n".toList := by
    decide
  have holds : (⟨3, 1⟩ : Place).Holds ["a+", "", "[.", ""] '[' :=
    ⟨by decide, by decide, by decide, "[.", rfl, by decide, rfl⟩
  exact ⟨⟨_, first, rfl, held _ first⟩, holds, unique _ '[' holds (by decide)⟩

end TapeMachine
