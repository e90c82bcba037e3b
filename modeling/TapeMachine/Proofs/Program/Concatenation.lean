import Mathlib.Data.List.DropRight
import Mathlib.Data.List.Induction
import TapeMachine.Proofs.Program.Loaded
import TapeMachine.Proofs.Program.Places

/-!
# Two texts put together

A text that stands behind another one keeps its commands in their order.  Their lines move down by
the line feeds in front of them, and on the first line their columns move right by what stands in
front on the same line.  Loop marks pair up inside each of the two texts, so the tables of the whole
hold the pairs of both, those of the second text moved up by the size of the first one.

Main statement: two texts that are programs are a program when they are put together, with the
instructions and the pairs of both.
-/

set_option autoImplicit false

namespace TapeMachine

/-! ## Places behind a text -/

/-- What a text has behind its last line feed, or all of it when it has none. -/
def Text.openLine (text : List Char) : List Char := text.rtakeWhile (· ≠ '\n')

namespace Place

/-- Where a place of some text comes to lie when another text is put in front of it. -/
def behind (text : List Char) (place : Place) : Place where
  line := place.line + text.count '\n'
  column := if place.line = 1 then place.column + (Text.openLine text).length else place.column

theorem afterText_eq_behind (text : List Char) : afterText text = first.behind text := by
  induction text using List.reverseRecOn with
  | nil => rfl
  | append_singleton text c ih =>
      rw [afterText_append, ih]
      by_cases feed : c = '\n'
      · subst feed
        simp [behind, after_lineFeed, first, Text.openLine]
        omega
      · simp [behind, after_of_ne feed, first, Text.openLine, feed]
        omega

/-- Moving behind a text and passing a character may be done in either order. -/
theorem after_behind (text : List Char) {place : Place} (positive : 1 ≤ place.line) (c : Char) :
    (place.behind text).after c = (place.after c).behind text := by
  by_cases feed : c = '\n'
  · subst feed
    have below : place.line + 1 ≠ 1 := by omega
    rw [after_lineFeed, after_lineFeed, behind, behind, if_neg below]
    congr 1
    simp only
    omega
  · simp only [after_of_ne feed, behind]
    split
    · congr 1
      omega
    · rfl

theorem line_after_pos {place : Place} (positive : 1 ≤ place.line) (c : Char) :
    1 ≤ (place.after c).line := by
  by_cases feed : c = '\n'
  · subst feed
    rw [after_lineFeed]
    exact Int.le_add_one positive
  · rwa [after_of_ne feed]

end Place

namespace Instruction

def behind (text : List Char) (instruction : Instruction) : Instruction :=
  { instruction with place := instruction.place.behind text }

theorem map_command_behind (text : List Char) (instructions : List Instruction) :
    (instructions.map (behind text)).map command = instructions.map command := by
  rw [List.map_map]
  rfl

theorem scanFrom_behind (text more : List Char) {place : Place} (positive : 1 ≤ place.line) :
    scanFrom (place.behind text) more = (scanFrom place more).map (behind text) := by
  induction more generalizing place with
  | nil => rfl
  | cons c rest ih =>
      have later := ih (Place.line_after_pos positive c)
      rw [scanFrom, scanFrom, Place.after_behind text positive, later]
      cases Command.ofChar? c with
      | none => rfl
      | some command => rfl

/-- The instructions of two texts put together are those of the first one and those of the second
one, moved behind the first one. -/
theorem scan_append (text more : List Char) :
    scan (text ++ more) = scan text ++ (scan more).map (behind text) := by
  have place : text.foldl Place.after Place.first = Place.first.behind text :=
    Place.afterText_eq_behind text
  rw [scan_eq, scan_eq, scan_eq, scanFrom_append, place,
    scanFrom_behind text more (Int.le_refl 1)]

end Instruction

/-! ## Pairs behind a text -/

def raise (offset : Nat) (entry : Nat × Nat) : Nat × Nat := (entry.1 + offset, entry.2 + offset)

theorem Block.pairs_add (block : Block) (position offset : Nat) :
    block.pairs (position + offset) = (block.pairs position).map (raise offset) := by
  induction block generalizing position with
  | done => rfl
  | act primitive rest ih =>
      have first : position + offset + 1 = position + 1 + offset := by omega
      rw [pairs, pairs, first, ih]
  | loop body rest bodyIh restIh =>
      have first : position + offset + 1 = position + 1 + offset := by omega
      have last : position + offset + body.size + 1 = position + body.size + 1 + offset := by omega
      have next : position + offset + body.size + 2 = position + body.size + 2 + offset := by omega
      rw [pairs, pairs, first, last, next, bodyIh, restIh, List.map_append, List.map_cons]
      rfl

namespace Brackets

variable {instructions others : List Instruction} {pairs more : List (Nat × Nat)}

/-- Marks that pair up in two rows pair up in the same way when one row follows the other. -/
theorem pair_append (paired : pair instructions = .ok pairs) (paired' : pair others = .ok more) :
    pair (instructions ++ others) = .ok (pairs ++ more.map (raise instructions.length)) := by
  obtain ⟨block, commands, rfl⟩ := (pair_eq_ok_iff _ _).mp paired
  obtain ⟨block', commands', rfl⟩ := (pair_eq_ok_iff _ _).mp paired'
  rw [pair_eq, visitAll_append, visitAll_block block instructions _ 0 commands.symm]
  simp only
  rw [visitAll_block block' others _ _ commands'.symm, Block.pairs_add block' 0]
  simp

theorem pair_eq_ok_of_map_eq (same : others.map Instruction.command =
    instructions.map Instruction.command) (paired : pair instructions = .ok pairs) :
    pair others = .ok pairs := by
  rw [pair_eq_ok_iff] at paired ⊢
  rwa [same]

theorem nodup_starts_of_pair (paired : pair instructions = .ok pairs) :
    (pairs.map Prod.fst).Nodup := by
  obtain ⟨block, _, rfl⟩ := (pair_eq_ok_iff _ _).mp paired
  exact block.nodup_pairs_starts 0

theorem nodup_ends_of_pair (paired : pair instructions = .ok pairs) :
    (pairs.map Prod.snd).Nodup := by
  obtain ⟨block, _, rfl⟩ := (pair_eq_ok_iff _ _).mp paired
  exact block.nodup_pairs_ends 0

end Brackets

/-- A table with the entries of two tables and no others, where the keys and the values of the second
one are moved up by some number. -/
def JumpTable.Joins (whole first second : JumpTable) (offset : Nat) : Prop :=
  ∀ key value : Int, whole[key]? = some value ↔
    first[key]? = some value ∨ second[key - offset]? = some (value - offset)

namespace Brackets

theorem joins_endTable {pairs more : List (Nat × Nat)} {offset : Nat}
    (distinct : (pairs.map Prod.fst).Nodup) (distinct' : (more.map Prod.fst).Nodup)
    (whole : ((pairs ++ more.map (raise offset)).map Prod.fst).Nodup) :
    JumpTable.Joins (endTable (pairs ++ more.map (raise offset))) (endTable pairs)
      (endTable more) offset := by
  intro key value
  rw [getElem?_endTable distinct, getElem?_endTable distinct', getElem?_endTable whole]
  constructor
  · rintro ⟨entry, member, start, finish⟩
    rcases List.mem_append.mp member with inFirst | inSecond
    · exact Or.inl ⟨entry, inFirst, start, finish⟩
    · obtain ⟨lower, inMore, rfl⟩ := List.mem_map.mp inSecond
      simp only [raise] at start finish
      exact Or.inr ⟨lower, inMore, by omega, by omega⟩
  · rintro (⟨entry, inFirst, start, finish⟩ | ⟨entry, inSecond, start, finish⟩)
    · exact ⟨entry, List.mem_append_left _ inFirst, start, finish⟩
    · refine ⟨raise offset entry, List.mem_append_right _ (List.mem_map_of_mem inSecond), ?_, ?_⟩
      all_goals
        simp only [raise]
        omega

theorem joins_startTable {pairs more : List (Nat × Nat)} {offset : Nat}
    (distinct : (pairs.map Prod.snd).Nodup) (distinct' : (more.map Prod.snd).Nodup)
    (whole : ((pairs ++ more.map (raise offset)).map Prod.snd).Nodup) :
    JumpTable.Joins (startTable (pairs ++ more.map (raise offset))) (startTable pairs)
      (startTable more) offset := by
  have swapped : (pairs ++ more.map (raise offset)).map Prod.swap =
      pairs.map Prod.swap ++ (more.map Prod.swap).map (raise offset) := by
    rw [List.map_append, List.map_map, List.map_map]
    rfl
  rw [startTable_eq, startTable_eq, startTable_eq, swapped]
  apply joins_endTable
  · rwa [List.map_map]
  · rwa [List.map_map]
  · rw [← swapped, List.map_map]
    exact whole

end Brackets

/-- Two source texts that are programs, under any names, are a program under any name when one
follows the other.  It has the instructions of the first program and then those of the second one,
which lie behind the first text, and its two tables have the entries of the tables of both programs,
where those of the second one are moved up by the size of the first one. -/
theorem concatenation_is_loaded_as_both {text more textName moreName : String}
    {first second : Program} (loaded : Program.ofSource text textName = .ok first)
    (loaded' : Program.ofSource more moreName = .ok second) (name : String) :
    ∃ whole, Program.ofSource (text ++ more) name = .ok whole ∧ whole.name = name ∧
      whole.source = text ++ more ∧
      whole.instructions.toList = first.instructions.toList ++
        second.instructions.toList.map (Instruction.behind text.toList) ∧
      JumpTable.Joins whole.ends first.ends second.ends first.size ∧
      JumpTable.Joins whole.starts first.starts second.starts first.size := by
  obtain ⟨pairs, paired, rfl⟩ := Program.pair_of_ofSource loaded
  obtain ⟨morePairs, paired', rfl⟩ := Program.pair_of_ofSource loaded'
  have scanned : Instruction.scan (text ++ more).toList = Instruction.scan text.toList ++
      (Instruction.scan more.toList).map (Instruction.behind text.toList) := by
    rw [String.toList_append, Instruction.scan_append]
  have moved := Brackets.pair_eq_ok_of_map_eq
    (Instruction.map_command_behind text.toList (Instruction.scan more.toList)) paired'
  have whole := Brackets.pair_append paired moved
  refine ⟨Program.assemble (Instruction.scan (text ++ more).toList)
    (pairs ++ morePairs.map (raise (Instruction.scan text.toList).length)) name (text ++ more),
    ?_, rfl, rfl, ?_, ?_, ?_⟩
  · rw [Program.ofSource, scanned, whole]
  · exact scanned
  · exact Brackets.joins_endTable (Brackets.nodup_starts_of_pair paired)
      (Brackets.nodup_starts_of_pair paired') (Brackets.nodup_starts_of_pair whole)
  · exact Brackets.joins_startTable (Brackets.nodup_ends_of_pair paired)
      (Brackets.nodup_ends_of_pair paired') (Brackets.nodup_ends_of_pair whole)

/-- The second text goes on in a line of the first one, and its loop reaches into the next line. -/
theorem loop_behind_an_open_line :
    ∃ first second whole, Program.ofSource "[-]\n+" "first" = .ok first ∧
      Program.ofSource ">[.\n]" "second" = .ok second ∧
      Program.ofSource ("[-]\n+" ++ ">[.\n]") "both" = .ok whole ∧
      whole.instructions.toList = first.instructions.toList ++
        [⟨.right, ⟨2, 2⟩⟩, ⟨.loopStart, ⟨2, 3⟩⟩, ⟨.output, ⟨2, 4⟩⟩, ⟨.loopEnd, ⟨3, 1⟩⟩] ∧
      whole.ends[(0 : Int)]? = some 2 ∧ whole.ends[(5 : Int)]? = some 7 ∧
      whole.starts[(7 : Int)]? = some 5 := by
  have loaded : ∃ first, Program.ofSource "[-]\n+" "first" = .ok first ∧ first.size = 4 ∧
    first.ends[(0 : Int)]? = some 2 := ⟨_, rfl, rfl, rfl⟩
  have loaded' : ∃ second, Program.ofSource ">[.\n]" "second" = .ok second ∧
    second.instructions.toList.map (Instruction.behind "[-]\n+".toList) =
      [⟨.right, ⟨2, 2⟩⟩, ⟨.loopStart, ⟨2, 3⟩⟩, ⟨.output, ⟨2, 4⟩⟩, ⟨.loopEnd, ⟨3, 1⟩⟩] ∧
    second.ends[(1 : Int)]? = some 3 ∧ second.starts[(3 : Int)]? = some 1 := by
    refine ⟨_, rfl, ?_, rfl, rfl⟩
    decide
  obtain ⟨first, loaded, size, inFirst⟩ := loaded
  obtain ⟨second, loaded', moved, ends, starts⟩ := loaded'
  obtain ⟨whole, joined, _, _, instructions, joinsEnds, joinsStarts⟩ :=
    concatenation_is_loaded_as_both loaded loaded' "both"
  rw [size] at joinsEnds joinsStarts
  rw [moved] at instructions
  exact ⟨first, second, whole, loaded, loaded', joined, instructions,
    (joinsEnds 0 2).mpr (Or.inl inFirst), (joinsEnds 5 7).mpr (Or.inr ends),
    (joinsStarts 7 5).mpr (Or.inr starts)⟩

end TapeMachine
