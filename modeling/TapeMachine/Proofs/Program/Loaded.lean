import TapeMachine.Program.Source
import TapeMachine.Proofs.Program.Pairing

/-!
# Loaded programs

A source text is a program exactly when its commands are balanced.  The two tables of the program
then hold the pairs of its parse tree, one from start to end and one from end to start.

Main statement: pairing accepts the balanced rows and no others, and finds their only matching.
-/

set_option autoImplicit false

namespace TapeMachine

namespace Program

def commands (program : Program) : List Command :=
  program.instructions.toList.map Instruction.command

theorem length_commands (program : Program) : program.commands.length = program.size := by
  rw [commands, List.length_map, Array.length_toList, size]

theorem getElem?_commands (program : Program) (position : Nat) :
    program.commands[position]? = program.instructions[position]?.map Instruction.command := by
  rw [commands, List.getElem?_map, Array.getElem?_toList]

theorem mem_of_instruction? {program : Program} {index : Int} {instruction : Instruction}
    (found : program.instruction? index = some instruction) :
    instruction ∈ program.instructions.toList := by
  simp only [instruction?, Option.ite_none_left_eq_some] at found
  exact Array.mem_toList_iff.mpr (Array.mem_of_getElem? found.2)

end Program

/-! ## Tables -/

namespace Brackets

theorem pairwise_keys {pairs : List (Nat × Nat)} (distinct : (pairs.map Prod.fst).Nodup) :
    (pairs.map fun entry => ((entry.1 : Int), (entry.2 : Int))).Pairwise fun left right =>
      ¬ compare left.1 right.1 = .eq := by
  rw [List.pairwise_map]
  rw [List.Nodup, List.pairwise_map] at distinct
  refine distinct.imp fun differ same => differ ?_
  exact Int.ofNat.inj (Std.LawfulEqCmp.eq_of_compare same)

theorem size_endTable {pairs : List (Nat × Nat)} (distinct : (pairs.map Prod.fst).Nodup) :
    (endTable pairs).size = pairs.length := by
  rw [endTable, Std.TreeMap.size_ofList (pairwise_keys distinct), List.length_map]

theorem getElem?_endTable {pairs : List (Nat × Nat)} (distinct : (pairs.map Prod.fst).Nodup)
    (key value : Int) :
    (endTable pairs)[key]? = some value ↔
      ∃ entry ∈ pairs, (entry.1 : Int) = key ∧ (entry.2 : Int) = value := by
  let cast := fun entry : Nat × Nat => ((entry.1 : Int), (entry.2 : Int))
  have found : ∀ entry ∈ pairs, (endTable pairs)[(entry.1 : Int)]? = some (entry.2 : Int) := by
    intro entry member
    exact Std.TreeMap.getElem?_ofList_of_mem Std.ReflCmp.compare_self (pairwise_keys distinct)
      (List.mem_map_of_mem (f := cast) member)
  constructor
  · intro lookup
    by_cases held : (((pairs.map cast).map Prod.fst).contains key) = true
    · obtain ⟨image, inImages, rfl⟩ := List.mem_map.mp (List.contains_iff_mem.mp held)
      obtain ⟨entry, member, rfl⟩ := List.mem_map.mp inImages
      rw [found entry member, Option.some.injEq] at lookup
      exact ⟨entry, member, rfl, lookup⟩
    · have missing : (endTable pairs)[key]? = none :=
        Std.TreeMap.getElem?_ofList_of_contains_eq_false (Bool.eq_false_iff.mpr held)
      rw [missing] at lookup
      cases lookup
  · rintro ⟨entry, member, rfl, rfl⟩
    exact found entry member

theorem startTable_eq (pairs : List (Nat × Nat)) :
    startTable pairs = endTable (pairs.map Prod.swap) := by
  rw [startTable, endTable, List.map_map]
  rfl

theorem getElem?_startTable {pairs : List (Nat × Nat)} (distinct : (pairs.map Prod.snd).Nodup)
    (key value : Int) :
    (startTable pairs)[key]? = some value ↔
      ∃ entry ∈ pairs, (entry.2 : Int) = key ∧ (entry.1 : Int) = value := by
  have swapped : ((pairs.map Prod.swap).map Prod.fst).Nodup := by
    rwa [List.map_map]
  rw [startTable_eq, getElem?_endTable swapped]
  constructor
  · rintro ⟨_, member, first, second⟩
    obtain ⟨entry, inPairs, rfl⟩ := List.mem_map.mp member
    exact ⟨entry, inPairs, first, second⟩
  · rintro ⟨entry, member, first, second⟩
    exact ⟨entry.swap, List.mem_map_of_mem member, first, second⟩

end Brackets

/-! ## Parse trees of programs -/

/-- A program with a parse tree: the tree has the commands of the program, and the tables hold its
pairs. -/
structure Program.Parsed (program : Program) (block : Block) : Prop where
  commands : block.commands = program.commands
  ends : ∀ key value : Int, program.ends[key]? = some value ↔
    ∃ entry ∈ block.pairs 0, (entry.1 : Int) = key ∧ (entry.2 : Int) = value
  starts : ∀ key value : Int, program.starts[key]? = some value ↔
    ∃ entry ∈ block.pairs 0, (entry.2 : Int) = key ∧ (entry.1 : Int) = value

namespace Program

variable {source name : String} {program : Program}

theorem pair_of_ofSource (loaded : ofSource source name = .ok program) :
    ∃ pairs, Brackets.pair (Instruction.scan source.toList) = .ok pairs ∧
      program = assemble (Instruction.scan source.toList) pairs name source := by
  rw [ofSource] at loaded
  cases paired : Brackets.pair (Instruction.scan source.toList) with
  | error unpaired => simp [paired] at loaded
  | ok pairs =>
      simp only [paired, Except.ok.injEq] at loaded
      exact ⟨pairs, rfl, loaded.symm⟩

theorem contents_of_ofSource (loaded : ofSource source name = .ok program) :
    program.name = name ∧ program.source = source ∧
      program.instructions.toList = Instruction.scan source.toList := by
  obtain ⟨pairs, _, rfl⟩ := pair_of_ofSource loaded
  exact ⟨rfl, rfl, rfl⟩

theorem parsed_of_ofSource (loaded : ofSource source name = .ok program) :
    ∃ block : Block, program.Parsed block := by
  obtain ⟨pairs, paired, rfl⟩ := pair_of_ofSource loaded
  obtain ⟨block, same, rfl⟩ := (Brackets.pair_eq_ok_iff _ _).mp paired
  exact ⟨block, by simpa [commands, assemble] using same,
    Brackets.getElem?_endTable (block.nodup_pairs_starts 0),
    Brackets.getElem?_startTable (block.nodup_pairs_ends 0)⟩

theorem Parsed.inverse {block : Block} (parsed : program.Parsed block) (start finish : Int) :
    program.ends[start]? = some finish ↔ program.starts[finish]? = some start := by
  rw [parsed.ends, parsed.starts]
  constructor
  · rintro ⟨entry, member, first, last⟩
    exact ⟨entry, member, last, first⟩
  · rintro ⟨entry, member, last, first⟩
    exact ⟨entry, member, first, last⟩

theorem Parsed.size_eq {block : Block} (parsed : program.Parsed block) :
    block.size = program.size := by
  rw [Block.size, parsed.commands, program.length_commands]

/-- The table of ends is total on the loop starts and leads into the program. -/
theorem Parsed.end_of_start {block : Block} (parsed : program.Parsed block) {position : Nat}
    (start : program.commands[position]? = some .loopStart) :
    ∃ finish : Nat, program.ends[(position : Int)]? = some (finish : Int) ∧
      finish < program.size := by
  rw [← parsed.commands] at start
  obtain ⟨entry, member, same⟩ :=
    List.mem_map.mp ((block.isMatching_pairs.starts position).mpr start)
  have inside := block.bounds_of_mem_pairs member
  rw [parsed.size_eq] at inside
  exact ⟨entry.2, (parsed.ends _ _).mpr ⟨entry, member, by rw [same], rfl⟩, by omega⟩

/-- The table of starts is total on the loop ends and leads back. -/
theorem Parsed.start_of_end {block : Block} (parsed : program.Parsed block) {position : Nat}
    (finish : program.commands[position]? = some .loopEnd) :
    ∃ start : Nat, program.starts[(position : Int)]? = some (start : Int) ∧ start < position := by
  rw [← parsed.commands] at finish
  obtain ⟨entry, member, same⟩ :=
    List.mem_map.mp ((block.isMatching_pairs.ends position).mpr finish)
  have inside := block.bounds_of_mem_pairs member
  exact ⟨entry.1, (parsed.starts _ _).mpr ⟨entry, member, by rw [same], rfl⟩, by omega⟩

end Program

/-- Pairing accepts exactly the balanced rows.  The pairs it finds are the only matching of the row,
and the two tables of a loaded program are this matching and its inverse. -/
theorem pairing_finds_the_only_matching :
    (∀ instructions : List Instruction,
      ((∃ pairs, Brackets.pair instructions = .ok pairs) ↔
        Balanced (instructions.map Instruction.command)) ∧
      ∀ pairs, Brackets.pair instructions = .ok pairs →
        IsMatching (instructions.map Instruction.command) pairs ∧
          ∀ others, IsMatching (instructions.map Instruction.command) others →
            others.Perm pairs) ∧
    ∀ (source name : String) (program : Program), Program.ofSource source name = .ok program →
      (∃ pairs, IsMatching program.commands pairs ∧ ∀ start finish : Int,
        program.ends[start]? = some finish ↔
          ∃ entry ∈ pairs, (entry.1 : Int) = start ∧ (entry.2 : Int) = finish) ∧
      ∀ start finish : Int,
        program.ends[start]? = some finish ↔ program.starts[finish]? = some start := by
  refine ⟨fun instructions => ⟨⟨?_, ?_⟩, ?_⟩, ?_⟩
  · rintro ⟨pairs, paired⟩
    exact Brackets.balanced_of_pair paired
  · intro balanced
    obtain ⟨block, same⟩ := (balanced_iff_exists_block _).mp balanced
    exact ⟨block.pairs 0, Brackets.pair_block same.symm⟩
  · intro pairs paired
    obtain ⟨block, same, rfl⟩ := (Brackets.pair_eq_ok_iff _ _).mp paired
    have matching : IsMatching (instructions.map Instruction.command) (block.pairs 0) :=
      same ▸ block.isMatching_pairs
    exact ⟨matching, fun others other => other.perm matching⟩
  · intro source name program loaded
    obtain ⟨block, parsed⟩ := Program.parsed_of_ofSource loaded
    refine ⟨⟨block.pairs 0, ?_, parsed.ends⟩, parsed.inverse⟩
    rw [← parsed.commands]
    exact block.isMatching_pairs

theorem pairing_of_nested_loops :
    Brackets.pair (Instruction.scan "[[-]+]".toList) = .ok [(1, 3), (0, 5)] ∧
      IsMatching ((Instruction.scan "[[-]+]".toList).map Instruction.command) [(1, 3), (0, 5)] ∧
      ∃ program, Program.ofSource "[[-]+]" "nested" = .ok program ∧
        (program.ends[(1 : Int)]? = some 3 ↔ program.starts[(3 : Int)]? = some 1) :=
  ⟨rfl, ((pairing_finds_the_only_matching.1 _).2 _ rfl).1, _, rfl,
    (pairing_finds_the_only_matching.2 "[[-]+]" "nested" _ rfl).2 1 3⟩

end TapeMachine
