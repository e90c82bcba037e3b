import Mathlib.Data.List.Nodup
import Mathlib.Data.List.Pairwise
import TapeMachine.Proofs.Program.Balanced

/-!
# The matching of balanced commands

A matching of a row of commands leads from every loop start to a loop end such that the commands in
between are balanced.  `Block.pairs` reads the pairs off a parse tree, in the order of their ends;
they are a matching of the row, and the row has no other one.
-/

set_option autoImplicit false

namespace TapeMachine

def between (commands : List Command) (first last : Nat) : List Command :=
  (commands.take last).drop (first + 1)

def Disjoint (left right : Nat × Nat) : Prop := left.2 < right.1 ∨ right.2 < left.1

def Nested (left right : Nat × Nat) : Prop :=
  (left.1 < right.1 ∧ right.2 < left.2) ∨ (right.1 < left.1 ∧ left.2 < right.2)

/-- Pairs of positions that lead from every loop start to its end.  The pairs are a map: no start
occurs twice. -/
structure IsMatching (commands : List Command) (pairs : List (Nat × Nat)) : Prop where
  starts : ∀ position, position ∈ pairs.map Prod.fst ↔ commands[position]? = some .loopStart
  ends : ∀ position, position ∈ pairs.map Prod.snd ↔ commands[position]? = some .loopEnd
  starts_nodup : (pairs.map Prod.fst).Nodup
  ends_nodup : (pairs.map Prod.snd).Nodup
  ordered : ∀ entry ∈ pairs, entry.1 < entry.2
  balanced : ∀ entry ∈ pairs, Balanced (between commands entry.1 entry.2)
  apart : ∀ left ∈ pairs, ∀ right ∈ pairs, left ≠ right → Disjoint left right ∨ Nested left right

/-! ## Loops of a row -/

/-- A loop of a row: balanced commands between a loop start and a loop end, at given positions. -/
def IsLoop (commands : List Command) (entry : Nat × Nat) : Prop :=
  ∃ before body after, commands = before ++ .loopStart :: body ++ .loopEnd :: after ∧
    before.length = entry.1 ∧ entry.1 + body.length + 1 = entry.2 ∧ Balanced body

namespace IsLoop

variable {commands : List Command} {entry : Nat × Nat}

theorem start (isLoop : IsLoop commands entry) : commands[entry.1]? = some .loopStart := by
  obtain ⟨before, body, after, rfl, position, _, _⟩ := isLoop
  rw [← position]
  simp

theorem finish (isLoop : IsLoop commands entry) : commands[entry.2]? = some .loopEnd := by
  obtain ⟨before, body, after, rfl, position, last, _⟩ := isLoop
  have length : (before ++ .loopStart :: body : List Command).length = entry.2 := by
    simp only [List.length_append, List.length_cons]
    omega
  rw [← length]
  simp

theorem ordered (isLoop : IsLoop commands entry) : entry.1 < entry.2 := by
  obtain ⟨_, body, _, _, _, last, _⟩ := isLoop
  omega

theorem balanced (isLoop : IsLoop commands entry) :
    Balanced (between commands entry.1 entry.2) := by
  obtain ⟨before, body, after, rfl, position, last, inner⟩ := isLoop
  have length : (before ++ .loopStart :: body : List Command).length = entry.2 := by
    simp only [List.length_append, List.length_cons]
    omega
  rw [between, ← length, List.take_left, ← position]
  simpa using inner

theorem of_between (start : commands[entry.1]? = some .loopStart)
    (finish : commands[entry.2]? = some .loopEnd) (ordered : entry.1 < entry.2)
    (balanced : Balanced (between commands entry.1 entry.2)) : IsLoop commands entry := by
  obtain ⟨startBound, startValue⟩ := List.getElem?_eq_some_iff.mp start
  obtain ⟨endBound, endValue⟩ := List.getElem?_eq_some_iff.mp finish
  refine ⟨commands.take entry.1, between commands entry.1 entry.2, commands.drop (entry.2 + 1),
    ?_, ?_, ?_, balanced⟩
  · have shorter : (commands.take entry.2).take entry.1 = commands.take entry.1 := by
      rw [List.take_take, Nat.min_eq_left (Nat.le_of_lt ordered)]
    have bound : entry.1 < (commands.take entry.2).length := by
      rw [List.length_take]
      omega
    have first : (commands.take entry.2)[entry.1] = .loopStart := by
      rw [List.getElem_take, startValue]
    calc commands = commands.take entry.2 ++ commands.drop entry.2 :=
          (List.take_append_drop _ _).symm
      _ = commands.take entry.2 ++ .loopEnd :: commands.drop (entry.2 + 1) := by
          rw [List.drop_eq_getElem_cons endBound, endValue]
      _ = (commands.take entry.2).take entry.1 ++ (commands.take entry.2).drop entry.1
            ++ .loopEnd :: commands.drop (entry.2 + 1) := by
          rw [List.take_append_drop]
      _ = _ := by
          rw [List.drop_eq_getElem_cons bound, first, shorter, between]
  · rw [List.length_take]
    omega
  · simp only [between, List.length_drop, List.length_take]
    omega

/-- A loop is known by its start. -/
theorem eq_of_start_eq {other : Nat × Nat} (isLoop : IsLoop commands entry)
    (isLoop' : IsLoop commands other) (same : entry.1 = other.1) : entry = other := by
  obtain ⟨before, body, after, rfl, position, last, inner⟩ := isLoop
  obtain ⟨before', body', after', split, position', last', inner'⟩ := isLoop'
  obtain ⟨block, rfl⟩ := (balanced_iff_exists_block _).mp inner
  obtain ⟨block', rfl⟩ := (balanced_iff_exists_block _).mp inner'
  rw [List.append_assoc, List.append_assoc] at split
  have tails := (List.append_inj split (by omega)).2
  obtain ⟨rfl, _⟩ := Block.commands_append_inj block block' (Closes.loopEnd _) (Closes.loopEnd _)
    (List.cons.inj tails).2
  exact Prod.ext same (by omega)

theorem extend (before after : List Command) {whole : List Command}
    {shifted : Nat × Nat} (isLoop : IsLoop commands entry)
    (split : whole = before ++ commands ++ after) (first : shifted.1 = before.length + entry.1)
    (last : shifted.2 = before.length + entry.2) : IsLoop whole shifted := by
  obtain ⟨front, body, back, rfl, position, length, inner⟩ := isLoop
  refine ⟨before ++ front, body, back ++ after, ?_, ?_, ?_, inner⟩
  · rw [split]
    simp
  · rw [List.length_append]
    omega
  · omega

end IsLoop

/-! ## The pairs of a parse tree -/

namespace Block

/-- The loops of a tree whose first command stands at some position: start and end of each one, in
the order of the ends. -/
def pairs : Block → Nat → List (Nat × Nat)
  | done, _ => []
  | act _ rest, offset => rest.pairs (offset + 1)
  | loop body rest, offset =>
    body.pairs (offset + 1) ++
      (offset, offset + body.size + 1) :: rest.pairs (offset + body.size + 2)

theorem bounds_of_mem_pairs :
    ∀ (block : Block) {offset : Nat} {entry : Nat × Nat}, entry ∈ block.pairs offset →
      offset ≤ entry.1 ∧ entry.1 < entry.2 ∧ entry.2 < offset + block.size := by
  intro block
  induction block with
  | done =>
      intro offset entry member
      cases member
  | act primitive rest ih =>
      intro offset entry member
      have inside := ih member
      rw [size_act]
      omega
  | loop body rest bodyIh restIh =>
      intro offset entry member
      rw [size_loop]
      rw [pairs, List.mem_append, List.mem_cons] at member
      rcases member with member | rfl | member
      · have inside := bodyIh member
        omega
      · exact ⟨Nat.le_refl _, by omega, by omega⟩
      · have inside := restIh member
        omega

/-- The earlier one of two pairs in the list ends before the later one starts, or lies inside it. -/
theorem pairwise_pairs :
    ∀ (block : Block) (offset : Nat), (block.pairs offset).Pairwise fun left right =>
      left.2 < right.1 ∨ (right.1 < left.1 ∧ left.2 < right.2) := by
  intro block
  induction block with
  | done =>
      intro offset
      exact List.Pairwise.nil
  | act primitive rest ih =>
      intro offset
      exact ih (offset + 1)
  | loop body rest bodyIh restIh =>
      intro offset
      rw [pairs, List.pairwise_append, List.pairwise_cons]
      refine ⟨bodyIh _, ⟨?_, restIh _⟩, ?_⟩
      · intro right member
        have inside := rest.bounds_of_mem_pairs member
        exact Or.inl (by omega)
      · intro left inBody right member
        have insideBody := body.bounds_of_mem_pairs inBody
        rcases List.mem_cons.mp member with rfl | member
        · exact Or.inr ⟨by omega, by omega⟩
        · have inside := rest.bounds_of_mem_pairs member
          exact Or.inl (by omega)

theorem isLoop_of_mem_pairs :
    ∀ (block : Block) {offset : Nat} {entry : Nat × Nat}, entry ∈ block.pairs offset →
      ∃ first last, entry = (offset + first, offset + last) ∧
        IsLoop block.commands (first, last) := by
  intro block
  induction block with
  | done =>
      intro offset entry member
      cases member
  | act primitive rest ih =>
      intro offset entry member
      obtain ⟨first, last, rfl, inner⟩ := ih member
      refine ⟨first + 1, last + 1, Prod.ext (by simp; omega) (by simp; omega), ?_⟩
      exact inner.extend [primitive.command] [] (by simp [commands])
        (by simp; omega) (by simp; omega)
  | loop body rest bodyIh restIh =>
      intro offset entry member
      rw [pairs, List.mem_append, List.mem_cons] at member
      rcases member with member | rfl | member
      · obtain ⟨first, last, rfl, inner⟩ := bodyIh member
        refine ⟨first + 1, last + 1, Prod.ext (by simp; omega) (by simp; omega), ?_⟩
        exact inner.extend [.loopStart] (.loopEnd :: rest.commands)
          (by simp [commands]) (by simp; omega) (by simp; omega)
      · exact ⟨0, body.size + 1, rfl, [], body.commands, rest.commands, rfl, rfl,
          by simp only [size]; omega, body.balanced_commands⟩
      · obtain ⟨first, last, rfl, inner⟩ := restIh member
        refine ⟨first + (body.size + 2), last + (body.size + 2), Prod.ext (by simp; omega)
          (by simp; omega), ?_⟩
        exact inner.extend (.loopStart :: body.commands ++ [.loopEnd]) []
          (by simp [commands]) (by simp [size]; omega) (by simp [size]; omega)

/-! Where the commands of a loop stand in its row. -/

section Positions
variable (body rest : Block)

theorem getElem?_loop_body {position : Nat} (inside : position < body.size) :
    (loop body rest).commands[position + 1]? = body.commands[position]? := by
  rw [commands, List.cons_append, List.getElem?_cons_succ, List.getElem?_append_left inside]

theorem getElem?_loop_end : (loop body rest).commands[body.size + 1]? = some .loopEnd := by
  rw [commands, List.cons_append, List.getElem?_cons_succ, size,
    List.getElem?_append_right (Nat.le_refl _), Nat.sub_self, List.getElem?_cons_zero]

theorem getElem?_loop_rest (position : Nat) :
    (loop body rest).commands[position + (body.size + 2)]? = rest.commands[position]? := by
  have split : (loop body rest).commands =
      (.loopStart :: body.commands ++ [.loopEnd]) ++ rest.commands := by simp [commands]
  rw [split, List.getElem?_append_right (by simp [size])]
  congr 1
  simp [size]

theorem position_cases (position : Nat) :
    position = 0 ∨ (∃ inner, position = inner + 1 ∧ inner < body.size) ∨
      position = body.size + 1 ∨ ∃ later, position = later + (body.size + 2) := by
  by_cases first : position = 0
  · exact Or.inl first
  by_cases inside : position < body.size + 1
  · exact Or.inr (Or.inl ⟨position - 1, by omega, by omega⟩)
  by_cases last : position = body.size + 1
  · exact Or.inr (Or.inr (Or.inl last))
  · exact Or.inr (Or.inr (Or.inr ⟨position - (body.size + 2), by omega⟩))

end Positions

theorem exists_pair_of_mark :
    ∀ (block : Block) (offset : Nat) {position : Nat} {mark : Command},
      block.commands[position]? = some mark → (∀ primitive : Primitive, mark ≠ primitive.command) →
        ∃ entry ∈ block.pairs offset, (mark = .loopStart ∧ entry.1 = offset + position) ∨
          (mark = .loopEnd ∧ entry.2 = offset + position) := by
  intro block
  induction block with
  | done =>
      intro offset position mark found
      simp [commands] at found
  | act primitive rest ih =>
      intro offset position mark found isMark
      cases position with
      | zero =>
          rw [commands, List.getElem?_cons_zero, Option.some.injEq] at found
          exact absurd found.symm (isMark primitive)
      | succ position =>
          have found : rest.commands[position]? = some mark := found
          obtain ⟨entry, member, place⟩ := ih (offset + 1) found isMark
          rw [Nat.add_right_comm] at place
          exact ⟨entry, member, place⟩
  | loop body rest bodyIh restIh =>
      intro offset position mark found isMark
      rw [pairs]
      rcases position_cases body position with
        rfl | ⟨inner, rfl, inside⟩ | rfl | ⟨later, rfl⟩
      · exact ⟨_, List.mem_append_right _ (List.mem_cons_self ..),
          Or.inl ⟨(Option.some.inj found).symm, rfl⟩⟩
      · rw [getElem?_loop_body body rest inside] at found
        obtain ⟨entry, member, place⟩ := bodyIh (offset + 1) found isMark
        rw [Nat.add_right_comm] at place
        exact ⟨entry, List.mem_append_left _ member, place⟩
      · rw [getElem?_loop_end] at found
        exact ⟨_, List.mem_append_right _ (List.mem_cons_self ..),
          Or.inr ⟨(Option.some.inj found).symm, rfl⟩⟩
      · rw [getElem?_loop_rest] at found
        obtain ⟨entry, member, place⟩ := restIh (offset + body.size + 2) found isMark
        rw [show offset + body.size + 2 + later = offset + (later + (body.size + 2)) by omega]
          at place
        exact ⟨entry, List.mem_append_right _ (List.mem_cons_of_mem _ member), place⟩

/-! ## The pairs are the matching -/

theorem isLoop_of_mem_pairs_zero {block : Block} {entry : Nat × Nat}
    (member : entry ∈ block.pairs 0) : IsLoop block.commands entry := by
  obtain ⟨first, last, rfl, isLoop⟩ := block.isLoop_of_mem_pairs member
  rwa [Nat.zero_add, Nat.zero_add]

theorem pairwise_distinct (block : Block) (offset : Nat) :
    (block.pairs offset).Pairwise fun left right => left.1 ≠ right.1 ∧ left.2 ≠ right.2 := by
  refine (block.pairwise_pairs offset).imp_of_mem ?_
  intro left right inLeft inRight order
  have leftBounds := block.bounds_of_mem_pairs inLeft
  have rightBounds := block.bounds_of_mem_pairs inRight
  omega

theorem nodup_pairs_starts (block : Block) (offset : Nat) :
    ((block.pairs offset).map Prod.fst).Nodup := by
  rw [List.Nodup, List.pairwise_map]
  exact (block.pairwise_distinct offset).imp And.left

theorem nodup_pairs_ends (block : Block) (offset : Nat) :
    ((block.pairs offset).map Prod.snd).Nodup := by
  rw [List.Nodup, List.pairwise_map]
  exact (block.pairwise_distinct offset).imp And.right

theorem apart_of_mem_pairs (block : Block) (offset : Nat) :
    ∀ left ∈ block.pairs offset, ∀ right ∈ block.pairs offset, left ≠ right →
      Disjoint left right ∨ Nested left right := by
  have symmetric : Std.Symm fun left right : Nat × Nat =>
      Disjoint left right ∨ Nested left right :=
    ⟨fun left right apart => apart.imp Or.symm Or.symm⟩
  have inOrder : (block.pairs offset).Pairwise fun left right =>
      Disjoint left right ∨ Nested left right :=
    (block.pairwise_pairs offset).imp fun order => order.imp Or.inl Or.inr
  exact fun left inLeft right inRight => inOrder.forall inLeft inRight

theorem isMatching_pairs (block : Block) : IsMatching block.commands (block.pairs 0) where
  starts := by
    intro position
    constructor
    · intro member
      obtain ⟨entry, inPairs, rfl⟩ := List.mem_map.mp member
      exact (isLoop_of_mem_pairs_zero inPairs).start
    · intro found
      obtain ⟨entry, inPairs, ⟨_, place⟩ | ⟨wrong, _⟩⟩ :=
        block.exists_pair_of_mark 0 found fun primitive => primitive.command_ne_loopStart.symm
      · exact List.mem_map.mpr ⟨entry, inPairs, by rw [place, Nat.zero_add]⟩
      · cases wrong
  ends := by
    intro position
    constructor
    · intro member
      obtain ⟨entry, inPairs, rfl⟩ := List.mem_map.mp member
      exact (isLoop_of_mem_pairs_zero inPairs).finish
    · intro found
      obtain ⟨entry, inPairs, ⟨wrong, _⟩ | ⟨_, place⟩⟩ :=
        block.exists_pair_of_mark 0 found fun primitive => primitive.command_ne_loopEnd.symm
      · cases wrong
      · exact List.mem_map.mpr ⟨entry, inPairs, by rw [place, Nat.zero_add]⟩
  starts_nodup := block.nodup_pairs_starts 0
  ends_nodup := block.nodup_pairs_ends 0
  ordered := fun _ member => (isLoop_of_mem_pairs_zero member).ordered
  balanced := fun _ member => (isLoop_of_mem_pairs_zero member).balanced
  apart := block.apart_of_mem_pairs 0

end Block

/-- A row of commands has at most one matching. -/
theorem IsMatching.perm {commands : List Command} {pairs others : List (Nat × Nat)}
    (first : IsMatching commands pairs) (second : IsMatching commands others) :
    pairs.Perm others := by
  have isLoop : ∀ {entries : List (Nat × Nat)}, IsMatching commands entries →
      ∀ entry ∈ entries, IsLoop commands entry := by
    intro entries matching entry member
    exact IsLoop.of_between ((matching.starts _).mp (List.mem_map_of_mem member))
      ((matching.ends _).mp (List.mem_map_of_mem member)) (matching.ordered entry member)
      (matching.balanced entry member)
  have included : ∀ {left right : List (Nat × Nat)}, IsMatching commands left →
      IsMatching commands right → ∀ entry ∈ left, entry ∈ right := by
    intro left right leftMatching rightMatching entry member
    have start := (leftMatching.starts _).mp (List.mem_map_of_mem member)
    obtain ⟨partner, inRight, same⟩ := List.mem_map.mp ((rightMatching.starts _).mpr start)
    have equal := (isLoop rightMatching partner inRight).eq_of_start_eq
      (isLoop leftMatching entry member) same
    exact equal ▸ inRight
  refine (List.perm_ext_iff_of_nodup first.starts_nodup.of_map second.starts_nodup.of_map).mpr ?_
  intro entry
  exact ⟨included first second entry, included second first entry⟩

end TapeMachine
