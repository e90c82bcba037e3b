import TapeMachine.Program.Brackets
import TapeMachine.Proofs.Program.Matching

/-!
# Pairing accepts the balanced rows

One pass with a stack of waiting starts finds the pairs of the parse tree when there is one.  In
the other direction the stack splits what has been read: behind every waiting start stand balanced
commands, and so do they before the first one.  A pass that ends with an empty stack has therefore
read a balanced row.
-/

set_option autoImplicit false

namespace TapeMachine.Brackets

theorem visit_start (pairing : Pairing) {instruction : Instruction} (position : Nat)
    (start : instruction.command = .loopStart) :
    visit pairing (instruction, position) =
      .ok { pairing with waiting := (position, instruction) :: pairing.waiting } := by
  unfold visit
  simp only [start]

theorem visit_end_alone {pairing : Pairing} {instruction : Instruction} (position : Nat)
    (finish : instruction.command = .loopEnd) (alone : pairing.waiting = []) :
    visit pairing (instruction, position) = .error (.finish instruction) := by
  simp [visit, finish, alone]

theorem visit_end_paired {pairing : Pairing} {instruction : Instruction} (position : Nat)
    {start : Nat × Instruction} {rest : List (Nat × Instruction)}
    (finish : instruction.command = .loopEnd) (waits : pairing.waiting = start :: rest) :
    visit pairing (instruction, position) =
      .ok ⟨rest, (start.1, position) :: pairing.closed⟩ := by
  simp [visit, finish, waits]

theorem visit_primitive (pairing : Pairing) {instruction : Instruction} (position : Nat)
    {primitive : Primitive} (acts : instruction.command = primitive.command) :
    visit pairing (instruction, position) = .ok pairing := by
  unfold visit
  cases primitive <;> simp only [acts, Primitive.command]

def visitAll (pairing : Pairing) (position : Nat) (instructions : List Instruction) :
    Except Unpaired Pairing :=
  (instructions.zipIdx position).foldlM visit pairing

section VisitAll
variable (pairing : Pairing) (position : Nat)

theorem visitAll_nil : visitAll pairing position [] = .ok pairing := rfl

theorem visitAll_cons (instruction : Instruction) (rest : List Instruction) :
    visitAll pairing position (instruction :: rest) =
      match visit pairing (instruction, position) with
      | .ok next => visitAll next (position + 1) rest
      | .error unpaired => .error unpaired := by
  rw [visitAll, List.zipIdx_cons, List.foldlM_cons]
  cases visit pairing (instruction, position) <;> rfl

theorem visitAll_append (first second : List Instruction) :
    visitAll pairing position (first ++ second) =
      match visitAll pairing position first with
      | .ok next => visitAll next (position + first.length) second
      | .error unpaired => .error unpaired := by
  rw [visitAll, List.zipIdx_append, List.foldlM_append, ← visitAll]
  cases visitAll pairing position first <;> rfl

end VisitAll

theorem pair_eq (instructions : List Instruction) :
    pair instructions =
      match visitAll ⟨[], []⟩ 0 instructions with
      | .error unpaired => .error unpaired
      | .ok pairing =>
        match pairing.waiting with
        | [] => .ok pairing.closed.reverse
        | (_, instruction) :: _ => .error (.start instruction) := by
  change (visitAll ⟨[], []⟩ 0 instructions >>= _) = _
  cases visitAll ⟨[], []⟩ 0 instructions <;> rfl

/-! ## Balanced rows are paired -/

/-- A balanced part leaves the waiting starts alone and adds its own pairs. -/
theorem visitAll_block :
    ∀ (block : Block) (instructions : List Instruction) (pairing : Pairing) (position : Nat),
      instructions.map Instruction.command = block.commands →
        visitAll pairing position instructions =
          .ok ⟨pairing.waiting, (block.pairs position).reverse ++ pairing.closed⟩ := by
  intro block
  induction block with
  | done =>
      intro instructions pairing position same
      rw [List.map_eq_nil_iff.mp same]
      rfl
  | act primitive rest ih =>
      intro instructions pairing position same
      obtain ⟨first, others, rfl, acts, sameRest⟩ := List.map_eq_cons_iff.mp same
      rw [visitAll_cons, visit_primitive pairing position acts]
      exact ih others pairing (position + 1) sameRest
  | loop body rest bodyIh restIh =>
      intro instructions pairing position same
      obtain ⟨front, back, rfl, sameFront, sameBack⟩ := List.map_eq_append_iff.mp same
      obtain ⟨first, inner, rfl, start, sameBody⟩ := List.map_eq_cons_iff.mp sameFront
      obtain ⟨mark, others, rfl, finish, sameRest⟩ := List.map_eq_cons_iff.mp sameBack
      have last : position + 1 + inner.length = position + body.size + 1 := by
        rw [Block.size, ← sameBody, List.length_map, Nat.add_right_comm]
      rw [List.cons_append, visitAll_cons, visit_start pairing position start]
      simp only
      rw [visitAll_append, bodyIh inner _ _ sameBody]
      simp only
      rw [visitAll_cons, visit_end_paired _ finish rfl]
      simp only
      rw [restIh others _ _ sameRest, last]
      simp only [Block.pairs, List.reverse_append, List.reverse_cons, List.append_assoc,
        List.cons_append, List.nil_append]

theorem pair_block {block : Block} {instructions : List Instruction}
    (same : instructions.map Instruction.command = block.commands) :
    pair instructions = .ok (block.pairs 0) := by
  rw [pair_eq, visitAll_block block instructions ⟨[], []⟩ 0 same]
  simp

/-! ## What is paired is balanced -/

/-- How the waiting starts, the last one first, split what has been read: behind each of them stand
balanced commands, and so do they before the first one. -/
def Splits : List (Nat × Instruction) → List Instruction → Prop
  | [], read => Balanced (read.map Instruction.command)
  | (position, start) :: rest, read =>
    ∃ before body, read = before ++ start :: body ∧ before.length = position ∧
      start.command = .loopStart ∧ Balanced (body.map Instruction.command) ∧ Splits rest before

theorem Splits.append {waiting : List (Nat × Instruction)} {read more : List Instruction}
    (splits : Splits waiting read) (balanced : Balanced (more.map Instruction.command)) :
    Splits waiting (read ++ more) := by
  cases waiting with
  | nil =>
      have whole : Balanced (read.map Instruction.command) := splits
      change Balanced _
      rw [List.map_append]
      exact whole.append balanced
  | cons entry rest =>
      obtain ⟨before, body, rfl, place, isStart, inner, outer⟩ := splits
      refine ⟨before, body ++ more, by simp, place, isStart, ?_, outer⟩
      rw [List.map_append]
      exact inner.append balanced

theorem Splits.close {position : Nat} {start finish : Instruction}
    {rest : List (Nat × Instruction)} {read : List Instruction}
    (splits : Splits ((position, start) :: rest) read) (isEnd : finish.command = .loopEnd) :
    Splits rest (read ++ [finish]) := by
  obtain ⟨before, body, rfl, _, isStart, inner, outer⟩ := splits
  rw [List.append_assoc]
  apply outer.append
  simpa [isStart, isEnd] using inner.enclose

theorem Splits.visit {pairing next : Pairing} {read : List Instruction} {instruction : Instruction}
    (splits : Splits pairing.waiting read)
    (visited : visit pairing (instruction, read.length) = .ok next) :
    Splits next.waiting (read ++ [instruction]) := by
  rcases instruction.command.mark_or_primitive with start | finish | ⟨primitive, acts⟩
  · rw [visit_start pairing _ start, Except.ok.injEq] at visited
    subst visited
    exact ⟨read, [], rfl, rfl, start, Balanced.nil, splits⟩
  · cases waits : pairing.waiting with
    | nil =>
        rw [visit_end_alone _ finish waits] at visited
        cases visited
    | cons entry rest =>
        rw [visit_end_paired _ finish waits, Except.ok.injEq] at visited
        subst visited
        rw [waits] at splits
        exact splits.close finish
  · rw [visit_primitive pairing _ acts, Except.ok.injEq] at visited
    subst visited
    apply splits.append
    rw [List.map_singleton, acts]
    exact Balanced.single primitive

theorem Splits.visitAll (instructions : List Instruction) :
    ∀ {pairing result : Pairing} {read : List Instruction}, Splits pairing.waiting read →
      visitAll pairing read.length instructions = .ok result →
        Splits result.waiting (read ++ instructions) := by
  induction instructions with
  | nil =>
      intro pairing result read splits visited
      rw [visitAll_nil, Except.ok.injEq] at visited
      subst visited
      rwa [List.append_nil]
  | cons instruction rest ih =>
      intro pairing result read splits visited
      rw [visitAll_cons] at visited
      cases first : Brackets.visit pairing (instruction, read.length) with
      | error unpaired => simp [first] at visited
      | ok next =>
          simp only [first] at visited
          have later := ih (splits.visit first) (by rwa [List.length_append])
          rwa [List.append_assoc] at later

theorem balanced_of_pair {instructions : List Instruction} {pairs : List (Nat × Nat)}
    (paired : pair instructions = .ok pairs) :
    Balanced (instructions.map Instruction.command) := by
  rw [pair_eq] at paired
  cases visited : visitAll ⟨[], []⟩ 0 instructions with
  | error unpaired => simp [visited] at paired
  | ok pairing =>
      have atStart : Splits (Pairing.mk [] []).waiting [] := Balanced.nil
      have atEnd : Splits pairing.waiting ([] ++ instructions) :=
        Splits.visitAll instructions atStart visited
      cases waits : pairing.waiting with
      | nil => rwa [waits] at atEnd
      | cons entry rest => simp [visited, waits] at paired

theorem pair_eq_ok_iff (instructions : List Instruction) (pairs : List (Nat × Nat)) :
    pair instructions = .ok pairs ↔
      ∃ block : Block, block.commands = instructions.map Instruction.command ∧
        block.pairs 0 = pairs := by
  constructor
  · intro paired
    obtain ⟨block, same⟩ := (balanced_iff_exists_block _).mp (balanced_of_pair paired)
    have expected := pair_block same.symm
    rw [paired, Except.ok.injEq] at expected
    exact ⟨block, same, expected.symm⟩
  · rintro ⟨block, same, rfl⟩
    exact pair_block same.symm

end TapeMachine.Brackets
