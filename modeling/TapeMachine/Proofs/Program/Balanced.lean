import Mathlib.Logic.ExistsUnique
import TapeMachine.Command

/-!
# Balanced commands and their parse trees

A row of commands is balanced when the grammar with the rules "nothing", "a primitive command, then
a balanced row" and "a loop around a balanced row, then a balanced row" generates it.  A `Block` is
a derivation in this grammar.  Every balanced row is the row of exactly one block.
-/

set_option autoImplicit false

namespace TapeMachine

/-- A command that is no loop mark. -/
inductive Primitive where
  | right
  | left
  | increment
  | decrement
  | output
  | input
  deriving DecidableEq, Repr

def Primitive.command : Primitive → Command
  | right => .right
  | left => .left
  | increment => .increment
  | decrement => .decrement
  | output => .output
  | input => .input

theorem Primitive.command_injective {first second : Primitive}
    (same : first.command = second.command) : first = second := by
  cases first <;> cases second <;> first | rfl | cases same

theorem Primitive.command_ne_loopStart (primitive : Primitive) :
    primitive.command ≠ .loopStart := by
  cases primitive <;> exact Command.noConfusion

theorem Primitive.command_ne_loopEnd (primitive : Primitive) :
    primitive.command ≠ .loopEnd := by
  cases primitive <;> exact Command.noConfusion

theorem Command.mark_or_primitive (command : Command) :
    command = .loopStart ∨ command = .loopEnd ∨
      ∃ primitive : Primitive, command = primitive.command := by
  cases command with
  | loopStart => exact Or.inl rfl
  | loopEnd => exact Or.inr (Or.inl rfl)
  | right => exact Or.inr (Or.inr ⟨.right, rfl⟩)
  | left => exact Or.inr (Or.inr ⟨.left, rfl⟩)
  | increment => exact Or.inr (Or.inr ⟨.increment, rfl⟩)
  | decrement => exact Or.inr (Or.inr ⟨.decrement, rfl⟩)
  | output => exact Or.inr (Or.inr ⟨.output, rfl⟩)
  | input => exact Or.inr (Or.inr ⟨.input, rfl⟩)

/-- The rows of commands that the grammar generates. -/
inductive Balanced : List Command → Prop where
  | nil : Balanced []
  | act (primitive : Primitive) {rest : List Command} (tail : Balanced rest) :
      Balanced (primitive.command :: rest)
  | loop {body rest : List Command} (inner : Balanced body) (tail : Balanced rest) :
      Balanced (.loopStart :: body ++ .loopEnd :: rest)

namespace Balanced

theorem append {first second : List Command} (left : Balanced first) (right : Balanced second) :
    Balanced (first ++ second) := by
  induction left with
  | nil => exact right
  | act primitive _ ih => exact Balanced.act primitive ih
  | @loop body rest inner _ _ ih =>
      have whole := Balanced.loop inner ih
      simpa using whole

theorem single (primitive : Primitive) : Balanced [primitive.command] :=
  Balanced.act primitive Balanced.nil

theorem enclose {body : List Command} (inner : Balanced body) :
    Balanced (.loopStart :: body ++ [.loopEnd]) :=
  Balanced.loop inner Balanced.nil

end Balanced

/-- A parse tree of balanced commands. -/
inductive Block where
  | done
  | act (primitive : Primitive) (rest : Block)
  | loop (body rest : Block)
  deriving DecidableEq, Repr

namespace Block

def commands : Block → List Command
  | done => []
  | act primitive rest => primitive.command :: rest.commands
  | loop body rest => .loopStart :: body.commands ++ .loopEnd :: rest.commands

def size (block : Block) : Nat := block.commands.length

@[simp] theorem size_done : done.size = 0 := rfl

@[simp] theorem size_act (primitive : Primitive) (rest : Block) :
    (act primitive rest).size = rest.size + 1 := rfl

@[simp] theorem size_loop (body rest : Block) :
    (loop body rest).size = body.size + rest.size + 2 := by
  simp only [size, commands, List.length_append, List.length_cons]
  omega

theorem balanced_commands (block : Block) : Balanced block.commands := by
  induction block with
  | done => exact Balanced.nil
  | act primitive _ ih => exact Balanced.act primitive ih
  | loop _ _ innerIh tailIh => exact Balanced.loop innerIh tailIh

end Block

theorem balanced_iff_exists_block (commands : List Command) :
    Balanced commands ↔ ∃ block : Block, block.commands = commands := by
  constructor
  · intro balanced
    induction balanced with
    | nil => exact ⟨.done, rfl⟩
    | act primitive _ ih =>
        obtain ⟨rest, same⟩ := ih
        exact ⟨.act primitive rest, by rw [Block.commands, same]⟩
    | loop _ _ innerIh tailIh =>
        obtain ⟨body, sameBody⟩ := innerIh
        obtain ⟨rest, sameRest⟩ := tailIh
        exact ⟨.loop body rest, by rw [Block.commands, sameBody, sameRest]⟩
  · rintro ⟨block, rfl⟩
    exact block.balanced_commands

/-! ## Reading a parse back from its row -/

/-- A row that no balanced commands can begin with: it is empty or starts with a loop end. -/
def Closes (commands : List Command) : Prop :=
  commands = [] ∨ ∃ rest, commands = .loopEnd :: rest

theorem Closes.nil : Closes [] := Or.inl rfl

theorem Closes.loopEnd (rest : List Command) : Closes (.loopEnd :: rest) := Or.inr ⟨rest, rfl⟩

theorem not_closes_act (primitive : Primitive) (rest : List Command) :
    ¬ Closes (primitive.command :: rest) := by
  rintro (empty | ⟨_, starts⟩)
  · cases empty
  · exact primitive.command_ne_loopEnd (List.cons.inj starts).1

theorem not_closes_loopStart (rest : List Command) : ¬ Closes (.loopStart :: rest) := by
  rintro (empty | ⟨_, starts⟩)
  · cases empty
  · cases (List.cons.inj starts).1

/-- Balanced commands end where the first row that closes begins, so a tree and what follows it can
be read back. -/
theorem Block.commands_append_inj :
    ∀ (first second : Block) {rest others : List Command}, Closes rest → Closes others →
      first.commands ++ rest = second.commands ++ others → first = second ∧ rest = others := by
  intro first
  induction first with
  | done =>
      intro second rest others closes _ same
      cases second with
      | done => exact ⟨rfl, same⟩
      | act primitive tail =>
          have shape : rest = primitive.command :: (tail.commands ++ others) := same
          exact absurd (shape ▸ closes) (not_closes_act _ _)
      | loop body tail =>
          simp only [commands, List.nil_append, List.cons_append] at same
          exact absurd (same ▸ closes) (not_closes_loopStart _)
  | act primitive tail ih =>
      intro second rest others closes closes' same
      cases second with
      | done =>
          have shape : primitive.command :: (tail.commands ++ rest) = others := same
          exact absurd (shape ▸ closes') (not_closes_act _ _)
      | act primitive' tail' =>
          obtain ⟨sameHead, sameTail⟩ := List.cons.inj same
          obtain ⟨rfl, rfl⟩ := ih tail' closes closes' sameTail
          exact ⟨by rw [Primitive.command_injective sameHead], rfl⟩
      | loop body' tail' =>
          exact absurd (List.cons.inj same).1 primitive.command_ne_loopStart
  | loop body tail bodyIh tailIh =>
      intro second rest others closes closes' same
      cases second with
      | done =>
          simp only [commands, List.nil_append, List.cons_append] at same
          exact absurd (same ▸ closes') (not_closes_loopStart _)
      | act primitive' tail' =>
          exact absurd (List.cons.inj same).1.symm primitive'.command_ne_loopStart
      | loop body' tail' =>
          simp only [commands, List.cons_append, List.append_assoc, List.cons.injEq,
            true_and] at same
          obtain ⟨rfl, sameRest⟩ := bodyIh body' (Closes.loopEnd _) (Closes.loopEnd _) same
          obtain ⟨rfl, rfl⟩ := tailIh tail' closes closes' (List.cons.inj sameRest).2
          exact ⟨rfl, rfl⟩

theorem Block.commands_injective {first second : Block}
    (same : first.commands = second.commands) : first = second :=
  (commands_append_inj first second Closes.nil Closes.nil (by rw [same])).1

/-- Balanced commands have exactly one parse tree. -/
theorem Balanced.existsUnique_block {commands : List Command} (balanced : Balanced commands) :
    ∃! block : Block, block.commands = commands := by
  obtain ⟨block, same⟩ := (balanced_iff_exists_block commands).mp balanced
  exact ⟨block, same, fun other same' => Block.commands_injective (same'.trans same.symm)⟩

end TapeMachine
