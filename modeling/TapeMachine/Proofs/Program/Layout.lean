import TapeMachine.Proofs.Program.Loaded
import TapeMachine.Proofs.Program.Scan

/-!
# The layout of a source text

Two programs are the same but for their layout when they have the same commands, name and tables;
where the commands stand may differ.  Pairing looks at commands only, so two texts with the same
commands are loaded alike: as such programs, or not at all, for a loop mark of the same kind.
-/

set_option autoImplicit false

namespace TapeMachine

/-! ## Instructions without their places -/

def Instruction.bare (instruction : Instruction) : Instruction :=
  ⟨instruction.command, Place.unknown⟩

theorem Instruction.map_bare_eq {instructions others : List Instruction}
    (same : others.map command = instructions.map command) :
    others.map bare = instructions.map bare := by
  have split : bare = (fun command => ⟨command, Place.unknown⟩) ∘ command := rfl
  rw [split, ← List.map_map, same, List.map_map]

namespace Brackets

def Unpaired.bare : Unpaired → Unpaired
  | start instruction => .start instruction.bare
  | finish instruction => .finish instruction.bare

def Pairing.bare (pairing : Pairing) : Pairing :=
  { pairing with waiting := pairing.waiting.map fun entry => (entry.1, entry.2.bare) }

theorem visit_bare (pairing : Pairing) (instruction : Instruction) (position : Nat) :
    visit pairing.bare (instruction.bare, position) =
      ((visit pairing (instruction, position)).map Pairing.bare).mapError Unpaired.bare := by
  rcases instruction.command.mark_or_primitive with start | finish | ⟨primitive, acts⟩
  · have start' : instruction.bare.command = .loopStart := start
    rw [visit_start _ _ start, visit_start _ _ start']
    rfl
  · have finish' : instruction.bare.command = .loopEnd := finish
    cases waits : pairing.waiting with
    | nil =>
        have waits' : pairing.bare.waiting = [] := congrArg (List.map _) waits
        rw [visit_end_alone _ finish waits, visit_end_alone _ finish' waits']
        rfl
    | cons entry rest =>
        have waits' : pairing.bare.waiting = _ := congrArg (List.map _) waits
        rw [visit_end_paired _ finish waits, visit_end_paired _ finish' waits']
        rfl
  · have acts' : instruction.bare.command = primitive.command := acts
    rw [visit_primitive _ _ acts, visit_primitive _ _ acts']
    rfl

theorem visitAll_bare (instructions : List Instruction) (pairing : Pairing) (position : Nat) :
    visitAll pairing.bare position (instructions.map Instruction.bare) =
      ((visitAll pairing position instructions).map Pairing.bare).mapError Unpaired.bare := by
  induction instructions generalizing pairing position with
  | nil => rfl
  | cons instruction rest ih =>
      rw [List.map_cons, visitAll_cons, visitAll_cons, visit_bare]
      cases visit pairing (instruction, position) with
      | error unpaired => rfl
      | ok next => exact ih next (position + 1)

theorem pair_bare (instructions : List Instruction) :
    pair (instructions.map Instruction.bare) = (pair instructions).mapError Unpaired.bare := by
  have visited : visitAll ⟨[], []⟩ 0 (instructions.map Instruction.bare) =
      ((visitAll ⟨[], []⟩ 0 instructions).map Pairing.bare).mapError Unpaired.bare :=
    visitAll_bare instructions ⟨[], []⟩ 0
  rw [pair_eq, pair_eq, visited]
  cases visitAll ⟨[], []⟩ 0 instructions with
  | error unpaired => rfl
  | ok pairing =>
      obtain ⟨waiting, closed⟩ := pairing
      cases waiting with
      | nil => rfl
      | cons entry rest => rfl

end Brackets

/-! ## Programs and failures that differ in layout -/

def UnmatchedBracket.withoutPlace (fault : UnmatchedBracket) : UnmatchedBracket :=
  { fault with source := "", place := Place.unknown }

theorem Brackets.withoutPlace_report {unpaired other : Unpaired} (name source source' : String)
    (same : other.bare = unpaired.bare) :
    (other.report name source').withoutPlace = (unpaired.report name source).withoutPlace := by
  cases unpaired with
  | start instruction =>
      cases other with
      | start instruction' => rfl
      | finish instruction' => cases same
  | finish instruction =>
      cases other with
      | start instruction' => cases same
      | finish instruction' => rfl

namespace Program

/-- One program is the other one in another layout. -/
structure Relaid (program other : Program) : Prop where
  commands : other.commands = program.commands
  name : other.name = program.name
  ends : other.ends = program.ends
  starts : other.starts = program.starts

theorem Relaid.refl (program : Program) : program.Relaid program := ⟨rfl, rfl, rfl, rfl⟩

theorem Relaid.size_eq {program other : Program} (relaid : program.Relaid other) :
    other.size = program.size := by
  rw [← length_commands, relaid.commands, length_commands]

/-- Two loadings that come to the same: programs that differ in layout, or failures that do. -/
inductive LoadsAlike : Except UnmatchedBracket Program → Except UnmatchedBracket Program → Prop where
  | accepted {program other : Program} (relaid : program.Relaid other) :
      LoadsAlike (.ok program) (.ok other)
  | rejected {fault other : UnmatchedBracket} (same : other.withoutPlace = fault.withoutPlace) :
      LoadsAlike (.error fault) (.error other)

theorem loadsAlike {source source' : String}
    (same : source'.toList.filterMap Command.ofChar? = source.toList.filterMap Command.ofChar?)
    (name : String) : LoadsAlike (ofSource source name) (ofSource source' name) := by
  have commands : (Instruction.scan source'.toList).map Instruction.command =
      (Instruction.scan source.toList).map Instruction.command := by
    rw [Instruction.commands_scan, Instruction.commands_scan, same]
  have paired : (Brackets.pair (Instruction.scan source'.toList)).mapError Brackets.Unpaired.bare =
      (Brackets.pair (Instruction.scan source.toList)).mapError Brackets.Unpaired.bare := by
    rw [← Brackets.pair_bare, ← Brackets.pair_bare, Instruction.map_bare_eq commands]
  rw [ofSource, ofSource]
  cases first : Brackets.pair (Instruction.scan source.toList) with
  | error unpaired =>
      cases second : Brackets.pair (Instruction.scan source'.toList) with
      | error unpaired' =>
          rw [first, second] at paired
          exact .rejected (Brackets.withoutPlace_report _ _ _ (Except.error.inj paired))
      | ok pairs' =>
          rw [first, second] at paired
          cases paired
  | ok pairs =>
      cases second : Brackets.pair (Instruction.scan source'.toList) with
      | error unpaired' =>
          rw [first, second] at paired
          cases paired
      | ok pairs' =>
          rw [first, second] at paired
          obtain rfl : pairs' = pairs := Except.ok.inj paired
          exact .accepted ⟨commands, rfl, rfl, rfl⟩

end Program

end TapeMachine
