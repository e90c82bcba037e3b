import TapeMachine.Execution
import TapeMachine.Proofs.Machine.Twins

/-!
# Executions of texts with the same commands

Two texts with the same commands give programs that differ in layout only, and so twin sessions.
Their executions come to the same result or fail in the same way, but for the places and the source
that a failure points at.
-/

set_option autoImplicit false

namespace TapeMachine

/-! ## Failures without their places -/

def Fault.withoutPlace : Fault → Fault
  | .head fault => .head { fault with source := "", place := Place.unknown }
  | .transfer fault => .transfer { fault with place := Place.unknown }
  | fault => fault

theorem Fault.withoutPlace_relaid (fault : Fault) (machine : Machine) :
    (fault.relaid machine).withoutPlace = fault.withoutPlace := by
  cases fault <;> rfl

def SourceFault.withoutPlace : SourceFault → SourceFault
  | .unmatched fault => .unmatched fault.withoutPlace
  | fault => fault

/-- The failure with neither the source nor the place it points at; its kind and all its other facts
stay. -/
def Failure.withoutPlace : Failure → Failure
  | .source fault => .source fault.withoutPlace
  | .setup fault => .setup fault
  | .run fault => .run fault.withoutPlace

/-! ## Executions that resemble each other -/

/-- Two runs of one length that differ in no more than the places that their failures point at. -/
inductive Run.Resembles : Run → Run → Prop where
  | ended {first second : Session} (same : Summary.ofSession second = Summary.ofSession first) :
      Resembles (.ended first) (.ended second)
  | failed {fault fault' : Fault} {first second : Session}
      (alike : fault'.withoutPlace = fault.withoutPlace)
      (same : Summary.ofSession second = Summary.ofSession first) :
      Resembles (.failed fault first) (.failed fault' second)
  | unfinished (first second : Session) : Resembles (.unfinished first) (.unfinished second)

inductive Execution.Resembles : Execution → Execution → Prop where
  | refused {failure failure' : Failure} (events events' : Array Event)
      (alike : failure'.withoutPlace = failure.withoutPlace) :
      Resembles (.refused failure events) (.refused failure' events')
  | started {run run' : Run} (runs : run.Resembles run') : Resembles (.started run) (.started run')

theorem Session.Twins.summary_eq {first second : Session} (twins : first.Twins second) :
    Summary.ofSession second = Summary.ofSession first := by
  rw [twins.second_eq]
  rfl

theorem Run.Twins.resembles {run run' : Run} (twins : run.Twins run') : run.Resembles run' := by
  cases twins with
  | ended twins => exact .ended twins.summary_eq
  | failed twins same => exact .failed (same ▸ Fault.withoutPlace_relaid _ _) twins.summary_eq
  | unfinished twins => exact .unfinished _ _

/-! ## Setting up -/

theorem Machine.create_eq_map (memory : Memory) (program other : Program) (cells : Int)
    (growable : Flag) (width : CellWidth) :
    create memory other cells growable width =
      (create memory program cells growable width).map fun machine =>
        { machine with program := other } := by
  rw [create, create]
  by_cases negative : cells < 0
  · rw [if_pos negative, if_pos negative]
    rfl
  · rw [if_neg negative, if_neg negative]
    simp only
    cases memory.zeros width (startLength cells) with
    | error fault => rfl
    | ok row => rfl

/-- Programs that differ in layout are set up alike: as twin sessions, or not at all. -/
theorem Session.setUp_relaid {program other : Program} (relaid : program.Relaid other)
    (memory : Memory) (setup : Setup) (exchange : Exchange) (events events' : Array Event) :
    (∃ fault, setUp memory program setup exchange events = .error fault ∧
      setUp memory other setup exchange events' = .error fault) ∨
    ∃ width session session', setUp memory program setup exchange events = .ok session ∧
      setUp memory other setup exchange events' = .ok session' ∧
      Machine.create memory program setup.cells setup.growable width = .ok session.machine ∧
      session'.machine.program = other ∧ session.Twins session' := by
  rw [setUp, setUp]
  cases CellWidth.ofRequest setup.width with
  | error fault => exact Or.inl ⟨_, rfl, rfl⟩
  | ok width =>
      simp only
      rw [Machine.create_eq_map memory program other]
      cases made : Machine.create memory program setup.cells setup.growable width with
      | error fault => exact Or.inl ⟨_, rfl, rfl⟩
      | ok machine =>
          obtain ⟨rfl, _⟩ := Machine.create_eq_ok made
          exact Or.inr ⟨width, _, _, rfl, rfl, made, rfl, relaid, rfl⟩

namespace Execution

theorem ofProgram_relaid {source name : String} {program other : Program}
    (loaded : Program.ofSource source name = .ok program) (relaid : program.Relaid other)
    (fuel : Nat) (memory : Memory) (setup : Setup) (input : List UInt8) :
    (ofProgram fuel memory program setup input).Resembles
      (ofProgram fuel memory other setup input) := by
  rw [ofProgram, ofProgram]
  rcases Session.setUp_relaid relaid memory setup (Exchange.ofBytes input)
    #[program.loadedEvent] #[other.loadedEvent] with ⟨fault, first, second⟩ |
      ⟨width, session, session', first, second, made, _, twins⟩
  · rw [first, second]
    exact .refused _ _ rfl
  · rw [first, second]
    obtain ⟨block, start⟩ := Session.loaded_of_create loaded made session.exchange session.events
    exact .started (twins.run start fuel).resembles

end Execution

/-- Texts with the same commands, whatever else they hold, are loaded alike: as programs that differ
in layout only, or not at all, for a loop mark of the same kind.  Their executions come to the same
result in the same number of steps, or fail in the same way; the failures differ in no more than
the places and the sources that they point at. -/
theorem layout_has_no_influence {source source' : String}
    (same : source'.toList.filterMap Command.ofChar? = source.toList.filterMap Command.ofChar?)
    (name : String) :
    Program.LoadsAlike (Program.ofSource source name) (Program.ofSource source' name) ∧
      ∀ fuel memory setup input, (Execution.ofText fuel memory source name setup input).Resembles
        (Execution.ofText fuel memory source' name setup input) := by
  have loads := Program.loadsAlike same name
  refine ⟨loads, ?_⟩
  intro fuel memory setup input
  rw [Execution.ofText, Execution.ofText]
  cases first : Program.ofSource source name with
  | error fault =>
      cases second : Program.ofSource source' name with
      | error fault' =>
          rw [first, second] at loads
          cases loads with
          | rejected alike =>
              exact .refused _ _ (congrArg (fun fault => Failure.source (.unmatched fault)) alike)
      | ok program' =>
          rw [first, second] at loads
          cases loads
  | ok program =>
      cases second : Program.ofSource source' name with
      | error fault' =>
          rw [first, second] at loads
          cases loads
      | ok program' =>
          rw [first, second] at loads
          cases loads with
          | accepted relaid => exact Execution.ofProgram_relaid first relaid fuel memory setup input

/-- A loop and a move that fails, written with and without comments. -/
theorem commented_move_fails_alike :
    "a\n[-] <".toList.filterMap Command.ofChar? =
        "[-]<".toList.filterMap Command.ofChar? ∧
      Program.LoadsAlike (Program.ofSource "[-]<" "short")
        (Program.ofSource "a\n[-] <" "short") ∧
      ∃ fault last fault' last',
        Execution.ofText 9 .ample "[-]<" "short" { cells := 2 } [] =
          .started (.failed (.head fault) last) ∧
        Execution.ofText 9 .ample "a\n[-] <" "short" { cells := 2 } [] =
          .started (.failed (.head fault') last') ∧
        fault.place = ⟨1, 4⟩ ∧ fault'.place = ⟨2, 5⟩ ∧
        Summary.ofSession last' = Summary.ofSession last := by
  have same : "a\n[-] <".toList.filterMap Command.ofChar? =
    "[-]<".toList.filterMap Command.ofChar? := by decide
  obtain ⟨loads, executions⟩ := layout_has_no_influence same "short"
  have first : ∃ fault last, Execution.ofText 9 .ample "[-]<" "short" { cells := 2 } [] =
    .started (.failed (.head fault) last) ∧ fault.place = ⟨1, 4⟩ := ⟨_, _, rfl, rfl⟩
  have second : ∃ fault last, Execution.ofText 9 .ample "a\n[-] <" "short" { cells := 2 } [] =
    .started (.failed (.head fault) last) ∧ fault.place = ⟨2, 5⟩ := ⟨_, _, rfl, rfl⟩
  obtain ⟨fault, last, executed, place⟩ := first
  obtain ⟨fault', last', executed', place'⟩ := second
  have resembles := executions 9 .ample { cells := 2 } []
  rw [executed, executed'] at resembles
  refine ⟨same, loads, fault, last, fault', last', executed, executed', place, place', ?_⟩
  cases resembles with
  | started runs =>
      cases runs with
      | failed alike summary => exact summary

end TapeMachine
