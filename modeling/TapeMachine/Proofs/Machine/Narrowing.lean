import TapeMachine.Proofs.Machine.Bounds
import TapeMachine.Proofs.Machine.Recast

/-!
# Wide cells and narrow ones

Cut down to fewer bits, the cells of a run are the cells of a run on narrow cells, for arithmetic
and bytes do not notice the bits that are missing.  A loop test does: it tells a value apart from
zero that has only zeros in its lower bits.

Main statement: up to such a test, runs on wide and on narrow cells go in lockstep.
-/

set_option autoImplicit false

namespace TapeMachine

/-- Whether the next step is a loop test that finds a value other than zero where narrower cells
have a zero. -/
def Machine.tellsApart (narrow : CellWidth) (machine : Machine) : Bool :=
  match machine.program.instruction? machine.position, machine.currentCell? with
  | some instruction, some value =>
    instruction.command = .loopEnd && value ≠ 0 && value % narrow.modulus = 0
  | _, _ => false

theorem Program.command_mem_of_instruction? {program : Program} {index : Int}
    {instruction : Instruction} (found : program.instruction? index = some instruction) :
    instruction.command ∈ program.commands :=
  List.mem_map_of_mem (mem_of_instruction? found)

namespace Session

abbrev narrowed (narrow : CellWidth) : Session → Session :=
  recast narrow (fun value => value % narrow.modulus) id

structure Narrowed (narrow : CellWidth) (wide session : Session) : Prop where
  position : session.machine.position = wide.machine.position
  head : session.machine.head = wide.machine.head
  length : session.machine.tape.length = wide.machine.tape.length
  exchange : session.exchange = wide.exchange
  cells : session.machine.tape.cells =
    wide.machine.tape.cells.map fun value => value % narrow.modulus

theorem narrowed_narrowed (narrow : CellWidth) (session : Session) :
    session.Narrowed narrow (session.narrowed narrow) where
  position := rfl
  head := rfl
  length := rfl
  exchange := rfl
  cells := session.machine.tape.cells_map

theorem step_narrowed {narrow : CellWidth} {session : Session}
    (narrower : narrow.bits ≤ session.machine.width.bits)
    (alike : session.machine.tellsApart narrow = false) :
    step (session.narrowed narrow) = image (narrowed narrow) (step session) := by
  apply step_recast session (CellWidth.casts_mod narrower)
  · intro byte
    rfl
  · intro _ _ _
    rfl
  · intro instruction found tests value cell nonzero zero
    simp [Machine.tellsApart, found, cell, tests, nonzero, zero] at alike

/-- The run on narrow cells is the run on wide cells, cut down. -/
theorem runFor_narrowed {narrow : CellWidth} {session : Session}
    (narrower : narrow.bits ≤ session.machine.width.bits) (fuel : Nat)
    (alike : ∀ count reached, count < fuel → Steps count session reached →
      reached.machine.tellsApart narrow = false) :
    runFor fuel (session.narrowed narrow) = (runFor fuel session).map (narrowed narrow) := by
  apply (isView_recast _ _ _).runFor
  intro count reached fewer steps _
  have width := (evolves_of_steps steps).width_eq
  exact step_narrowed (width ▸ narrower) (alike count reached fewer steps)

theorem tellsApart_of_loopless {narrow : CellWidth} {machine : Machine}
    (loopless : .loopEnd ∉ machine.program.commands) : machine.tellsApart narrow = false := by
  rw [Machine.tellsApart]
  split
  · next instruction value found cell =>
      have test : instruction.command ≠ .loopEnd := by
        intro test
        apply loopless
        rw [← test]
        exact Program.command_mem_of_instruction? found
      simp [test]
  · rfl

theorem narrowed_of_create {memory : Memory} {program : Program} {cells : Int} {growable : Flag}
    {wide narrow : CellWidth} {machine machine' : Machine}
    (made : Machine.create memory program cells growable wide = .ok machine)
    (made' : Machine.create memory program cells growable narrow = .ok machine')
    (exchange : Exchange) (events : Array Event) :
    (⟨machine, exchange, events⟩ : Session).narrowed narrow = ⟨machine', exchange, events⟩ := by
  obtain ⟨rfl, _⟩ := Machine.create_eq_ok made
  obtain ⟨rfl, _⟩ := Machine.create_eq_ok made'
  have blank := Tape.map_blank (fun value => value % narrow.modulus) (Nat.zero_mod _)
    (Machine.startLength cells)
  simp only [recast, blank, id_eq]

end Session

/-- Runs on wide and on narrow cells stand alike after some steps, the same failure included, if no
loop test of the wide run among these steps told the two apart.  Without loops they always do. -/
theorem wide_and_narrow_cells_in_lockstep {memory : Memory} {program : Program} {cells : Int}
    {growable : Flag} {wide narrow : CellWidth} {machine machine' : Machine}
    (narrower : narrow.bits < wide.bits)
    (made : Machine.create memory program cells growable wide = .ok machine)
    (made' : Machine.create memory program cells growable narrow = .ok machine')
    (exchange : Exchange) (events : Array Event) :
    (∀ fuel,
      (∀ count reached, count < fuel → Session.Steps count ⟨machine, exchange, events⟩ reached →
        reached.machine.tellsApart narrow = false) →
      (Session.runFor fuel ⟨machine, exchange, events⟩).Corresponds (Session.Narrowed narrow)
        (Session.runFor fuel ⟨machine', exchange, events⟩)) ∧
    (.loopEnd ∉ program.commands → ∀ fuel,
      (Session.runFor fuel ⟨machine, exchange, events⟩).Corresponds (Session.Narrowed narrow)
        (Session.runFor fuel ⟨machine', exchange, events⟩)) := by
  have fresh := Session.narrowed_of_create made made' exchange events
  obtain ⟨same, _⟩ := Machine.create_eq_ok made
  have width : machine.width = wide := by
    rw [same]
  have same : machine.program = program := by
    rw [same]
  have together : ∀ fuel,
      (∀ count reached, count < fuel → Session.Steps count ⟨machine, exchange, events⟩ reached →
        reached.machine.tellsApart narrow = false) →
      (Session.runFor fuel ⟨machine, exchange, events⟩).Corresponds (Session.Narrowed narrow)
        (Session.runFor fuel ⟨machine', exchange, events⟩) := by
    intro fuel alike
    have narrower : narrow.bits ≤ machine.width.bits := by
      rw [width]
      exact Nat.le_of_lt narrower
    rw [← fresh, Session.runFor_narrowed narrower fuel alike]
    exact Run.corresponds_map (Session.narrowed_narrowed narrow) _
  refine ⟨together, ?_⟩
  intro loopless fuel
  apply together
  intro count reached _ steps
  apply Session.tellsApart_of_loopless
  have kept := (Session.evolves_of_steps steps).program_eq
  rwa [kept, same]

theorem loop_test_at_low_byte_255 :
    ∃ program machine machine', Program.ofSource "-[.-]" "count" = .ok program ∧
      Machine.create .ample program 1 (.truth false) .sixteen = .ok machine ∧
      Machine.create .ample program 1 (.truth false) .eight = .ok machine' ∧
      (Session.runFor 4 ⟨machine, Exchange.ofBytes [], #[]⟩).session.exchange.output = [255] ∧
      (Session.runFor 4 ⟨machine, Exchange.ofBytes [], #[]⟩).Corresponds (Session.Narrowed .eight)
        (Session.runFor 4 ⟨machine', Exchange.ofBytes [], #[]⟩) := by
  let program := Program.assemble (Instruction.scan "-[.-]".toList) [(1, 4)] "count" "-[.-]"
  have loaded : Program.ofSource "-[.-]" "count" = .ok program := rfl
  let machine (width : CellWidth) : Machine :=
    ⟨program, width, .truth false, 1, Tape.blank 1, 0, 0⟩
  have made' : Machine.create .ample program 1 (.truth false) .eight = .ok (machine .eight) := rfl
  -- The wide machine keeps a name of its own, lest its run be unfolded where it is mentioned.
  obtain ⟨wide, same⟩ : ∃ wide, wide = machine .sixteen := ⟨_, rfl⟩
  have made : Machine.create .ample program 1 (.truth false) .sixteen = .ok wide := by
    rw [same]
    rfl
  have output : (Session.runFor 4 ⟨wide, Exchange.ofBytes [], #[]⟩).session.exchange.output =
      [255] := by
    rw [same]
    decide +kernel
  obtain ⟨lockstep, _⟩ := wide_and_narrow_cells_in_lockstep (by decide) made made'
    (Exchange.ofBytes []) #[]
  refine ⟨program, wide, _, loaded, made, made', output, lockstep 4 ?_⟩
  intro count reached fewer steps
  rw [← steps.machine_runFor, same]
  match count, fewer with
  | 0, _ => rfl
  | 1, _ => decide +kernel
  | 2, _ => decide +kernel
  | 3, _ => decide +kernel

end TapeMachine
