import TapeMachine.Proofs.Machine.Failure
import TapeMachine.Proofs.Program.Scan

/-!
# Where failures point

A step that fails leaves the position where it is, so the failure is made out for the instruction
that was at work.  In a loaded program this is the instruction whose symbol the source has at the
reported place.

Main statement: moves fail at the two ends of the tape and nowhere else, transfers fail only where
a byte is read or written, and every failure points at its instruction.
-/

set_option autoImplicit false

namespace TapeMachine

/-! ## What failure texts say -/

/-- A failure of a move that is made out for an instruction, in its facts and in its text. -/
structure HeadFault.PointsAt (fault : HeadFault) (name : String) (instruction : Instruction) :
    Prop where
  named : fault.name = name
  place : fault.place = instruction.place
  command : fault.command = some instruction.command
  message : ∃ rest, fault.message = "RuntimeError: In " ++ name ++ ": line "
    ++ toString instruction.place.line ++ ", column " ++ toString instruction.place.column ++ " "
    ++ fault.deed ++ " by the command: " ++ instruction.command.label
    ++ ". The head should stay within 0 and " ++ toString (fault.tapeLength - 1) ++ "." ++ rest

structure TransferFault.PointsAt (fault : TransferFault) (name : String)
    (instruction : Instruction) : Prop where
  named : fault.name = name
  place : fault.place = instruction.place
  command : fault.command = some instruction.command
  message : fault.message = "IOError: in " ++ name ++ ": line " ++ toString instruction.place.line
    ++ ", column " ++ toString instruction.place.column ++ " ("
    ++ instruction.command.symbol.toString ++ "): " ++ fault.cause.message

theorem HeadFault.pointsAt {fault : HeadFault} {name : String} {instruction : Instruction}
    (named : fault.name = name) (place : fault.place = instruction.place)
    (command : fault.command = some instruction.command) : fault.PointsAt name instruction where
  named := named
  place := place
  command := command
  message := by
    have opening : "RuntimeError: In " = "RuntimeError: " ++ "In " := rfl
    refine ⟨(if fault.context.isEmpty then "" else "\n" ++ fault.context) ++
      Advice.block .running fault.summary, ?_⟩
    have sentence : fault.summary = "In " ++ name ++ ": line " ++ toString instruction.place.line
        ++ ", column " ++ toString instruction.place.column ++ " " ++ fault.deed
        ++ (" by the command: " ++ instruction.command.label)
        ++ ". The head should stay within 0 and " ++ toString (fault.tapeLength - 1) ++ "." := by
      unfold HeadFault.summary
      rw [named, place, command]
    unfold HeadFault.message
    rw [opening, sentence]
    simp only [String.append_assoc]

theorem TransferFault.pointsAt {fault : TransferFault} {name : String} {instruction : Instruction}
    (named : fault.name = name) (place : fault.place = instruction.place)
    (command : fault.command = some instruction.command) : fault.PointsAt name instruction where
  named := named
  place := place
  command := command
  message := by
    have closing : "): " = ")" ++ ": " := rfl
    unfold TransferFault.message
    rw [closing]
    simp only [named, place, command, String.append_assoc]

/-! ## The instruction at work -/

theorem Machine.currentInstruction?_eq {machine : Machine} {instruction : Instruction}
    (lower : 0 ≤ machine.position)
    (found : machine.program.instruction? machine.position = some instruction) :
    machine.currentInstruction? = some instruction := by
  rw [Program.instruction?, if_neg (Int.not_lt.mpr lower), if_neg (Int.not_lt.mpr lower)] at found
  rw [currentInstruction?, Program.instructionFromStart?, if_neg (Int.not_lt.mpr lower), found]

section Current

variable {machine : Machine} {instruction : Instruction}
variable (lower : 0 ≤ machine.position)
variable (found : machine.program.instruction? machine.position = some instruction)

include lower found

theorem Machine.currentPlace_eq : machine.currentPlace = instruction.place := by
  rw [currentPlace, currentInstruction?_eq lower found]

theorem Machine.currentCommand?_of_instruction? :
    machine.currentCommand? = some instruction.command := by
  rw [currentCommand?, currentInstruction?_eq lower found, Option.map_some]

theorem Machine.pointsAt_of_headFault {belowZero : Bool} {fault : HeadFault}
    (same : machine.headFault belowZero = .head fault) :
    fault.PointsAt machine.program.name instruction := by
  obtain rfl := Fault.head.inj same
  exact HeadFault.pointsAt rfl (currentPlace_eq lower found)
    (currentCommand?_of_instruction? lower found)

theorem Machine.pointsAt_of_transferFault {cause : StreamFault} {fault : TransferFault}
    (same : machine.transferFault cause = .transfer fault) :
    fault.PointsAt machine.program.name instruction := by
  obtain rfl := Fault.transfer.inj same
  exact TransferFault.pointsAt rfl (currentPlace_eq lower found)
    (currentCommand?_of_instruction? lower found)

end Current

namespace Session

/-- How the next step of a session can fail when some instruction stands at its position: a move at
an end of the tape, a transfer at a stream, and both with a failure that points at the
instruction. -/
structure FailsAt (session : Session) (name : String) (instruction : Instruction) : Prop where
  head_iff : (∃ fault last, step session = .error (.head fault) last) ↔
    (instruction.command = .left ∧ session.machine.head = 0) ∨
      (instruction.command = .right ∧ session.machine.growable.isOn = false ∧
        session.machine.head + 1 = session.machine.tape.length)
  head : ∀ fault last, step session = .error (.head fault) last →
    fault.PointsAt name instruction ∧ last.machine.position = session.machine.position ∧
      last.machine.tape = session.machine.tape ∧
      fault.tapeLength = session.machine.tape.length ∧
      (instruction.command = .left → fault.position = 0 ∧ fault.belowZero = true) ∧
      (instruction.command = .right →
        fault.position = fault.tapeLength ∧ fault.belowZero = false)
  transfer : ∀ fault last, step session = .error (.transfer fault) last →
    (instruction.command = .input ∨ instruction.command = .output) ∧
      fault.PointsAt name instruction ∧ last.machine = session.machine

variable {block : Block} {session last : Session} {fault : Fault} {instruction : Instruction}

theorem Fails.position_eq {command : Command} (fails : Fails session command fault last) :
    last.machine.position = session.machine.position := by
  cases fails <;> rfl

theorem Loaded.fails_cases {command : Command} (loaded : Loaded block session)
    (here : session.machine.program.commands[session.machine.position.toNat]? = some command)
    (fails : Fails session command fault last) :
    (command = .left ∧ session.machine.head = 0 ∧ fault = session.machine.headFault true ∧
        last = session) ∨
      (command = .right ∧ session.machine.growable.isOn = false ∧
        session.machine.head + 1 = session.machine.tape.length ∧
        fault = (session.shift 1).machine.headFault false ∧ last = session.shift 1) ∨
      ((command = .input ∨ command = .output) ∧ last.machine = session.machine ∧
        ((∃ cause, fault = session.machine.transferFault cause) ∨
          ∃ trouble, fault = .stream trouble)) := by
  have lower := loaded.inBounds.head_nonneg
  have upper := loaded.inBounds.head_lt
  have slot := Tape.slot?_of_inside lower upper
  have position := Int.toNat_of_nonneg loaded.inBounds.position_nonneg
  have passedOn : ∀ trouble, (∃ cause, session.streamFault trouble =
      session.machine.transferFault cause) ∨ ∃ trouble', session.streamFault trouble =
        .stream trouble' := by
    intro trouble
    rw [streamFault]
    split
    · exact Or.inl ⟨trouble, rfl⟩
    · exact Or.inr ⟨trouble, rfl⟩
  -- The bounds rule out a head off the tape, and the parse tree a loop mark without a partner.
  cases fails with
  | pastEnd moves off outside => omega
  | emptyTape empty => omega
  | noCell uses missing =>
      rw [slot] at missing
      cases missing
  | noCellToFill heard missing =>
      rw [slot] at missing
      cases missing
  | noEnd missing =>
      obtain ⟨finish, held, _⟩ := loaded.parsed.end_of_start here
      rw [position, missing] at held
      cases held
  | noStart cell nonzero missing =>
      obtain ⟨start, held, _⟩ := loaded.parsed.start_of_end here
      rw [position, missing] at held
      cases held
  | firstCell inside first => exact Or.inl ⟨rfl, first, rfl, rfl⟩
  | lastCell off edge => exact Or.inr (Or.inl ⟨rfl, off, edge, rfl, rfl⟩)
  | readFault heard => exact Or.inr (Or.inr ⟨Or.inl rfl, rfl, passedOn _⟩)
  | nothingRead heard => exact Or.inr (Or.inr ⟨Or.inl rfl, rfl, Or.inl ⟨_, rfl⟩⟩)
  | writeFault cell heard => exact Or.inr (Or.inr ⟨Or.inr rfl, rfl, passedOn _⟩)
  | shortWrite cell heard wrong => exact Or.inr (Or.inr ⟨Or.inr rfl, rfl, Or.inl ⟨_, rfl⟩⟩)

theorem Loaded.failing_of_edge (loaded : Loaded block session)
    (found : session.machine.program.instruction? session.machine.position = some instruction)
    (edge : (instruction.command = .left ∧ session.machine.head = 0) ∨
      (instruction.command = .right ∧ session.machine.growable.isOn = false ∧
        session.machine.head + 1 = session.machine.tape.length)) :
    ∃ fault last, Session.step session = .error (.head fault) last := by
  rw [step_eq_act found loaded.inBounds.head_nonneg loaded.inBounds.head_lt]
  rcases edge with ⟨left, first⟩ | ⟨right, off, atEnd⟩
  · rw [left, act, if_pos first]
    exact ⟨_, _, rfl⟩
  · have outside : ¬ (session.shift 1).machine.head < (session.shift 1).machine.tape.length := by
      change ¬ session.machine.head + 1 < session.machine.tape.length
      omega
    have fixed : ¬ (session.shift 1).machine.growable.isOn = true := by
      change ¬ session.machine.growable.isOn = true
      rw [off]
      exact Bool.false_ne_true
    rw [right, act, if_neg outside, if_neg fixed]
    exact ⟨_, _, rfl⟩

/-- Every failing step of a loaded program fails where and as its instruction says. -/
theorem Loaded.failsAt (loaded : Loaded block session)
    (found : session.machine.program.instruction? session.machine.position = some instruction)
    (here : session.machine.program.commands[session.machine.position.toNat]? =
      some instruction.command) : session.FailsAt session.machine.program.name instruction := by
  have position := loaded.inBounds.position_nonneg
  refine ⟨⟨?_, loaded.failing_of_edge found⟩, ?_, ?_⟩
  · rintro ⟨fault, last, failing⟩
    rcases loaded.fails_cases here (fails_of_failing found failing) with
      ⟨left, first, _⟩ | ⟨right, off, edge, _⟩ | ⟨_, _, ⟨cause, same⟩ | ⟨trouble, same⟩⟩
    · exact Or.inl ⟨left, first⟩
    · exact Or.inr ⟨right, off, edge⟩
    · cases same
    · cases same
  · intro fault last failing
    rcases loaded.fails_cases here (fails_of_failing found failing) with
      ⟨left, first, same, rfl⟩ | ⟨right, off, edge, same, rfl⟩ |
        ⟨_, _, ⟨cause, same⟩ | ⟨trouble, same⟩⟩
    · refine ⟨Machine.pointsAt_of_headFault position found same.symm, rfl, rfl, ?_⟩
      obtain rfl := Fault.head.inj same
      refine ⟨rfl, fun _ => ⟨first, rfl⟩, ?_⟩
      rw [left]
      rintro ⟨⟩
    · have points := @Machine.pointsAt_of_headFault (session.shift 1).machine instruction
        position found false fault same.symm
      refine ⟨points, rfl, rfl, ?_⟩
      obtain rfl := Fault.head.inj same
      refine ⟨rfl, ?_, fun _ => ⟨edge, rfl⟩⟩
      rw [right]
      rintro ⟨⟩
    · cases same
    · cases same
  · intro fault last failing
    rcases loaded.fails_cases here (fails_of_failing found failing) with
      ⟨left, first, same, rfl⟩ | ⟨right, off, edge, same, rfl⟩ |
        ⟨transfers, same_machine, ⟨cause, same⟩ | ⟨trouble, same⟩⟩
    · cases same
    · cases same
    · exact ⟨transfers, Machine.pointsAt_of_transferFault position found same.symm, same_machine⟩
    · cases same

theorem position_of_failing (failing : step session = .error fault last) :
    last.machine.position = session.machine.position := by
  cases found : session.machine.program.instruction? session.machine.position with
  | none =>
      rw [step_of_missing found] at failing
      cases failing
      rfl
  | some instruction => exact (fails_of_failing found failing).position_eq

theorem Steps.exists_failsAt {memory : Memory} {source name : String} {program : Program}
    {cells : Int} {growable : Flag} {width : CellWidth} {machine : Machine} {exchange : Exchange}
    {events : Array Event} {count : Nat} (loaded : Program.ofSource source name = .ok program)
    (made : Machine.create memory program cells growable width = .ok machine)
    (steps : Steps count ⟨machine, exchange, events⟩ session)
    (going : session.machine.finished = false) :
    ∃ instruction, program.instruction? session.machine.position = some instruction ∧
      Text.characterAt? source.toList instruction.place = some instruction.command.symbol ∧
      session.FailsAt name instruction := by
  obtain ⟨block, start⟩ := loaded_of_create loaded made exchange events
  obtain ⟨named, _, scanned⟩ := Program.contents_of_ofSource loaded
  obtain ⟨rfl, _⟩ := Machine.create_eq_ok made
  have reached := start.steps steps
  have same : session.machine.program = program := (evolves_of_steps steps).program_eq
  obtain ⟨instruction, found, here⟩ := reached.inBounds.instruction going
  have failsAt := reached.failsAt found here
  rw [same] at found failsAt
  have member := Program.mem_of_instruction? found
  rw [scanned] at member
  exact ⟨instruction, found, Instruction.characterAt?_of_mem_scan member, named ▸ failsAt⟩

end Session

/-- In a run of a loaded program, a move fails exactly at the first cell, or at the last cell of a
tape that may not grow; transfers fail only where a byte is read or written.  The failure of a run
points, in its facts and in its text, at the instruction at the position that the run leaves, and
there the source has the symbol of this instruction. -/
theorem failures_point_at_their_instruction {memory : Memory} {source name : String}
    {program : Program} {cells : Int} {growable : Flag} {width : CellWidth} {machine : Machine}
    (loaded : Program.ofSource source name = .ok program)
    (made : Machine.create memory program cells growable width = .ok machine) (exchange : Exchange)
    (events : Array Event) :
    (∀ count session, Session.Steps count ⟨machine, exchange, events⟩ session →
      session.machine.finished = false →
      ∃ instruction, program.instruction? session.machine.position = some instruction ∧
        Text.characterAt? source.toList instruction.place = some instruction.command.symbol ∧
        session.FailsAt name instruction) ∧
    ∀ fuel fault last, Session.runFor fuel ⟨machine, exchange, events⟩ = .failed fault last →
      ∃ instruction, program.instruction? last.machine.position = some instruction ∧
        Text.characterAt? source.toList instruction.place = some instruction.command.symbol ∧
        (∀ head, fault = .head head →
          (instruction.command = .left ∨ instruction.command = .right) ∧
            head.PointsAt name instruction) ∧
        ∀ transfer, fault = .transfer transfer →
          (instruction.command = .input ∨ instruction.command = .output) ∧
            transfer.PointsAt name instruction := by
  constructor
  · intro count session steps going
    exact steps.exists_failsAt loaded made going
  · intro fuel fault last failed
    obtain ⟨count, reached, _, steps, going, failing⟩ := Session.steps_of_failed failed
    obtain ⟨instruction, found, stands, failsAt⟩ := steps.exists_failsAt loaded made going
    have position := Session.position_of_failing failing
    rw [← position] at found
    refine ⟨instruction, found, stands, ?_, ?_⟩
    · rintro head rfl
      have edge := failsAt.head_iff.mp ⟨head, last, failing⟩
      exact ⟨edge.imp And.left And.left, (failsAt.head head last failing).1⟩
    · rintro transfer rfl
      obtain ⟨transfers, points, _⟩ := failsAt.transfer transfer last failing
      exact ⟨transfers, points⟩

theorem second_move_fails_on_two_cells :
    ∃ program machine fault last, Program.ofSource "go+\n>>" "two" = .ok program ∧
      Machine.create .ample program 2 (.truth false) .eight = .ok machine ∧
      Session.runFor 3 ⟨machine, Exchange.ofBytes [], #[]⟩ = .failed (.head fault) last ∧
      last.machine.position = 2 ∧ fault.place = ⟨2, 2⟩ ∧
      Text.characterAt? "go+\n>>".toList fault.place = some '>' ∧
      ∃ instruction, program.instruction? 2 = some instruction ∧
        fault.PointsAt "two" instruction := by
  let program := Program.assemble (Instruction.scan "go+\n>>".toList) [] "two" "go+\n>>"
  have loaded : Program.ofSource "go+\n>>" "two" = .ok program := rfl
  let machine : Machine := ⟨program, .eight, .truth false, 2, Tape.blank 2, 0, 0⟩
  have made : Machine.create .ample program 2 (.truth false) .eight = .ok machine := rfl
  have failed : ∃ fault last,
      Session.runFor 3 ⟨machine, Exchange.ofBytes [], #[]⟩ = .failed (.head fault) last ∧
        last.machine.position = 2 ∧ fault.place = ⟨2, 2⟩ := ⟨_, _, rfl, rfl, rfl⟩
  obtain ⟨fault, last, failed, position, place⟩ := failed
  obtain ⟨instruction, found, stands, moves, _⟩ :=
    (failures_point_at_their_instruction loaded made (Exchange.ofBytes []) #[]).2 3 _ last failed
  obtain ⟨_, points⟩ := moves fault rfl
  rw [position] at found
  have symbol : instruction.command.symbol = '>' := by
    obtain rfl := Option.some.inj found
    rfl
  refine ⟨program, machine, fault, last, loaded, made, failed, position, place, ?_,
    instruction, found, points⟩
  rw [points.place, stands, symbol]

end TapeMachine
