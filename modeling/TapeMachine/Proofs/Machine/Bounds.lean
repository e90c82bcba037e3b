import TapeMachine.Proofs.Cell
import TapeMachine.Proofs.Exchange
import TapeMachine.Proofs.Machine.Evolution
import TapeMachine.Proofs.Program.Loaded

/-!
# Machines of loaded programs stay in bounds

The position stays in the program, the head on the tape and every cell in its width, and a tape
that may not grow keeps its length.  Since the tables of a loaded program are total on its loop
marks, a step can then only fail at a border of the tape or at a stream.
-/

set_option autoImplicit false

namespace TapeMachine

namespace Program

theorem instruction?_of_inside {program : Program} {position : Int} (lower : 0 ≤ position)
    (upper : position < program.size) :
    ∃ instruction, program.instruction? position = some instruction ∧
      program.commands[position.toNat]? = some instruction.command := by
  have bound : position.toNat < program.instructions.size := by
    rw [size] at upper
    omega
  refine ⟨program.instructions[position.toNat], ?_, ?_⟩
  · rw [instruction?, if_neg (Int.not_lt.mpr lower), if_neg (Int.not_lt.mpr lower),
      Array.getElem?_eq_getElem bound]
  · rw [getElem?_commands, Array.getElem?_eq_getElem bound, Option.map_some]

end Program

namespace Machine

/-- What every machine that runs a loaded program keeps. -/
structure InBounds (machine : Machine) : Prop where
  position_nonneg : 0 ≤ machine.position
  position_le : machine.position ≤ machine.program.size
  head_nonneg : 0 ≤ machine.head
  head_lt : machine.head < machine.tape.length
  initial_le : machine.initialLength ≤ machine.tape.length
  fixed : machine.growable.isOn = false → machine.tape.length = machine.initialLength
  cells_lt : ∀ value ∈ machine.tape.cells, value < machine.width.modulus
  sound : machine.tape.Sound

theorem finished_eq_false_iff (machine : Machine) :
    machine.finished = false ↔ machine.position < machine.program.size := by
  rw [finished, decide_eq_false_iff_not, Int.not_le]

theorem finished_eq_true_iff (machine : Machine) :
    machine.finished = true ↔ machine.program.size ≤ machine.position := by
  rw [finished, decide_eq_true_iff]

theorem create_eq_ok {memory : Memory} {program : Program} {cells : Int} {growable : Flag}
    {width : CellWidth} {machine : Machine}
    (made : create memory program cells growable width = .ok machine) :
    machine = ⟨program, width, growable, startLength cells, Tape.blank (startLength cells), 0, 0⟩ ∧
      0 ≤ cells := by
  rw [create] at made
  by_cases negative : cells < 0
  · rw [if_pos negative] at made
    cases made
  · rw [if_neg negative] at made
    simp only at made
    cases given : memory.zeros width (startLength cells) with
    | error fault => simp [given] at made
    | ok row =>
        simp only [given, Except.ok.injEq] at made
        rw [← made, memory.zeros_eq _ _ _ given, Int.toNat_natCast]
        exact ⟨rfl, Int.not_lt.mp negative⟩

theorem startLength_pos {cells : Int} (nonneg : 0 ≤ cells) : 0 < startLength cells := by
  rw [startLength]
  split
  · decide
  · omega

theorem inBounds_of_create {memory : Memory} {program : Program} {cells : Int} {growable : Flag}
    {width : CellWidth} {machine : Machine}
    (made : create memory program cells growable width = .ok machine) :
    machine.InBounds := by
  obtain ⟨rfl, nonneg⟩ := create_eq_ok made
  have positive := startLength_pos nonneg
  exact
    { position_nonneg := Int.le_refl 0
      position_le := Int.natCast_nonneg _
      head_nonneg := Int.le_refl 0
      head_lt := Int.natCast_pos.mpr positive
      initial_le := Nat.le_refl _
      fixed := fun _ => rfl
      cells_lt := by
        intro value member
        rw [Tape.cells_blank, List.mem_replicate] at member
        rw [member.2]
        exact width.modulus_pos
      sound := Tape.sound_blank _ }

theorem currentCommand?_eq {machine : Machine} {command : Command} (lower : 0 ≤ machine.position)
    (here : machine.program.commands[machine.position.toNat]? = some command) :
    machine.currentCommand? = some command := by
  rw [currentCommand?, currentInstruction?, Program.instructionFromStart?,
    if_neg (Int.not_lt.mpr lower), ← Program.getElem?_commands, here]

namespace InBounds

variable {machine : Machine}

theorem instruction (inBounds : machine.InBounds) (going : machine.finished = false) :
    ∃ instruction, machine.program.instruction? machine.position = some instruction ∧
      machine.program.commands[machine.position.toNat]? = some instruction.command :=
  Program.instruction?_of_inside inBounds.position_nonneg
    ((finished_eq_false_iff machine).mp going)

end InBounds

end Machine

/-! ## What the parts of a step keep -/

namespace Session

variable {session : Session}

theorem inBounds_jump (inBounds : session.machine.InBounds) {position : Int} (lower : 0 ≤ position)
    (upper : position ≤ session.machine.program.size) :
    (session.jump position).machine.InBounds :=
  { inBounds with position_nonneg := lower, position_le := upper }

theorem inBounds_advance (inBounds : session.machine.InBounds)
    (going : session.machine.finished = false) : session.advance.machine.InBounds := by
  have lower := inBounds.position_nonneg
  have upper := (session.machine.finished_eq_false_iff).mp going
  exact inBounds_jump inBounds (Int.le_add_one lower) (Int.add_one_le_of_lt upper)

theorem inBounds_shift (inBounds : session.machine.InBounds) {cells : Int}
    (lower : 0 ≤ session.machine.head + cells)
    (upper : session.machine.head + cells < session.machine.tape.length) :
    (session.shift cells).machine.InBounds :=
  { inBounds with head_nonneg := lower, head_lt := upper }

theorem inBounds_shift_grow (inBounds : session.machine.InBounds)
    (grows : session.machine.growable.isOn = true) :
    (session.shift 1).grow.machine.InBounds := by
  have length : (session.shift 1).grow.machine.tape.length = session.machine.tape.length + 1 :=
    Tape.length_grow _
  have lower := inBounds.head_nonneg
  have upper := inBounds.head_lt
  have initial := inBounds.initial_le
  exact
    { position_nonneg := inBounds.position_nonneg
      position_le := inBounds.position_le
      head_nonneg := Int.le_add_one lower
      head_lt := by
        rw [length]
        change session.machine.head + 1 < _
        omega
      initial_le := by
        rw [length]
        exact Nat.le_succ_of_le initial
      fixed := by
        intro off
        have off : session.machine.growable.isOn = false := off
        rw [off] at grows
        cases grows
      cells_lt := by
        intro value member
        have split : value ∈ session.machine.tape.cells ++ [0] :=
          Tape.cells_grow inBounds.sound ▸ member
        rcases List.mem_append.mp split with old | new
        · exact inBounds.cells_lt value old
        · rw [List.mem_singleton.mp new]
          exact session.machine.width.modulus_pos
      sound := inBounds.sound.grow }

theorem inBounds_change (inBounds : session.machine.InBounds) {update : Nat → Nat}
    (small : ∀ value, update value < session.machine.width.modulus) :
    (session.change update).machine.InBounds := by
  have lower := inBounds.head_nonneg
  have upper := inBounds.head_lt
  have cells : (session.change update).machine.tape.cells =
      session.machine.tape.cells.modify session.machine.head.toNat update :=
    Tape.cells_update _ _ _
  exact
    { inBounds with
      cells_lt := by
        intro value member
        rw [cells] at member
        obtain ⟨slot, found⟩ := List.mem_iff_getElem?.mp member
        rw [List.getElem?_modify] at found
        split at found
        · obtain ⟨old, _, rfl⟩ := Option.map_eq_some_iff.mp found
          exact small old
        · exact inBounds.cells_lt value (List.mem_of_getElem? (by simpa using found))
      sound := inBounds.sound.update (by omega) update }

/-! ## One step -/

theorem act_loopStart_eq {block : Block} (parsed : session.machine.program.Parsed block)
    (inBounds : session.machine.InBounds)
    (here : session.machine.program.commands[session.machine.position.toNat]? = some .loopStart) :
    ∃ finish : Nat, session.act .loopStart = .ok () (session.jump finish) ∧
      finish < session.machine.program.size := by
  obtain ⟨finish, found, inside⟩ := parsed.end_of_start here
  rw [Int.toNat_of_nonneg inBounds.position_nonneg] at found
  refine ⟨finish, ?_, inside⟩
  rw [act, found]

theorem act_loopEnd_eq {block : Block} (parsed : session.machine.program.Parsed block)
    (inBounds : session.machine.InBounds)
    (here : session.machine.program.commands[session.machine.position.toNat]? = some .loopEnd)
    (nonzero : session.value ≠ 0) :
    ∃ start : Nat, session.act .loopEnd = .ok () (session.jump (start + 1)) ∧
      (start : Int) < session.machine.position := by
  obtain ⟨start, found, before⟩ := parsed.start_of_end here
  have position := Int.toNat_of_nonneg inBounds.position_nonneg
  rw [position] at found
  refine ⟨start, ?_, by omega⟩
  rw [act, if_neg nonzero, found]

section Act

variable {block : Block} {command : Command}
variable (parsed : session.machine.program.Parsed block) (inBounds : session.machine.InBounds)
variable (here : session.machine.program.commands[session.machine.position.toNat]? = some command)

include parsed inBounds here

theorem inBounds_act (going : session.machine.finished = false) {next : Session}
    (acted : session.act command = .ok () next) : next.machine.InBounds := by
  have lower := inBounds.head_nonneg
  have upper := inBounds.head_lt
  cases command with
  | right =>
      rw [act] at acted
      split at acted
      · next inside =>
          have inside : session.machine.head + 1 < session.machine.tape.length := inside
          cases acted
          exact inBounds_advance (inBounds_shift inBounds (by omega) inside) going
      · split at acted
        · next grows =>
            cases acted
            exact inBounds_advance (inBounds_shift_grow inBounds grows) going
        · cases acted
  | left =>
      rw [act] at acted
      split at acted
      · cases acted
      · next positive =>
          cases acted
          exact inBounds_advance (inBounds_shift inBounds (by omega) (by omega)) going
  | increment =>
      cases acted
      exact inBounds_advance
        (inBounds_change inBounds fun value => session.machine.width.wrap_lt _) going
  | decrement =>
      cases acted
      exact inBounds_advance
        (inBounds_change inBounds fun value => session.machine.width.wrap_lt _) going
  | output =>
      have offered : session.offered.advance.machine.InBounds := inBounds_advance inBounds going
      rw [act] at acted
      split at acted
      · cases acted
      · cases acted
        exact offered
      · split at acted
        · cases acted
          exact offered
        · cases acted
  | input =>
      rw [act] at acted
      split at acted
      · cases acted
      · cases acted
      · cases acted
      · next byte _ _ =>
          cases acted
          have small : byte.toNat < session.machine.width.modulus :=
            Nat.lt_of_lt_of_le byte.toNat_lt session.machine.width.le_modulus
          have asked : session.asked.machine.InBounds := inBounds
          exact inBounds_advance (inBounds_change asked fun _ => small) going
  | loopStart =>
      obtain ⟨finish, jumped, inside⟩ := act_loopStart_eq parsed inBounds here
      rw [jumped] at acted
      cases acted
      exact inBounds_jump inBounds (Int.natCast_nonneg _) (by omega)
  | loopEnd =>
      by_cases zero : session.value = 0
      · rw [act, if_pos zero] at acted
        cases acted
        exact inBounds_advance inBounds going
      · obtain ⟨start, jumped, before⟩ := act_loopEnd_eq parsed inBounds here zero
        have last := inBounds.position_le
        rw [jumped] at acted
        cases acted
        exact inBounds_jump inBounds (by omega) (by omega)

end Act

/-! ## Whole runs -/

/-- A session in bounds whose program has a parse tree. -/
structure Loaded (block : Block) (session : Session) : Prop where
  parsed : session.machine.program.Parsed block
  inBounds : session.machine.InBounds

namespace Loaded

variable {block : Block} {next : Session}

theorem exists_act (loaded : Loaded block session) (going : session.machine.finished = false) :
    ∃ command, session.machine.program.commands[session.machine.position.toNat]? = some command ∧
      step session = session.act command := by
  obtain ⟨instruction, found, here⟩ := loaded.inBounds.instruction going
  exact ⟨instruction.command, here,
    step_eq_act found loaded.inBounds.head_nonneg loaded.inBounds.head_lt⟩

theorem step (loaded : Loaded block session) (going : session.machine.finished = false)
    (made : Session.step session = .ok () next) : Loaded block next := by
  obtain ⟨command, here, acted⟩ := loaded.exists_act going
  have program := (evolves_of_made made).program_eq
  exact ⟨program.symm ▸ loaded.parsed,
    inBounds_act loaded.parsed loaded.inBounds here going (acted ▸ made)⟩

theorem steps {count : Nat} {last : Session} (loaded : Loaded block session)
    (steps : Steps count session last) : Loaded block last :=
  steps.preserves (Loaded block) (fun _ _ loaded going made => loaded.step going made) loaded

end Loaded

theorem loaded_of_create {memory : Memory} {source name : String} {program : Program} {cells : Int}
    {growable : Flag} {width : CellWidth} {machine : Machine}
    (loaded : Program.ofSource source name = .ok program)
    (made : Machine.create memory program cells growable width = .ok machine) (exchange : Exchange)
    (events : Array Event) : ∃ block, Loaded block ⟨machine, exchange, events⟩ := by
  obtain ⟨block, parsed⟩ := Program.parsed_of_ofSource loaded
  obtain ⟨rfl, _⟩ := Machine.create_eq_ok made
  exact ⟨block, parsed, Machine.inBounds_of_create made⟩

end Session

end TapeMachine
