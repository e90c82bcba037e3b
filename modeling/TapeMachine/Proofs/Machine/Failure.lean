import TapeMachine.Proofs.Machine.Bounds
import TapeMachine.Proofs.Machine.History

/-!
# How commands fail

`Fails` lists every way in which a command can fail, with what it reports and the session it leaves.
Read off this list, a failing command has changed nothing on the machine, but for one case: a move
to the right from the last cell of a tape that may not grow has already placed the head.

Main statement: an operation that fails leaves the machine as it was.
-/

set_option autoImplicit false

namespace TapeMachine

namespace Session

def offering (session : Session) (value : Nat) : Session :=
  { session with exchange := (session.exchange.write (Cell.toByte value)).2 }

/-- The ways a command fails, on any machine and with any streams. -/
inductive Fails (session : Session) : Command → Fault → Session → Prop where
  | pastEnd {command : Command} (moves : command = .right ∨ command = .left)
      (off : session.machine.growable.isOn = false)
      (outside : session.machine.tape.length ≤ session.machine.head) :
      Fails session command (session.machine.headFault false) session
  | lastCell (off : session.machine.growable.isOn = false)
      (last : session.machine.head + 1 = session.machine.tape.length) :
      Fails session .right ((session.shift 1).machine.headFault false) (session.shift 1)
  | firstCell (inside : session.machine.head < session.machine.tape.length)
      (first : session.machine.head = 0) :
      Fails session .left (session.machine.headFault true) session
  | emptyTape (empty : session.machine.tape.length = 0) :
      Fails session .left (session.grow.machine.headFault true) session.grow
  | noCell {command : Command} (uses : command ∈ [.increment, .decrement, .output, .loopEnd])
      (missing : session.machine.tape.slot? session.machine.head = none) :
      Fails session command (session.machine.cellFault session.machine.head) session
  | noCellToFill {byte : UInt8} {rest : List UInt8}
      (heard : session.exchange.read.1 = .data (byte :: rest))
      (missing : session.machine.tape.slot? session.machine.head = none) :
      Fails session .input (session.machine.cellFault session.machine.head) session.asked
  | readFault {trouble : StreamFault} (heard : session.exchange.read.1 = .fault trouble) :
      Fails session .input (session.streamFault trouble) session.asked
  | nothingRead
      (heard : session.exchange.read.1 = .nothing ∨ session.exchange.read.1 = .data []) :
      Fails session .input (session.machine.transferFault .noMoreInput) session.asked
  | writeFault {value : Nat} {trouble : StreamFault}
      (cell : session.machine.tape.get? session.machine.head = some value)
      (heard : (session.exchange.write (Cell.toByte value)).1 = .fault trouble) :
      Fails session .output (session.streamFault trouble) (session.offering value)
  | shortWrite {value : Nat} {written : Int}
      (cell : session.machine.tape.get? session.machine.head = some value)
      (heard : (session.exchange.write (Cell.toByte value)).1 = .count written)
      (wrong : written ≠ 1) :
      Fails session .output (session.machine.transferFault (.shortWrite written))
        (session.offering value)
  | noEnd (missing : session.machine.program.ends[session.machine.position]? = none) :
      Fails session .loopStart session.machine.unresolved session
  | noStart {value : Nat}
      (cell : session.machine.tape.get? session.machine.head = some value) (nonzero : value ≠ 0)
      (missing : session.machine.program.starts[session.machine.position]? = none) :
      Fails session .loopEnd session.machine.unresolved session

variable {session last : Session} {fault : Fault} {command : Command}

theorem check_error (failed : check session = .error fault last) :
    session.machine.growable.isOn = false ∧ session.machine.tape.length ≤ session.machine.head ∧
      fault = session.machine.headFault false ∧ last = session := by
  rw [check_eq] at failed
  split at failed
  · cases failed
  · next outside =>
      split at failed
      · cases failed
      · next off =>
          cases failed
          exact ⟨Bool.eq_false_iff.mpr off, Int.not_lt.mp outside, rfl, rfl⟩

theorem check_ok {position : Int} (checked : check session = .ok position last) :
    (last = session ∧ session.machine.head < session.machine.tape.length) ∨
      (last = session.grow ∧ session.machine.growable.isOn = true ∧
        session.machine.tape.length ≤ session.machine.head) := by
  rw [check_eq] at checked
  split at checked
  · next inside =>
      cases checked
      exact Or.inl ⟨rfl, inside⟩
  · next outside =>
      split at checked
      · next on =>
          cases checked
          exact Or.inr ⟨rfl, on, Int.not_lt.mp outside⟩
      · cases checked

/-- A check that fails after one that passed finds the tape as it was at first. -/
theorem second_check_error {position cells : Int} {middle : Session}
    (passed : check session = .ok position middle)
    (failed : check (middle.shift cells) = .error fault last) :
    session.machine.growable.isOn = false ∧
      session.machine.head < session.machine.tape.length ∧
      session.machine.tape.length ≤ session.machine.head + cells ∧
      fault = (session.shift cells).machine.headFault false ∧ last = session.shift cells := by
  obtain ⟨off, outside, rfl, rfl⟩ := check_error failed
  rcases check_ok passed with ⟨rfl, inside⟩ | ⟨rfl, on, _⟩
  · exact ⟨off, inside, outside, rfl, rfl⟩
  · have off : session.machine.growable.isOn = false := off
    rw [on] at off
    cases off

theorem fails_of_changeCurrent {update : CellWidth → Nat → Nat}
    (failed : changeCurrent update session = .error fault last) :
    session.machine.tape.slot? session.machine.head = none ∧
      fault = session.machine.cellFault session.machine.head ∧ last = session := by
  rw [changeCurrent_eq] at failed
  cases missing : session.machine.tape.slot? session.machine.head with
  | none =>
      simp only [missing] at failed
      cases failed
      exact ⟨rfl, rfl, rfl⟩
  | some slot => simp [missing] at failed

theorem fails_of_perform (failed : perform command session = .error fault last) :
    Fails session command fault last := by
  cases command with
  | right =>
      rw [perform, moveRight_eq] at failed
      cases checked : check session with
      | error fault' last' =>
          simp only [checked] at failed
          cases failed
          obtain ⟨off, outside, rfl, rfl⟩ := check_error checked
          exact .pastEnd (Or.inl rfl) off outside
      | ok position middle =>
          simp only [checked] at failed
          cases moved : check (middle.shift 1) with
          | ok position' last' => simp [moved] at failed
          | error fault' last' =>
              simp only [moved] at failed
              cases failed
              obtain ⟨off, inside, outside, rfl, rfl⟩ := second_check_error checked moved
              exact .lastCell off (by omega)
  | left =>
      rw [perform, moveLeft_eq] at failed
      cases checked : check session with
      | error fault' last' =>
          simp only [checked] at failed
          cases failed
          obtain ⟨off, outside, rfl, rfl⟩ := check_error checked
          exact .pastEnd (Or.inr rfl) off outside
      | ok position middle =>
          simp only [checked] at failed
          by_cases first : middle.machine.head = 0
          · rw [if_pos first] at failed
            cases failed
            rcases check_ok checked with ⟨rfl, inside⟩ | ⟨rfl, _, outside⟩
            · exact .firstCell inside first
            · have first : session.machine.head = 0 := first
              exact .emptyTape (by omega)
          · rw [if_neg first] at failed
            cases moved : check (middle.shift (-1)) with
            | ok position' last' => simp [moved] at failed
            | error fault' last' =>
                -- The first check has passed, so the one on the cell before it passes too.
                obtain ⟨_, inside, outside, _⟩ := second_check_error checked moved
                omega
  | increment =>
      rw [perform, increment] at failed
      obtain ⟨missing, rfl, rfl⟩ := fails_of_changeCurrent failed
      exact .noCell (by simp) missing
  | decrement =>
      rw [perform, decrement] at failed
      obtain ⟨missing, rfl, rfl⟩ := fails_of_changeCurrent failed
      exact .noCell (by simp) missing
  | output =>
      rw [perform, output_eq] at failed
      cases cell : session.machine.tape.get? session.machine.head with
      | none =>
          simp only [cell] at failed
          cases failed
          exact .noCell (by simp) (Option.map_eq_none_iff.mp cell)
      | some value =>
          simp only [cell] at failed
          cases heard : (session.exchange.write (Cell.toByte value)).1 with
          | fault trouble =>
              simp only [heard] at failed
              cases failed
              exact .writeFault cell heard
          | nothing => simp [heard] at failed
          | count written =>
              simp only [heard] at failed
              split at failed
              · cases failed
              · next wrong =>
                  cases failed
                  exact .shortWrite cell heard wrong
  | input =>
      rw [perform, input_eq] at failed
      cases heard : session.exchange.read.1 with
      | fault trouble =>
          simp only [heard] at failed
          cases failed
          exact .readFault heard
      | nothing =>
          simp only [heard] at failed
          cases failed
          exact .nothingRead (Or.inl heard)
      | data bytes =>
          cases bytes with
          | nil =>
              simp only [heard] at failed
              cases failed
              exact .nothingRead (Or.inr heard)
          | cons byte rest =>
              simp only [heard] at failed
              obtain ⟨missing, rfl, rfl⟩ := fails_of_changeCurrent failed
              exact .noCellToFill heard missing
  | loopStart =>
      rw [perform, loopStart_eq] at failed
      split at failed
      · cases failed
      · next missing =>
          cases failed
          exact .noEnd missing
  | loopEnd =>
      rw [perform, loopEnd_eq] at failed
      cases cell : session.machine.tape.get? session.machine.head with
      | none =>
          simp only [cell] at failed
          cases failed
          exact .noCell (by simp) (Option.map_eq_none_iff.mp cell)
      | some value =>
          simp only [cell] at failed
          split at failed
          · cases failed
          · next nonzero =>
              split at failed
              · cases failed
              · next missing =>
                  cases failed
                  exact .noStart cell nonzero missing

end Session

/-! ## What a failure leaves -/

/-- The machine that a failing command leaves: the same one, with the head behind the last cell when
it was to move there on a tape that may not grow. -/
def Machine.afterFailure (machine : Machine) (command : Option Command) : Machine :=
  if command = some .right ∧ machine.growable.isOn = false ∧
      machine.head + 1 = machine.tape.length then
    { machine with head := machine.tape.length }
  else machine

theorem Machine.afterFailure_of_ne {command : Option Command} (other : command ≠ some .right)
    (machine : Machine) : machine.afterFailure command = machine := by
  rw [Machine.afterFailure, if_neg]
  rintro ⟨right, _⟩
  exact other right

def Operation.command? : Operation → Option Command
  | handle command => some command
  | _ => none

namespace Session

variable {session last : Session} {fault : Fault} {command : Command}

theorem Fails.machine_eq (fails : Fails session command fault last)
    (nonempty : 0 < session.machine.tape.length) :
    last.machine = session.machine.afterFailure (some command) := by
  cases fails with
  | pastEnd moves off outside =>
      rw [Machine.afterFailure, if_neg]
      rintro ⟨_, _, edge⟩
      omega
  | lastCell off edge =>
      rw [Machine.afterFailure, if_pos ⟨rfl, off, edge⟩]
      simp [shift, edge]
  | emptyTape empty => omega
  | noCell uses missing =>
      symm
      apply Machine.afterFailure_of_ne
      rintro right
      cases right
      simp at uses
  | _ => exact (Machine.afterFailure_of_ne (by simp) _).symm

theorem fails_of_failing {instruction : Instruction}
    (found : session.machine.program.instruction? session.machine.position = some instruction)
    (failing : step session = .error fault last) :
    Fails session instruction.command fault last := by
  rw [step_eq found] at failing
  cases performed : perform instruction.command session with
  | ok position next => simp [performed] at failing
  | error fault' next =>
      simp only [performed] at failing
      cases failing
      exact fails_of_perform performed

theorem machine_of_failing (failing : step session = .error fault last)
    (nonempty : 0 < session.machine.tape.length) :
    last.machine = session.machine.afterFailure
      ((session.machine.program.instruction? session.machine.position).map
        Instruction.command) := by
  cases found : session.machine.program.instruction? session.machine.position with
  | none =>
      rw [step_of_missing found] at failing
      cases failing
      exact (Machine.afterFailure_of_ne (by simp) _).symm
  | some instruction => exact (fails_of_failing found failing).machine_eq nonempty

theorem machine_of_carryOut {operation : Operation} (single : ∀ steps, operation ≠ .run steps)
    (failed : session.carryOut operation = (.failed fault, last))
    (nonempty : 0 < session.machine.tape.length) :
    last.machine = session.machine.afterFailure operation.command? := by
  cases operation with
  | handle command =>
      have performed := Answer.error_of_ofResult failed (by simp)
      exact (fails_of_perform performed).machine_eq nonempty
  | check =>
      have checked := Answer.error_of_ofResult failed (by simp)
      obtain ⟨_, _, _, rfl⟩ := check_error checked
      exact (Machine.afterFailure_of_ne (by simp [Operation.command?]) _).symm
  | store index value =>
      have stored := Answer.error_of_ofResult failed (by simp)
      rw [store_eq] at stored
      cases missing : session.machine.tape.slot? index with
      | some slot => simp [missing] at stored
      | none =>
          simp only [missing] at stored
          cases stored
          exact (Machine.afterFailure_of_ne (by simp [Operation.command?]) _).symm
  | run steps => exact (single steps rfl).elim
  | reset | placeHead head | jump position | connect reads writes => simp [carryOut] at failed

end Session

theorem Machine.nonempty_of_replay {memory : Memory} {program : Program} {cells : Int}
    {growable : Flag} {width : CellWidth} {machine : Machine}
    (made : Machine.create memory program cells growable width = .ok machine) (exchange : Exchange)
    (events : Array Event) (history : List Operation) :
    0 < ((⟨machine, exchange, events⟩ : Session).replay history).2.machine.tape.length := by
  have kept := Session.replay_preserves
    (fun machine => 0 < machine.initialLength ∧ machine.initialLength ≤ machine.tape.length)
    ?_ (fun machine holds => ⟨holds.1, Nat.le_refl _⟩) history ⟨machine, exchange, events⟩ ?_
  · omega
  · intro first last evolves holds
    have longer := evolves.length_le
    have initial := evolves.initialLength_eq
    omega
  · obtain ⟨rfl, nonneg⟩ := Machine.create_eq_ok made
    exact ⟨Machine.startLength_pos nonneg, Nat.le_refl _⟩

/-- An operation that fails leaves every machine as it was, but for a move to the right from the last
cell of a tape that may not grow, which has placed the head behind that cell.  A run that fails
leaves what its last step makes of the machine that the steps before it have reached. -/
theorem failing_operation_leaves_machine :
    (∀ {memory : Memory} {program : Program} {cells : Int} {growable : Flag} {width : CellWidth}
      {machine : Machine},
      Machine.create memory program cells growable width = .ok machine →
      ∀ (exchange : Exchange) (events : Array Event) (history : List Operation),
        0 < ((⟨machine, exchange, events⟩ : Session).replay history).2.machine.tape.length) ∧
    ∀ session : Session, 0 < session.machine.tape.length →
      (∀ operation fault last, (∀ steps, operation ≠ .run steps) →
        session.carryOut operation = (.failed fault, last) →
        last.machine = session.machine.afterFailure operation.command?) ∧
      ∀ steps fault last, session.carryOut (.run steps) = (.failed fault, last) →
        ∃ count reached, count ≤ steps ∧ Session.Steps count session reached ∧
          Session.step reached = .error fault last ∧
          last.machine = reached.machine.afterFailure
            ((reached.machine.program.instruction? reached.machine.position).map
              Instruction.command) := by
  refine ⟨Machine.nonempty_of_replay, ?_⟩
  intro session nonempty
  constructor
  · intro operation fault last single failed
    exact Session.machine_of_carryOut single failed nonempty
  · intro steps fault last failed
    obtain ⟨count, reached, enough, before, _, failing⟩ :=
      Session.steps_of_failed (Session.runFor_of_carryOut failed)
    have longer := (Session.evolves_of_steps before).length_le
    exact ⟨count, reached, enough, before, failing,
      Session.machine_of_failing failing (Nat.lt_of_lt_of_le nonempty longer)⟩

theorem failing_moves_on_one_cell :
    ∃ program machine, Program.ofSource "+>" "edge" = .ok program ∧
      Machine.create .ample program 1 (.truth false) .eight = .ok machine ∧
      let session : Session := ⟨machine, Exchange.ofBytes [], #[]⟩
      (∃ fault last, session.carryOut (.handle .left) = (.failed fault, last) ∧
        last.machine = machine) ∧
      ∃ fault last count reached, session.carryOut (.run 2) = (.failed fault, last) ∧
        Session.Steps count session reached ∧
        last.machine = reached.machine.afterFailure
          ((reached.machine.program.instruction? reached.machine.position).map
            Instruction.command) ∧
        last.machine.tape.cells = [1] ∧ last.machine.head = 1 ∧ last.machine.position = 1 := by
  let program := Program.assemble (Instruction.scan "+>".toList) [] "edge" "+>"
  have loaded : Program.ofSource "+>" "edge" = .ok program := rfl
  let machine : Machine := ⟨program, .eight, .truth false, 1, Tape.blank 1, 0, 0⟩
  have made : Machine.create .ample program 1 (.truth false) .eight = .ok machine := rfl
  let session : Session := ⟨machine, Exchange.ofBytes [], #[]⟩
  have nonempty : 0 < session.machine.tape.length :=
    failing_operation_leaves_machine.1 made (Exchange.ofBytes []) #[] []
  obtain ⟨single, run⟩ := failing_operation_leaves_machine.2 session nonempty
  have left : session.carryOut (.handle .left) = (.failed (machine.headFault true), session) := rfl
  have failed : ∃ fault last, session.carryOut (.run 2) = (.failed fault, last) := ⟨_, _, rfl⟩
  obtain ⟨fault, last, failed⟩ := failed
  obtain ⟨count, reached, _, steps, _, machine_eq⟩ := run 2 fault last failed
  refine ⟨program, machine, loaded, made, ⟨_, _, left, single _ _ _ (by simp) left⟩,
    fault, last, count, reached, failed, steps, machine_eq, ?_⟩
  cases failed
  exact ⟨rfl, rfl, rfl⟩

end TapeMachine
