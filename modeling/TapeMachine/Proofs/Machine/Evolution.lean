import TapeMachine.Proofs.Exchange
import TapeMachine.Proofs.Machine.Run

/-!
# How sessions evolve

Whatever a command does is a sequence of few moves: the head or the position is set, a visible cell
is changed, one more cell is shown, a stream is called.  What these moves keep is therefore kept by
every command, whether it succeeds or fails, and by every run.
-/

set_option autoImplicit false

namespace TapeMachine

theorem Machine.setup_of_reset_eq {first second : Machine} (same : first.reset = second.reset) :
    first.program = second.program ∧ first.width = second.width ∧
      first.growable = second.growable ∧ first.initialLength = second.initialLength := by
  have program := congrArg Machine.program same
  have width := congrArg Machine.width same
  have growable := congrArg Machine.growable same
  have initialLength := congrArg Machine.initialLength same
  exact ⟨program, width, growable, initialLength⟩

namespace Session

/-- The sessions that the moves of commands lead to. -/
inductive Evolves (first : Session) : Session → Prop where
  | refl : Evolves first first
  | head {last : Session} (before : Evolves first last) (head : Int) :
      Evolves first { last with machine.head := head }
  | position {last : Session} (before : Evolves first last) (position : Int) :
      Evolves first { last with machine.position := position }
  | change {last : Session} (before : Evolves first last) {slot : Nat}
      (inside : slot < last.machine.tape.length) (update : Nat → Nat) :
      Evolves first { last with machine.tape := last.machine.tape.update slot update }
  | grow {last : Session} (before : Evolves first last) : Evolves first last.grow
  | read {last : Session} (before : Evolves first last) :
      Evolves first { last with exchange := last.exchange.read.2 }
  | write {last : Session} (before : Evolves first last) (byte : UInt8) :
      Evolves first { last with exchange := (last.exchange.write byte).2 }

namespace Evolves

variable {first middle last : Session}

theorem trans (before : first.Evolves middle) (after : middle.Evolves last) :
    first.Evolves last := by
  induction after with
  | refl => exact before
  | head _ head ih => exact .head ih head
  | position _ position ih => exact .position ih position
  | change _ inside update ih => exact .change ih inside update
  | grow _ ih => exact .grow ih
  | read _ ih => exact .read ih
  | write _ byte ih => exact .write ih byte

theorem reset_eq (evolves : first.Evolves last) : last.machine.reset = first.machine.reset := by
  induction evolves with
  | refl => rfl
  | head _ _ ih | position _ _ ih | change _ _ _ ih | grow _ ih | read _ ih | write _ _ ih =>
      exact ih

theorem program_eq (evolves : first.Evolves last) : last.machine.program = first.machine.program :=
  (Machine.setup_of_reset_eq evolves.reset_eq).1

theorem width_eq (evolves : first.Evolves last) : last.machine.width = first.machine.width :=
  (Machine.setup_of_reset_eq evolves.reset_eq).2.1

theorem growable_eq (evolves : first.Evolves last) :
    last.machine.growable = first.machine.growable :=
  (Machine.setup_of_reset_eq evolves.reset_eq).2.2.1

theorem initialLength_eq (evolves : first.Evolves last) :
    last.machine.initialLength = first.machine.initialLength :=
  (Machine.setup_of_reset_eq evolves.reset_eq).2.2.2

theorem length_le (evolves : first.Evolves last) :
    first.machine.tape.length ≤ last.machine.tape.length := by
  induction evolves with
  | refl => exact Nat.le_refl _
  | head _ _ ih | position _ _ ih | change _ _ _ ih | read _ ih | write _ _ ih => exact ih
  | @grow last _ ih =>
      have grown : last.grow.machine.tape.length = last.machine.tape.length + 1 :=
        Tape.length_grow _
      omega

theorem sound (evolves : first.Evolves last) (sound : first.machine.tape.Sound) :
    last.machine.tape.Sound := by
  induction evolves with
  | refl => exact sound
  | head _ _ ih | position _ _ ih | read _ ih | write _ _ ih => exact ih
  | change _ inside update ih => exact ih.update inside update
  | grow _ ih => exact ih.grow

theorem exists_drop (evolves : first.Evolves last) :
    ∃ asked offered, last.exchange.reads = first.exchange.reads.drop asked ∧
      last.exchange.writes = first.exchange.writes.drop offered := by
  induction evolves with
  | refl => exact ⟨0, 0, rfl, rfl⟩
  | head _ _ ih | position _ _ ih | change _ _ _ ih | grow _ ih => exact ih
  | read _ ih =>
      obtain ⟨asked, offered, reads, writes⟩ := ih
      refine ⟨asked + 1, offered, ?_, ?_⟩
      · rw [Exchange.reads_read, reads, List.drop_drop]
      · rw [Exchange.writes_read, writes]
  | write _ byte ih =>
      obtain ⟨asked, offered, reads, writes⟩ := ih
      refine ⟨asked, offered + 1, ?_, ?_⟩
      · rw [Exchange.reads_write, reads]
      · rw [Exchange.writes_write, writes, List.drop_drop]

end Evolves

/-- Whether it succeeds or fails, an action makes moves of commands only. -/
def Moves {α : Type} (action : Action α) : Prop :=
  ∀ session : Session, session.Evolves (after (action session))

namespace Moves

variable {α β : Type}

theorem pure (answer : α) : Moves (Pure.pure answer) := fun _ => .refl

theorem throw (fault : Fault) : Moves (throw fault : Action α) := fun _ => .refl

theorem get : Moves (get : Action Session) := fun _ => .refl

theorem bind {first : Action α} {next : α → Action β} (moves : Moves first)
    (movesNext : ∀ answer, Moves (next answer)) : Moves (first >>= next) := by
  intro session
  have before := moves session
  rw [bind_eq]
  cases made : first session with
  | ok answer middle =>
      rw [made] at before
      exact before.trans (movesNext answer middle)
  | error fault middle =>
      rw [made] at before
      exact before

theorem placeHead (move : Machine → Int) :
    Moves (alter fun machine => { machine with head := move machine }) :=
  fun _ => .head .refl _

theorem jump (position : Int) :
    Moves (alter fun machine => { machine with position := position }) :=
  fun _ => .position .refl position

theorem check : Moves check := by
  intro session
  rw [check_eq]
  split
  · exact .refl
  · split
    · exact .grow .refl
    · exact .refl

theorem changeCell (index : Int) (update : Nat → Nat) : Moves (changeCell index update) := by
  intro session
  rw [changeCell_eq]
  cases found : session.machine.tape.slot? index with
  | none => exact .refl
  | some slot => exact .change .refl (Tape.slot?_lt found) update

theorem changeCurrent (update : CellWidth → Nat → Nat) : Moves (changeCurrent update) :=
  get.bind fun _ => (changeCell _ _).bind fun _ => pure _

theorem store (index value : Int) : Moves (store index value) :=
  get.bind fun _ => changeCell _ _

theorem currentCell : Moves currentCell := by
  refine get.bind fun session => ?_
  split
  · exact pure _
  · exact throw _

theorem ask : Moves ask := fun _ => .read .refl

theorem offer (byte : UInt8) : Moves (offer byte) := fun _ => .write .refl byte

theorem breakOff (cause : StreamFault) : Moves (breakOff cause) := fun _ => .refl

theorem passOn (fault : StreamFault) : Moves (passOn fault) := by
  unfold Session.passOn
  split
  · exact breakOff _
  · exact throw _

theorem perform (command : Command) : Moves (perform command) := by
  cases command with
  | right => exact check.bind fun _ => (placeHead _).bind fun _ => check.bind fun _ => pure _
  | left =>
      refine check.bind fun _ => get.bind fun session => ?_
      split
      · exact throw _
      · exact (placeHead _).bind fun _ => check.bind fun _ => pure _
  | increment =>
      rw [Session.perform, increment]
      exact changeCurrent _
  | decrement =>
      rw [Session.perform, decrement]
      exact changeCurrent _
  | output =>
      refine currentCell.bind fun value => (offer _).bind fun answer => ?_
      split
      · exact passOn _
      · exact get.bind fun _ => pure _
      · split
        · exact get.bind fun _ => pure _
        · exact breakOff _
  | input =>
      refine ask.bind fun answer => ?_
      split
      · exact passOn _
      · exact breakOff _
      · exact breakOff _
      · exact changeCurrent _
  | loopStart =>
      refine get.bind fun session => ?_
      split
      · exact pure _
      · exact throw _
  | loopEnd =>
      refine currentCell.bind fun value => get.bind fun session => ?_
      split
      · exact pure _
      · split
        · exact pure _
        · exact throw _

theorem step : Moves step := by
  refine get.bind fun session => ?_
  split
  · exact throw _
  · exact (perform _).bind fun position => jump position

end Moves

/-! ## Whole runs -/

variable {count : Nat} {first last : Session}

theorem evolves_of_made (made : step first = .ok () last) : first.Evolves last := by
  have moves := Moves.step first
  rwa [made] at moves

theorem evolves_of_failing {fault : Fault} (failing : step first = .error fault last) :
    first.Evolves last := by
  have moves := Moves.step first
  rwa [failing] at moves

theorem evolves_of_steps (steps : Steps count first last) : first.Evolves last := by
  induction steps with
  | none session => exact .refl
  | more _ made _ ih => exact (evolves_of_made made).trans ih

/-- A run evolves into the session it leaves, which the log may have closed. -/
theorem evolves_runFor (fuel : Nat) (session : Session) :
    ∃ reached, session.Evolves reached ∧
      (runFor fuel session).session.machine = reached.machine ∧
      (runFor fuel session).session.exchange = reached.exchange := by
  obtain ⟨count, last, _, steps, ⟨_, run⟩ | ⟨_, _, fault, next, failing, run⟩ | ⟨_, _, run⟩⟩ :=
    runFor_cases fuel session
  all_goals
    have evolves := evolves_of_steps steps
    rw [run]
  · exact ⟨last, evolves, rfl, rfl⟩
  · exact ⟨next, evolves.trans (evolves_of_failing failing), rfl, rfl⟩
  · exact ⟨last, evolves, rfl, rfl⟩

end Session

end TapeMachine
