import TapeMachine.Proofs.Cell
import TapeMachine.Proofs.Machine.Evolution
import TapeMachine.Proofs.Machine.Image

/-!
# Other cells and other streams

A command learns of the cells only what arithmetic, bytes and tests for zero tell of them, and of
its streams only what they answer.  A session whose cells and streams are replaced by others that
look the same to a command therefore goes on in the same way.
-/

set_option autoImplicit false

namespace TapeMachine

namespace Session

/-- The session with cells of some width in place of its own, and with its streams changed. -/
def recast (width : CellWidth) (cast : Nat → Nat) (edit : Exchange → Exchange)
    (session : Session) : Session :=
  { session with
    machine :=
      { session.machine with
        width := width
        tape := session.machine.tape.map cast }
    exchange := edit session.exchange }

section Recast

variable {width : CellWidth} {cast : Nat → Nat} {edit : Exchange → Exchange}

theorem isView_recast (width : CellWidth) (cast : Nat → Nat) (edit : Exchange → Exchange) :
    IsView (recast width cast edit) where
  finished := fun _ => rfl
  record := fun _ => rfl

theorem grow_recast (zero : cast 0 = 0) (session : Session) :
    (session.recast width cast edit).grow = session.grow.recast width cast edit := by
  have grown := Tape.grow_map session.machine.tape zero
  simp only [recast, grow, record, grown, Tape.length_map]

theorem check_recast (zero : cast 0 = 0) (session : Session) :
    check (session.recast width cast edit) =
      image (recast width cast edit) (check session) := by
  rw [check_eq, check_eq, grow_recast zero, apply_ite (image _), apply_ite (image _)]
  rfl

theorem changeCurrent_recast (session : Session) {update : CellWidth → Nat → Nat}
    (commutes : ∀ value,
      update width (cast value) = cast (update session.machine.width value)) :
    changeCurrent update (session.recast width cast edit) =
      image (recast width cast edit) (changeCurrent update session) := by
  have slot : (session.recast width cast edit).machine.tape.slot?
      (session.recast width cast edit).machine.head =
        session.machine.tape.slot? session.machine.head := rfl
  rw [changeCurrent_eq, changeCurrent_eq, slot]
  cases session.machine.tape.slot? session.machine.head with
  | none => rfl
  | some slot =>
      have changed := session.machine.tape.update_map slot commutes
      simp only [recast, changed, image]
      rfl

/-- A command sees no difference, if its streams answer alike and a loop test finds a zero in both
or in neither. -/
theorem perform_recast (session : Session) (command : Command)
    (casts : session.machine.width.Casts width cast)
    (writes : ∀ byte, (edit session.exchange).write byte =
      ((session.exchange.write byte).1, edit (session.exchange.write byte).2))
    (reads : command = .input → (edit session.exchange).read =
      (session.exchange.read.1, edit session.exchange.read.2))
    (tests : command = .loopEnd → ∀ value, session.machine.currentCell? = some value →
      value ≠ 0 → cast value ≠ 0) :
    perform command (session.recast width cast edit) =
      image (recast width cast edit) (perform command session) := by
  have zero := casts.zero
  have cell : (session.recast width cast edit).machine.tape.get?
      (session.recast width cast edit).machine.head =
        (session.machine.tape.get? session.machine.head).map cast :=
    session.machine.tape.get?_map zero session.machine.head
  cases command with
  | right =>
      rw [perform, moveRight_eq, moveRight_eq, check_recast zero]
      cases check session with
      | error fault checked => rfl
      | ok position checked =>
          have shifted : (checked.recast width cast edit).shift 1 =
            (checked.shift 1).recast width cast edit := rfl
          simp only [image, shifted, check_recast zero]
          cases check (checked.shift 1) with
          | error fault moved => rfl
          | ok position moved => rfl
  | left =>
      rw [perform, moveLeft_eq, moveLeft_eq, check_recast zero]
      cases check session with
      | error fault checked => rfl
      | ok position checked =>
          have shifted : (checked.recast width cast edit).shift (-1) =
            (checked.shift (-1)).recast width cast edit := rfl
          have head : (checked.recast width cast edit).machine.head = checked.machine.head := rfl
          simp only [image, shifted, head, check_recast zero]
          by_cases first : checked.machine.head = 0
          · simp only [if_pos first]
            rfl
          · simp only [if_neg first]
            cases check (checked.shift (-1)) with
            | error fault moved => rfl
            | ok position moved => rfl
  | increment =>
      rw [perform, increment]
      exact changeCurrent_recast session casts.increment
  | decrement =>
      rw [perform, decrement]
      exact changeCurrent_recast session casts.decrement
  | output =>
      rw [perform, output_eq, output_eq, cell]
      cases session.machine.tape.get? session.machine.head with
      | none => rfl
      | some value =>
          have answer := writes (Cell.toByte value)
          simp only [Option.map_some, casts.toByte, recast, answer]
          cases (session.exchange.write (Cell.toByte value)).1 with
          | fault fault => rfl
          | nothing => rfl
          | count written =>
              by_cases once : written = 1
              · simp only [if_pos once]
                rfl
              · simp only [if_neg once]
                rfl
  | input =>
      have answer := reads rfl
      have asked : (session.recast width cast edit).asked =
          session.asked.recast width cast edit := by
        simp only [Session.asked, recast, answer]
      have heard : (session.recast width cast edit).exchange.read.1 = session.exchange.read.1 := by
        simp only [recast, answer]
      rw [perform, input_eq, input_eq, asked, heard]
      cases session.exchange.read.1 with
      | fault fault => rfl
      | nothing => rfl
      | data bytes =>
          cases bytes with
          | nil => rfl
          | cons byte rest =>
              exact changeCurrent_recast session.asked fun _ => (casts.ofByte byte).symm
  | loopStart =>
      have ends : (session.recast width cast edit).machine.program.ends[
          (session.recast width cast edit).machine.position]? =
            session.machine.program.ends[session.machine.position]? := rfl
      rw [perform, loopStart_eq, loopStart_eq, ends]
      cases session.machine.program.ends[session.machine.position]? with
      | none => rfl
      | some position => rfl
  | loopEnd =>
      have starts : (session.recast width cast edit).machine.program.starts[
          (session.recast width cast edit).machine.position]? =
            session.machine.program.starts[session.machine.position]? := rfl
      rw [perform, loopEnd_eq, loopEnd_eq, cell, starts]
      cases found : session.machine.tape.get? session.machine.head with
      | none => rfl
      | some value =>
          simp only [Option.map_some]
          by_cases blank : value = 0
          · have blank' : cast value = 0 := by
              rw [blank, zero]
            rw [if_pos blank, if_pos blank']
            rfl
          · rw [if_neg blank, if_neg (tests rfl value found blank)]
            cases session.machine.program.starts[session.machine.position]? with
            | none => rfl
            | some position => rfl

theorem step_recast (session : Session) (casts : session.machine.width.Casts width cast)
    (writes : ∀ byte, (edit session.exchange).write byte =
      ((session.exchange.write byte).1, edit (session.exchange.write byte).2))
    (reads : ∀ instruction,
      session.machine.program.instruction? session.machine.position = some instruction →
      instruction.command = .input → (edit session.exchange).read =
        (session.exchange.read.1, edit session.exchange.read.2))
    (tests : ∀ instruction,
      session.machine.program.instruction? session.machine.position = some instruction →
      instruction.command = .loopEnd → ∀ value, session.machine.currentCell? = some value →
        value ≠ 0 → cast value ≠ 0) :
    step (session.recast width cast edit) = image (recast width cast edit) (step session) := by
  cases found : session.machine.program.instruction? session.machine.position with
  | none =>
      have missing : (session.recast width cast edit).machine.program.instruction?
        (session.recast width cast edit).machine.position = none := found
      rw [step_of_missing found, step_of_missing missing]
      rfl
  | some instruction =>
      have found' : (session.recast width cast edit).machine.program.instruction?
        (session.recast width cast edit).machine.position = some instruction := found
      rw [step_eq found, step_eq found', perform_recast session instruction.command casts writes
        (reads instruction found) (tests instruction found)]
      cases perform instruction.command session with
      | error fault next => rfl
      | ok position next => rfl

end Recast

end Session

end TapeMachine
