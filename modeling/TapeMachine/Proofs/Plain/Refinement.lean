import TapeMachine.Proofs.Machine.Bounds
import TapeMachine.Proofs.Machine.Image
import TapeMachine.Proofs.Plain.Machine

/-!
# The buffer behind a plain list of cells

A machine behaves as the one with a plain list of cells does.  The two are compared action by
action, on sound tapes: where growing shows a cell of the buffer that was there before, it is the
spare zeros of a sound tape that make it the new zero of the list.

Main statement: no history of operations tells the two machines apart.
-/

set_option autoImplicit false

namespace TapeMachine

namespace Tape

theorem getElem?_cells_of_slot? {tape : Tape} (sound : tape.Sound) (index : Int) :
    ((tape.slot? index).bind fun slot => tape.cells[slot]?) = tape.get? index := by
  rw [get?]
  cases found : tape.slot? index with
  | none => rfl
  | some slot => exact getElem?_cells sound (slot?_lt found)

end Tape

namespace Session

def plain (session : Session) : Plain where
  program := session.machine.program
  width := session.machine.width
  growable := session.machine.growable.isOn
  initialLength := session.machine.initialLength
  cells := session.machine.tape.cells
  head := session.machine.head
  position := session.machine.position
  exchange := session.exchange

section Plain

variable {session : Session} (sound : session.machine.tape.Sound)
include sound

theorem length_plain : session.plain.cells.length = session.machine.tape.length :=
  Tape.length_cells sound

theorem slot?_plain (index : Int) :
    session.plain.slot? index = session.machine.tape.slot? index := by
  rw [Plain.slot?, length_plain sound, Tape.slot?]

theorem headFault_plain (belowZero : Bool) :
    session.plain.headFault belowZero = session.machine.headFault belowZero := by
  rw [Plain.headFault, length_plain sound]
  rfl

theorem grow_plain :
    { session.plain with cells := session.plain.cells ++ [0] } = session.grow.plain := by
  have grown := Tape.cells_grow sound
  simp only [plain, grow, record, grown]

end Plain

/-- An action does to a session with a sound tape what another action does to the plain machine. -/
structure Refines {α : Type} (action : Action α) (reference : Plain.Action α) : Prop where
  same : ∀ session : Session, session.machine.tape.Sound →
    reference session.plain = image plain (action session)
  sound : ∀ session : Session, session.machine.tape.Sound →
    (after (action session)).machine.tape.Sound

namespace Refines

variable {α β : Type}

theorem of_moves {action : Action α} {reference : Plain.Action α} (moves : Moves action)
    (same : ∀ session : Session, session.machine.tape.Sound →
      reference session.plain = image plain (action session)) : Refines action reference where
  same := same
  sound := fun session sound => (moves session).sound sound

theorem pure (answer : α) : Refines (Pure.pure answer) (Pure.pure answer) :=
  of_moves (Moves.pure answer) fun _ _ => rfl

theorem throw {fault fault' : Fault} (same : fault' = fault) :
    Refines (throw fault : Action α) (throw fault') := by
  subst same
  exact of_moves (Moves.throw fault') fun _ _ => rfl

theorem bind {first : Action α} {reference : Plain.Action α} {next : α → Action β}
    {referenceNext : α → Plain.Action β} (refines : Refines first reference)
    (refinesNext : ∀ answer, Refines (next answer) (referenceNext answer)) :
    Refines (first >>= next) (reference >>= referenceNext) where
  same := by
    intro session sound
    have kept := refines.sound session sound
    rw [bind_eq, bind_eq, refines.same session sound]
    cases made : first session with
    | ok answer middle =>
        rw [made] at kept
        exact (refinesNext answer).same middle kept
    | error fault middle => rfl
  sound := by
    intro session sound
    have kept := refines.sound session sound
    rw [bind_eq]
    cases made : first session with
    | ok answer middle =>
        rw [made] at kept
        exact (refinesNext answer).sound middle kept
    | error fault middle =>
        rw [made] at kept
        exact kept

theorem get_bind {next : Session → Action β} {referenceNext : Plain → Plain.Action β}
    (refines : ∀ session : Session, session.machine.tape.Sound →
      Refines (next session) (referenceNext session.plain)) :
    Refines (get >>= next) (get >>= referenceNext) where
  same := fun session sound => (refines session sound).same session sound
  sound := fun session sound => (refines session sound).sound session sound

theorem ite {condition : Prop} [Decidable condition] {first second : Action α}
    {reference reference' : Plain.Action α} (yes : Refines first reference)
    (no : Refines second reference') :
    Refines (if condition then first else second)
      (if condition then reference else reference') := by
  split
  · exact yes
  · exact no

/-! ## Commands -/

theorem check : Refines check Plain.check := by
  refine of_moves Moves.check ?_
  intro session sound
  rw [Plain.check_eq, length_plain sound, grow_plain sound, headFault_plain sound, check_eq,
    apply_ite (image _), apply_ite (image _)]
  rfl

theorem placeHead (move : Int → Int) :
    Refines (alter fun machine => { machine with head := move machine.head })
      (Plain.placeHead move) :=
  of_moves (Moves.placeHead fun machine => move machine.head) fun _ _ => rfl

theorem changeCell (index : Int) (update : Nat → Nat) :
    Refines (changeCell index update) (Plain.changeCell index update) := by
  refine of_moves (Moves.changeCell index update) ?_
  intro session sound
  have slot := slot?_plain sound index
  rw [changeCell_eq]
  cases found : session.machine.tape.slot? index with
  | none =>
      rw [Plain.changeCell_of_missing (slot.trans found), length_plain sound]
      rfl
  | some slot' =>
      have changed := session.machine.tape.cells_update slot' update
      rw [Plain.changeCell_of_found (slot.trans found)]
      simp only [plain, image, changed]

theorem changeCurrent (update : CellWidth → Nat → Nat) :
    Refines (changeCurrent update) (Plain.changeCurrent update) :=
  get_bind fun _ _ => (changeCell _ _).bind fun _ => pure _

theorem store (index value : Int) : Refines (store index value) (Plain.store index value) :=
  get_bind fun _ _ => changeCell _ _

theorem currentCell : Refines currentCell Plain.currentCell := by
  refine get_bind fun session sound => ?_
  have cell : ((session.plain.slot? session.plain.head).bind fun slot =>
      session.plain.cells[slot]?) = session.machine.currentCell? := by
    rw [slot?_plain sound]
    exact Tape.getElem?_cells_of_slot? sound _
  rw [cell, length_plain sound]
  cases session.machine.currentCell? with
  | none => exact throw rfl
  | some value => exact pure value

theorem ask : Refines ask Plain.ask := of_moves Moves.ask fun _ _ => rfl

theorem offer (byte : UInt8) : Refines (offer byte) (Plain.offer byte) :=
  of_moves (Moves.offer byte) fun _ _ => rfl

theorem following :
    Refines (get >>= fun session => Pure.pure session.following) Plain.following :=
  get_bind fun _ _ => pure _

theorem breakOff (cause : StreamFault) : Refines (breakOff cause) (Plain.breakOff cause) :=
  get_bind fun _ _ => throw rfl

theorem passOn (fault : StreamFault) : Refines (passOn fault) (Plain.passOn fault) :=
  ite (breakOff fault) (throw rfl)

theorem perform (command : Command) : Refines (perform command) (Plain.perform command) := by
  cases command with
  | right =>
      exact check.bind fun _ => (placeHead fun head => head + 1).bind fun _ =>
        check.bind fun position => pure _
  | left =>
      refine check.bind fun _ => get_bind fun session sound => ?_
      refine ite (throw (headFault_plain sound true)) ?_
      exact (placeHead fun head => head - 1).bind fun _ => check.bind fun position => pure _
  | increment =>
      rw [Session.perform, increment]
      exact changeCurrent _
  | decrement =>
      rw [Session.perform, decrement]
      exact changeCurrent _
  | output =>
      refine currentCell.bind fun value => (offer _).bind fun answer => ?_
      cases answer with
      | fault fault => exact passOn fault
      | nothing => exact following
      | count written => exact ite following (breakOff _)
  | input =>
      refine ask.bind fun answer => ?_
      cases answer with
      | fault fault => exact passOn fault
      | nothing => exact breakOff _
      | data bytes =>
          cases bytes with
          | nil => exact breakOff _
          | cons byte rest => exact changeCurrent _
  | loopStart =>
      refine get_bind fun session _ => ?_
      have ends : session.plain.program.ends[session.plain.position]? =
        session.machine.program.ends[session.machine.position]? := rfl
      rw [ends]
      cases session.machine.program.ends[session.machine.position]? with
      | none => exact throw rfl
      | some position => exact pure position
  | loopEnd =>
      refine currentCell.bind fun value => get_bind fun session _ => ?_
      have starts : session.plain.program.starts[session.plain.position]? =
        session.machine.program.starts[session.machine.position]? := rfl
      refine ite (pure _) ?_
      rw [starts]
      cases session.machine.program.starts[session.machine.position]? with
      | none => exact throw rfl
      | some position => exact pure _

theorem step : Refines step Plain.step := by
  refine get_bind fun session _ => ?_
  have found : session.plain.program.instruction? session.plain.position =
    session.machine.program.instruction? session.machine.position := rfl
  rw [found]
  cases session.machine.program.instruction? session.machine.position with
  | none => exact throw rfl
  | some instruction =>
      exact (perform instruction.command).bind fun position =>
        of_moves (Moves.jump position) fun _ _ => rfl

end Refines

/-! ## Runs and histories -/

def plainly (answered : Answer × Session) : Answer × Plain := (answered.1, answered.2.plain)

theorem runFor_plain (fuel : Nat) :
    ∀ session : Session, session.machine.tape.Sound →
      session.plain.runFor fuel = plainly (session.carryOut (.run fuel)) := by
  induction fuel with
  | zero =>
      intro session _
      rw [carryOut, runFor, Plain.runFor]
      cases going : session.machine.finished with
      | true => exact if_pos (session.machine.finished_eq_true_iff.mp going)
      | false =>
          have before := session.machine.finished_eq_false_iff.mp going
          exact if_neg (Int.not_le.mpr before)
  | succ fuel ih =>
      intro session sound
      rw [carryOut]
      cases going : session.machine.finished with
      | true =>
          have past := session.machine.finished_eq_true_iff.mp going
          rw [runFor_of_finished _ going, Plain.runFor]
          exact if_pos past
      | false =>
          have before := session.machine.finished_eq_false_iff.mp going
          have kept := Refines.step.sound session sound
          rw [runFor_succ fuel going, Plain.runFor, Refines.step.same session sound]
          refine (if_neg (Int.not_le.mpr before)).trans ?_
          cases made : step session with
          | error fault next => rfl
          | ok _ next =>
              rw [made] at kept
              exact ih next kept

theorem carryOut_plain {session : Session} (sound : session.machine.tape.Sound)
    (operation : Operation) :
    session.plain.carryOut operation = plainly (session.carryOut operation) := by
  cases operation with
  | handle command =>
      rw [Plain.carryOut, (Refines.perform command).same session sound]
      exact Answer.ofResult_image _ _ _
  | check =>
      rw [Plain.carryOut, Refines.check.same session sound]
      exact Answer.ofResult_image _ _ _
  | store index value =>
      rw [Plain.carryOut, (Refines.store index value).same session sound]
      exact Answer.ofResult_image _ _ _
  | reset =>
      have blank := Tape.cells_blank session.machine.initialLength
      simp only [carryOut, Plain.carryOut, plainly, plain, Machine.reset, Plain.reset, blank]
  | placeHead head => rfl
  | jump position => rfl
  | connect reads writes => rfl
  | run steps => exact runFor_plain steps session sound

theorem sound_replay {session : Session} (sound : session.machine.tape.Sound)
    (history : List Operation) : (session.replay history).2.machine.tape.Sound :=
  replay_preserves (fun machine => machine.tape.Sound) (fun _ _ evolves => evolves.sound)
    (fun _ _ => Tape.sound_blank _) history session sound

theorem replay_plain (history : List Operation) :
    ∀ session : Session, session.machine.tape.Sound →
      session.plain.replay history =
        ((session.replay history).1, (session.replay history).2.plain) := by
  induction history with
  | nil => exact fun _ _ => rfl
  | cons operation rest ih =>
      intro session sound
      have kept : (session.carryOut operation).2.machine.tape.Sound :=
        sound_replay sound [operation]
      rw [Plain.replay, carryOut_plain sound, plainly, ih _ kept]
      rfl

end Session

/-- No history of operations tells a machine from the one with a plain list of cells: every answer
is the same, and so are the cells, the head, the position and the streams at last.  All spare cells
are then zeros, so growing adds a zero and alters no other cell. -/
theorem buffer_refines_plain_list {memory : Memory} {program : Program} {cells : Int}
    {growable : Flag} {width : CellWidth} {machine : Machine}
    (made : Machine.create memory program cells growable width = .ok machine) (exchange : Exchange)
    (events : Array Event) (history : List Operation) :
    let replayed := Session.replay ⟨machine, exchange, events⟩ history
    let tape := replayed.2.machine.tape
    (replayed.1, replayed.2.plain) =
        (Plain.blank program (Machine.startLength cells) growable.isOn width exchange).replay
          history ∧
      (∀ slot value, tape.length ≤ slot → tape.buffer[slot]? = some value → value = 0) ∧
      tape.grow.cells = tape.cells ++ [0] := by
  intro replayed tape
  have start := (Machine.inBounds_of_create made).sound
  have fresh : (⟨machine, exchange, events⟩ : Session).plain =
      Plain.blank program (Machine.startLength cells) growable.isOn width exchange := by
    obtain ⟨rfl, _⟩ := Machine.create_eq_ok made
    simp only [Session.plain, Plain.blank, Tape.cells_blank]
  have sound : tape.Sound := Session.sound_replay start history
  refine ⟨?_, ?_, Tape.cells_grow sound⟩
  · rw [← fresh]
    exact (Session.replay_plain history _ start).symm
  · intro slot value outside there
    have spare := sound.spare slot outside
    rwa [Tape.valueAt_eq, there] at spare

theorem spare_cell_is_shown_as_zero :
    ∃ program machine, Program.ofSource ">>+" "grow" = .ok program ∧
      Machine.create .ample program 1 (.truth true) .eight = .ok machine ∧
      let history : List Operation := [.run 3, .store (-1) 258, .placeHead 3, .check]
      let replayed := Session.replay ⟨machine, Exchange.ofBytes [], #[]⟩ history
      replayed.2.machine.tape = ⟨#[0, 0, 2, 0], 4⟩ ∧
      (replayed.1, replayed.2.plain) =
        (Plain.blank program 1 true .eight (Exchange.ofBytes [])).replay history := by
  let program := Program.assemble (Instruction.scan ">>+".toList) [] "grow" ">>+"
  have loaded : Program.ofSource ">>+" "grow" = .ok program := rfl
  -- The machine keeps a name of its own, lest its history be unfolded where it is mentioned.
  obtain ⟨machine, same⟩ : ∃ machine : Machine,
      machine = ⟨program, .eight, .truth true, 1, Tape.blank 1, 0, 0⟩ := ⟨_, rfl⟩
  have made : Machine.create .ample program 1 (.truth true) .eight = .ok machine := by
    rw [same]
    rfl
  refine ⟨program, machine, loaded, made, ?_, (buffer_refines_plain_list made _ _ _).1⟩
  rw [same]
  decide +kernel

end TapeMachine
