import TapeMachine.Proofs.Machine.History
import TapeMachine.Proofs.Machine.Resumption

/-!
# Setting back

No operation changes what a machine was set up with, so that setting it back gives the machine that
it was at first.  The calls made to the streams before are of no influence on later ones: they stay
in front of the transcript, and that is all that tells a machine with a past from a new one.

Main statement: whatever was done with a machine, once it is set back every further sequence of
operations does to it what it does to a new machine.
-/

set_option autoImplicit false

namespace TapeMachine

theorem Machine.reset_of_create {memory : Memory} {program : Program} {cells : Int}
    {growable : Flag} {width : CellWidth} {machine : Machine}
    (made : Machine.create memory program cells growable width = .ok machine) :
    machine.reset = machine := by
  obtain ⟨rfl, _⟩ := Machine.create_eq_ok made
  rfl

namespace Session

/-! ## Earlier calls -/

section Preceded

variable (session : Session) (calls : Array StreamCall)

theorem check_preceded :
    check (session.preceded calls) = image (preceded calls) (check session) := by
  rw [check_eq, check_eq, apply_ite (image _), apply_ite (image _)]
  rfl

theorem perform_preceded (command : Command) :
    perform command (session.preceded calls) =
      image (preceded calls) (perform command session) :=
  perform_mapExchange session command (session.exchange.write_preceded calls)
    fun _ => session.exchange.read_preceded calls

theorem store_preceded (index value : Int) :
    store index value (session.preceded calls) =
      image (preceded calls) (store index value session) := by
  have stored : ∀ session : Session, store index value session =
      changeCell index (fun _ => session.machine.width.wrap value) session := fun _ => rfl
  have slot : (session.preceded calls).machine.tape.slot? index =
      session.machine.tape.slot? index := rfl
  rw [stored, stored, changeCell_eq, changeCell_eq, slot]
  cases session.machine.tape.slot? index with
  | none => rfl
  | some slot => rfl

theorem carryOut_preceded (operation : Operation) :
    (session.preceded calls).carryOut operation =
      ((session.carryOut operation).1, (session.carryOut operation).2.preceded calls) := by
  cases operation with
  | handle command =>
      rw [carryOut, carryOut, perform_preceded, Answer.ofResult_image]
  | check => rw [carryOut, carryOut, check_preceded, Answer.ofResult_image]
  | store index value => rw [carryOut, carryOut, store_preceded, Answer.ofResult_image]
  | reset | placeHead head | jump position | connect reads writes => rfl
  | run steps =>
      rw [carryOut, carryOut, runFor_preceded]
      cases runFor steps session with
      | ended last => rfl
      | failed fault last => rfl
      | unfinished last => rfl

end Preceded

theorem replay_preceded (operations : List Operation) (calls : Array StreamCall) :
    ∀ session : Session, (session.preceded calls).replay operations =
      ((session.replay operations).1, (session.replay operations).2.preceded calls) := by
  induction operations with
  | nil => exact fun _ => rfl
  | cons operation rest ih =>
      intro session
      rw [replay, replay, carryOut_preceded, ih]

/-- Whatever was done with a machine, setting it back gives what setting it back gave at first. -/
theorem reset_replay (history : List Operation) (session : Session) :
    (session.replay history).2.machine.reset = session.machine.reset := by
  apply replay_preserves fun machine => machine.reset = session.machine.reset
  · intro first last evolves same
    rw [evolves.reset_eq, same]
  · intro machine same
    exact same
  · rfl

end Session

/-- A machine that is set back, whatever was done with it before, is the machine that it was when it
was new: its cells are zero, as many as were asked for or else the usual number, and its head and
its position are at the first cell and at the first instruction.  Every further sequence of
operations gives the answers that a new machine gives on the same streams, and leaves the same
machine, with the new calls behind the earlier ones and the new output behind the earlier output. -/
theorem reset_undoes_every_history {memory : Memory} {program : Program} {cells : Int}
    {growable : Flag} {width : CellWidth} {machine : Machine}
    (made : Machine.create memory program cells growable width = .ok machine) (exchange : Exchange)
    (events : Array Event) (history : List Operation) :
    let used := ((⟨machine, exchange, events⟩ : Session).replay history).2
    let back := (used.carryOut .reset).2
    back.machine.tape.cells = List.replicate (if cells = 0 then 30000 else cells.toNat) 0 ∧
    back.machine.head = 0 ∧ back.machine.position = 0 ∧
    Machine.create memory program cells growable width = .ok back.machine ∧
    ∀ future,
      let new : Session := ⟨machine, ⟨back.exchange.reads, back.exchange.writes, #[]⟩, back.events⟩
      back.replay future =
        ((new.replay future).1, (new.replay future).2.preceded back.exchange.transcript) ∧
      (back.replay future).2.exchange.output =
        back.exchange.output ++ (new.replay future).2.exchange.output := by
  intro used back
  have same : back.machine = machine :=
    (Session.reset_replay history _).trans (Machine.reset_of_create made)
  obtain ⟨blank, _⟩ := Machine.create_eq_ok made
  refine ⟨?_, ?_, ?_, ?_, ?_⟩
  · rw [same, blank]
    exact Tape.cells_blank _
  · rw [same, blank]
  · rw [same, blank]
  · rw [same, made]
  · intro future new
    have past : back = new.preceded back.exchange.transcript := by
      simp only [new, ← same, Session.mapExchange, Exchange.preceded, Array.append_empty]
    have replayed : back.replay future =
        ((new.replay future).1, (new.replay future).2.preceded back.exchange.transcript) := by
      have preceded := Session.replay_preceded future back.exchange.transcript new
      rwa [← past] at preceded
    refine ⟨replayed, ?_⟩
    rw [replayed]
    exact Exchange.output_preceded _ _

/-- A run that made the tape grow and failed, and cells and positions changed by hand, are all
forgotten. -/
theorem reset_after_growth_and_failure :
    ∃ program machine, Program.ofSource ">+.<<" "step" = .ok program ∧
      Machine.create .ample program 1 (.truth true) .eight = .ok machine ∧
      let history : List Operation :=
        [.run 9, .placeHead 2, .handle .right, .store 0 (-1), .jump 7]
      let used := ((⟨machine, Exchange.ofBytes [], #[]⟩ : Session).replay history).2
      let back := (used.carryOut .reset).2
      used.machine.tape.cells = [255, 1, 0, 0] ∧ used.machine.head = 3 ∧
      back.machine.tape.cells = [0] ∧ back.machine.head = 0 ∧ back.machine.position = 0 ∧
      (back.replay [.run 9]).2.exchange.output = [1] ++ [1] := by
  let program := Program.assemble (Instruction.scan ">+.<<".toList) [] "step" ">+.<<"
  have loaded : Program.ofSource ">+.<<" "step" = .ok program := rfl
  -- The machine keeps a name of its own, lest its run be unfolded where it is mentioned.
  obtain ⟨machine, same⟩ : ∃ machine : Machine,
    machine = ⟨program, .eight, .truth true, 1, Tape.blank 1, 0, 0⟩ := ⟨_, rfl⟩
  have made : Machine.create .ample program 1 (.truth true) .eight = .ok machine := by
    rw [same]
    rfl
  let history : List Operation := [.run 9, .placeHead 2, .handle .right, .store 0 (-1), .jump 7]
  obtain ⟨blank, head, position, _, future⟩ :=
    reset_undoes_every_history made (Exchange.ofBytes []) #[] history
  have output := (future [.run 9]).2
  refine ⟨program, machine, loaded, made, ?_, ?_, blank, head, position, ?_⟩
  · rw [same]
    decide +kernel
  · rw [same]
    decide +kernel
  · rw [output, same]
    decide +kernel

end TapeMachine
