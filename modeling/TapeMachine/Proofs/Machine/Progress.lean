import TapeMachine.Proofs.Machine.Bounds

/-!
# What a run keeps and what it only adds to

No step changes the program or the setup of its machine, takes a cell away or takes an output byte
back.
-/

set_option autoImplicit false

namespace TapeMachine.Session

theorem length_act (session : Session) (command : Command) :
    session.machine.tape.length ≤ (after (session.act command)).machine.tape.length := by
  cases command with
  | right =>
      rw [act]
      split
      · exact Nat.le_refl _
      · split
        · have grown : (session.shift 1).grow.advance.machine.tape.length =
              session.machine.tape.length + 1 :=
            Tape.length_grow _
          rw [after, grown]
          exact Nat.le_succ _
        · exact Nat.le_refl _
  | left =>
      rw [act]
      split
      · exact Nat.le_refl _
      · exact Nat.le_refl _
  | increment => exact Nat.le_refl _
  | decrement => exact Nat.le_refl _
  | output =>
      rw [act]
      split
      · exact Nat.le_refl _
      · exact Nat.le_refl _
      · split
        · exact Nat.le_refl _
        · exact Nat.le_refl _
  | input =>
      rw [act]
      split
      · exact Nat.le_refl _
      · exact Nat.le_refl _
      · exact Nat.le_refl _
      · exact Nat.le_refl _
  | loopStart =>
      rw [act]
      split
      · exact Nat.le_refl _
      · exact Nat.le_refl _
  | loopEnd =>
      rw [act]
      split
      · exact Nat.le_refl _
      · split
        · exact Nat.le_refl _
        · exact Nat.le_refl _

theorem output_act (session : Session) (command : Command) :
    session.exchange.output <+: (after (session.act command)).exchange.output := by
  rcases exchange_act session command with same | ⟨_, same⟩ | ⟨_, same⟩
  · have output := congrArg Exchange.output same
    exact ⟨[], (List.append_nil _).trans output.symm⟩
  · have output := congrArg Exchange.output same
    rw [Exchange.output_read] at output
    exact ⟨[], (List.append_nil _).trans output.symm⟩
  · rw [same, Exchange.output_write]
    exact List.prefix_append _ _

variable {block : Block} {session : Session}

theorem growable_runFor (fuel : Nat) (session : Session) :
    (runFor fuel session).session.machine.growable = session.machine.growable := by
  obtain ⟨reached, evolves, machine, _⟩ := evolves_runFor fuel session
  rw [machine]
  exact evolves.growable_eq

/-- The last session of a run has the cells and the output of the first one, and perhaps more. -/
theorem run_adds (loaded : Loaded block session) (fuel : Nat) :
    session.machine.tape.length ≤ (runFor fuel session).session.machine.tape.length ∧
      session.exchange.output <+: (runFor fuel session).session.exchange.output := by
  induction fuel generalizing session with
  | zero =>
      rw [runFor]
      split
      · exact ⟨Nat.le_refl _, List.prefix_refl _⟩
      · exact ⟨Nat.le_refl _, List.prefix_refl _⟩
  | succ fuel ih =>
      cases going : session.machine.finished with
      | true =>
          rw [runFor_of_finished _ going]
          exact ⟨Nat.le_refl _, List.prefix_refl _⟩
      | false =>
          obtain ⟨command, _, acted⟩ := loaded.exists_act going
          have length := length_act session command
          have output := output_act session command
          rw [← acted] at length output
          rw [runFor_succ fuel going]
          cases made : Session.step session with
          | error fault last =>
              rw [made] at length output
              exact ⟨length, output⟩
          | ok _ next =>
              rw [made] at length output
              obtain ⟨length', output'⟩ := ih (loaded.step going made)
              exact ⟨Nat.le_trans length length', output.trans output'⟩

end TapeMachine.Session
