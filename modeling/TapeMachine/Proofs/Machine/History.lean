import TapeMachine.Proofs.Machine.Evolution
import TapeMachine.Proofs.Machine.Image

/-!
# Histories of a machine

Whoever holds a machine may carry out commands on it one by one, store values, run it, set it back
and put its head and its position anywhere, in any order and whatever failed before.  A property of
machines that evolving and setting back keep holds after every such history.
-/

set_option autoImplicit false

namespace TapeMachine

/-- What can be done with a machine from outside. -/
inductive Operation where
  /-- A single command, which leaves the position alone. -/
  | handle (command : Command)
  | check
  | store (index value : Int)
  | reset
  | placeHead (head : Int)
  | jump (position : Int)
  | connect (reads : List ReadAnswer) (writes : List WriteAnswer)
  | run (steps : Nat)
  deriving DecidableEq, Repr

inductive Answer where
  | position (next : Int)
  | done
  | failed (fault : Fault)
  | unfinished
  deriving DecidableEq, Repr

namespace Answer

def ofResult {α σ : Type} (answer : α → Answer) : EStateM.Result Fault σ α → Answer × σ
  | .ok value state => (answer value, state)
  | .error fault state => (.failed fault, state)

theorem error_of_ofResult {α σ : Type} {answer : α → Answer} {result : EStateM.Result Fault σ α}
    {fault : Fault} {last : σ} (failed : ofResult answer result = (.failed fault, last))
    (clean : ∀ value, answer value ≠ .failed fault) : result = .error fault last := by
  cases result with
  | ok value state =>
      injection failed with answered
      exact (clean value answered).elim
  | error fault' state =>
      injection failed with answered same
      injection answered with reported
      rw [reported, same]

theorem ofResult_image {α σ τ : Type} (answer : α → Answer) (view : σ → τ)
    (result : EStateM.Result Fault σ α) :
    ofResult answer (image view result) =
      ((ofResult answer result).1, view (ofResult answer result).2) := by
  cases result with
  | ok value state => rfl
  | error fault state => rfl

end Answer

namespace Session

def carryOut (session : Session) : Operation → Answer × Session
  | .handle command => Answer.ofResult .position (perform command session)
  | .check => Answer.ofResult .position (check session)
  | .store index value => Answer.ofResult (fun _ => .done) (store index value session)
  | .reset => (.done, { session with machine := session.machine.reset })
  | .placeHead head => (.done, { session with machine.head := head })
  | .jump position => (.done, { session with machine.position := position })
  | .connect reads writes =>
    (.done, { session with exchange := ⟨reads, writes, session.exchange.transcript⟩ })
  | .run steps =>
    match runFor steps session with
    | .ended last => (.done, last)
    | .failed fault last => (.failed fault, last)
    | .unfinished last => (.unfinished, last)

def replay (session : Session) : List Operation → List Answer × Session
  | [] => ([], session)
  | operation :: rest =>
    let first := session.carryOut operation
    let later := first.2.replay rest
    (first.1 :: later.1, later.2)

theorem session_carryOut_run (session : Session) (steps : Nat) :
    (session.carryOut (.run steps)).2 = (runFor steps session).session := by
  rw [carryOut]
  cases runFor steps session with
  | ended last => rfl
  | failed fault last => rfl
  | unfinished last => rfl

theorem runFor_of_carryOut {session last : Session} {fault : Fault} {steps : Nat}
    (failed : session.carryOut (.run steps) = (.failed fault, last)) :
    runFor steps session = .failed fault last := by
  rw [carryOut] at failed
  cases run : runFor steps session with
  | ended last' => simp [run] at failed
  | unfinished last' => simp [run] at failed
  | failed fault' last' =>
      simp only [run, Prod.mk.injEq, Answer.failed.injEq] at failed
      rw [failed.1, failed.2]

theorem session_ofResult {α : Type} (answer : α → Answer)
    (result : EStateM.Result Fault Session α) :
    (Answer.ofResult answer result).2 = after result := by
  cases result with
  | ok value session => rfl
  | error fault session => rfl

/-- An operation makes a machine evolve or sets it back. -/
theorem machine_carryOut (session : Session) (operation : Operation) :
    (session.carryOut operation).2.machine = session.machine.reset ∨
      ∃ reached, session.Evolves reached ∧
        (session.carryOut operation).2.machine = reached.machine := by
  cases operation with
  | handle command =>
      rw [carryOut, session_ofResult]
      exact Or.inr ⟨_, Moves.perform command session, rfl⟩
  | check =>
      rw [carryOut, session_ofResult]
      exact Or.inr ⟨_, Moves.check session, rfl⟩
  | store index value =>
      rw [carryOut, session_ofResult]
      exact Or.inr ⟨_, Moves.store index value session, rfl⟩
  | reset => exact Or.inl rfl
  | placeHead head => exact Or.inr ⟨_, .head .refl head, rfl⟩
  | jump position => exact Or.inr ⟨_, .position .refl position, rfl⟩
  | connect reads writes => exact Or.inr ⟨session, .refl, rfl⟩
  | run steps =>
      obtain ⟨reached, evolves, machine, _⟩ := evolves_runFor steps session
      rw [session_carryOut_run]
      exact Or.inr ⟨reached, evolves, machine⟩

/-- What evolving and setting back keep holds after every history. -/
theorem replay_preserves (invariant : Machine → Prop)
    (evolving : ∀ first last : Session, first.Evolves last → invariant first.machine →
      invariant last.machine)
    (settingBack : ∀ machine, invariant machine → invariant machine.reset)
    (history : List Operation) (session : Session) (holds : invariant session.machine) :
    invariant (session.replay history).2.machine := by
  induction history generalizing session with
  | nil => exact holds
  | cons operation rest ih =>
      apply ih
      rcases machine_carryOut session operation with back | ⟨reached, evolves, machine⟩
      · rw [back]
        exact settingBack _ holds
      · rw [machine]
        exact evolving session reached evolves holds

end Session

end TapeMachine
