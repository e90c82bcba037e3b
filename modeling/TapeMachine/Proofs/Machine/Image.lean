import TapeMachine.Proofs.Machine.Run

/-!
# Sessions seen through a function

A function on sessions that commutes with every step of a run commutes with the run.  A run with
more input behind it, or one on narrower cells, is then no second run to follow step by step: it is
the image of a run that is known.
-/

set_option autoImplicit false

namespace TapeMachine

/-- How an action ends, the state it leaves seen through a function. -/
def image {α σ τ : Type} (view : σ → τ) : EStateM.Result Fault σ α → EStateM.Result Fault τ α
  | .ok answer state => .ok answer (view state)
  | .error fault state => .error fault (view state)

namespace Run

def map (view : Session → Session) : Run → Run
  | ended session => .ended (view session)
  | failed fault session => .failed fault (view session)
  | unfinished session => .unfinished (view session)

/-- Two runs that come to the same end, equal faults included, in related sessions. -/
def Corresponds (related : Session → Session → Prop) : Run → Run → Prop
  | .ended first, .ended second => related first second
  | .failed fault first, .failed fault' second => fault' = fault ∧ related first second
  | .unfinished first, .unfinished second => related first second
  | _, _ => False

theorem Corresponds.cases {related : Session → Session → Prop} {run other : Run}
    (corresponds : run.Corresponds related other) :
    (∃ first second, run = .ended first ∧ other = .ended second ∧ related first second) ∨
      (∃ fault first second, run = .failed fault first ∧ other = .failed fault second ∧
        related first second) ∨
      ∃ first second, run = .unfinished first ∧ other = .unfinished second ∧
        related first second := by
  cases run with
  | ended first =>
      cases other with
      | ended second => exact Or.inl ⟨first, second, rfl, rfl, corresponds⟩
      | _ => exact corresponds.elim
  | failed fault first =>
      cases other with
      | failed fault' second =>
          obtain ⟨rfl, same⟩ := corresponds
          exact Or.inr (Or.inl ⟨fault', first, second, rfl, rfl, same⟩)
      | _ => exact corresponds.elim
  | unfinished first =>
      cases other with
      | unfinished second => exact Or.inr (Or.inr ⟨first, second, rfl, rfl, corresponds⟩)
      | _ => exact corresponds.elim

theorem session_map (view : Session → Session) (run : Run) :
    (run.map view).session = view run.session := by
  cases run with
  | ended session => rfl
  | failed fault session => rfl
  | unfinished session => rfl

theorem corresponds_map {related : Session → Session → Prop} {view : Session → Session}
    (relates : ∀ session, related session (view session)) (run : Run) :
    run.Corresponds related (run.map view) := by
  cases run with
  | ended session => exact relates session
  | failed fault session => exact ⟨rfl, relates session⟩
  | unfinished session => exact relates session

theorem corresponds_map_map {related : Session → Session → Prop} {view view' : Session → Session}
    (relates : ∀ session, related (view session) (view' session)) (run : Run) :
    (run.map view).Corresponds related (run.map view') := by
  cases run with
  | ended session => exact relates session
  | failed fault session => exact ⟨rfl, relates session⟩
  | unfinished session => exact relates session

end Run

namespace Session

/-- A function on sessions that leaves alone whether the program has ended, and what the log says
once it has. -/
structure IsView (view : Session → Session) : Prop where
  finished : ∀ session, (view session).machine.finished = session.machine.finished
  record : ∀ session : Session, view (session.record session.machine.finishedEvent) =
    (view session).record (view session).machine.finishedEvent

namespace IsView

variable {view : Session → Session}

theorem steps (isView : IsView view) {count : Nat} {first last : Session}
    (commutes : ∀ session next, step session = .ok () next → step (view session) = .ok () (view next))
    (steps : Steps count first last) : Steps count (view first) (view last) := by
  induction steps with
  | none session => exact .none (view session)
  | more going made _ ih =>
      apply Steps.more _ (commutes _ _ made) ih
      rw [isView.finished, going]

/-- The image of a run is the run of the image.  The steps that have to commute are those that the
run makes or fails in. -/
theorem runFor (isView : IsView view) (fuel : Nat) :
    ∀ session : Session,
      (∀ count reached, count < fuel → Steps count session reached →
        reached.machine.finished = false → step (view reached) = image view (step reached)) →
      Session.runFor fuel (view session) = (Session.runFor fuel session).map view := by
  induction fuel with
  | zero =>
      intro session _
      rw [Session.runFor, Session.runFor, isView.finished]
      split
      · exact congrArg Run.ended (isView.record session).symm
      · rfl
  | succ fuel ih =>
      intro session commutes
      cases going : session.machine.finished with
      | true =>
          have done := (isView.finished session).trans going
          rw [runFor_of_finished _ going, runFor_of_finished _ done, Run.map, isView.record]
      | false =>
          have going' := (isView.finished session).trans going
          rw [runFor_succ fuel going, runFor_succ fuel going',
            commutes 0 session (Nat.succ_pos fuel) (.none session) going]
          cases made : step session with
          | error fault last => rfl
          | ok _ next =>
              apply ih
              intro count reached fewer steps
              exact commutes (count + 1) reached (Nat.succ_lt_succ fewer) (.more going made steps)

end IsView

end Session

end TapeMachine
