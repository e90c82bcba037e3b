import TapeMachine.Machine.Session

/-!
# Running

A run repeats single steps until the program has ended, a step has failed, or a given number of
steps has been made.
-/

set_option autoImplicit false

namespace TapeMachine

inductive Run where
  | ended (session : Session)
  | failed (fault : Fault) (session : Session)
  /-- The steps allowed were not enough. -/
  | unfinished (session : Session)

namespace Run

def session : Run → Session
  | ended session | failed _ session | unfinished session => session

end Run

namespace Session

/-- Runs at most a given number of steps from the position. -/
def runFor : Nat → Session → Run
  | fuel, session =>
    if session.machine.finished then .ended (session.record session.machine.finishedEvent)
    else
      match fuel with
      | 0 => .unfinished session
      | fuel + 1 =>
        match step session with
        | .ok _ next => runFor fuel next
        | .error fault next => .failed fault next

theorem runFor_of_finished {session : Session} (fuel : Nat)
    (done : session.machine.finished = true) :
    runFor fuel session = .ended (session.record session.machine.finishedEvent) := by
  unfold runFor
  rw [if_pos done]

theorem runFor_succ {session : Session} (fuel : Nat)
    (going : session.machine.finished = false) :
    runFor (fuel + 1) session =
      match step session with
      | .ok _ next => runFor fuel next
      | .error fault next => .failed fault next := by
  rw [runFor, going]
  rfl

end Session

end TapeMachine
