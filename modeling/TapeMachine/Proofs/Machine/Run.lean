import TapeMachine.Machine.Run
import TapeMachine.Proofs.Machine.Step

/-!
# Runs as sequences of steps

A run is a sequence of steps that succeed, after which the program has ended, a step fails, or the
steps allowed are used up.  More steps do not change a run that has stopped.
-/

set_option autoImplicit false

namespace TapeMachine

namespace Session

/-- So many steps that succeed lead from one session to another. -/
inductive Steps : Nat → Session → Session → Prop where
  | none (session : Session) : Steps 0 session session
  | more {count : Nat} {first next last : Session} (going : first.machine.finished = false)
      (made : step first = .ok () next) (rest : Steps count next last) :
      Steps (count + 1) first last

namespace Steps

variable {count more : Nat} {first middle last : Session}

theorem trans (before : Steps count first middle) (after : Steps more middle last) :
    Steps (count + more) first last := by
  induction before with
  | none session => rwa [Nat.zero_add]
  | more going made _ ih =>
      rw [Nat.add_right_comm]
      exact Steps.more going made (ih after)

theorem preserves (invariant : Session → Prop)
    (kept : ∀ session next, invariant session → session.machine.finished = false →
      step session = .ok () next → invariant next)
    (steps : Steps count first last) (holds : invariant first) : invariant last := by
  induction steps with
  | none session => exact holds
  | more going made _ ih => exact ih (kept _ _ holds going made)

theorem runFor_add (steps : Steps count first last) (fuel : Nat) :
    runFor (count + fuel) first = runFor fuel last := by
  induction steps with
  | none session => rw [Nat.zero_add]
  | more going made _ ih =>
      rw [Nat.add_right_comm, runFor_succ _ going, made]
      exact ih

theorem machine_runFor (steps : Steps count first last) :
    (runFor count first).session.machine = last.machine := by
  have run := steps.runFor_add 0
  rw [Nat.add_zero] at run
  rw [run, runFor]
  split
  · rfl
  · rfl

end Steps

end Session

namespace Run

def HasStopped : Run → Prop
  | ended _ | failed _ _ => True
  | unfinished _ => False

end Run

namespace Session

/-- A run that stops makes the steps there are, and stops after them as well. -/
theorem Steps.hasStopped {count fuel : Nat} {first last : Session}
    (steps : Steps count first last) (stopped : (runFor fuel first).HasStopped) :
    count ≤ fuel ∧ (runFor (fuel - count) last).HasStopped := by
  induction steps generalizing fuel with
  | none session => exact ⟨Nat.zero_le fuel, stopped⟩
  | more going made _ ih =>
      cases fuel with
      | zero =>
          rw [runFor, going] at stopped
          exact stopped.elim
      | succ fuel =>
          rw [runFor_succ fuel going, made] at stopped
          obtain ⟨enough, later⟩ := ih stopped
          refine ⟨Nat.succ_le_succ enough, ?_⟩
          rwa [Nat.add_sub_add_right]

/-- How a run of some steps comes about. -/
theorem runFor_cases (fuel : Nat) :
    ∀ session : Session, ∃ count last, count ≤ fuel ∧ Steps count session last ∧
      ((last.machine.finished = true ∧
          runFor fuel session = .ended (last.record last.machine.finishedEvent)) ∨
        (last.machine.finished = false ∧ count < fuel ∧
          ∃ fault next, step last = .error fault next ∧
            runFor fuel session = .failed fault next) ∨
        (last.machine.finished = false ∧ count = fuel ∧
          runFor fuel session = .unfinished last)) := by
  induction fuel with
  | zero =>
      intro session
      refine ⟨0, session, Nat.le_refl 0, Steps.none session, ?_⟩
      cases going : session.machine.finished with
      | true => exact Or.inl ⟨rfl, runFor_of_finished 0 going⟩
      | false =>
          refine Or.inr (Or.inr ⟨rfl, rfl, ?_⟩)
          rw [runFor, going]
          rfl
  | succ fuel ih =>
      intro session
      cases going : session.machine.finished with
      | true =>
          exact ⟨0, session, Nat.zero_le _, Steps.none session,
            Or.inl ⟨going, runFor_of_finished _ going⟩⟩
      | false =>
          cases made : step session with
          | error fault next =>
              refine ⟨0, session, Nat.zero_le _, Steps.none session,
                Or.inr (Or.inl ⟨going, Nat.zero_lt_succ fuel, fault, next, made, ?_⟩)⟩
              rw [runFor_succ fuel going, made]
          | ok _ next =>
              obtain ⟨count, last, enough, steps, ends⟩ := ih next
              refine ⟨count + 1, last, Nat.succ_le_succ enough, Steps.more going made steps, ?_⟩
              rw [runFor_succ fuel going, made]
              simpa only [Nat.add_right_cancel_iff, Nat.add_lt_add_iff_right] using ends

theorem steps_of_ended {fuel : Nat} {session last : Session}
    (ended : runFor fuel session = .ended last) :
    ∃ count reached, count ≤ fuel ∧ Steps count session reached ∧
      reached.machine.finished = true ∧ last = reached.record reached.machine.finishedEvent := by
  obtain ⟨count, reached, enough, steps, ⟨done, run⟩ | ⟨_, _, _, _, _, run⟩ | ⟨_, _, run⟩⟩ :=
    runFor_cases fuel session
  · rw [ended, Run.ended.injEq] at run
    exact ⟨count, reached, enough, steps, done, run⟩
  · rw [ended] at run
    cases run
  · rw [ended] at run
    cases run

theorem steps_of_failed {fuel : Nat} {session last : Session} {fault : Fault}
    (failed : runFor fuel session = .failed fault last) :
    ∃ count reached, count ≤ fuel ∧ Steps count session reached ∧
      reached.machine.finished = false ∧ step reached = .error fault last := by
  obtain ⟨count, reached, enough, steps, ⟨_, run⟩ | ⟨going, _, _, _, made, run⟩ | ⟨_, _, run⟩⟩ :=
    runFor_cases fuel session
  · rw [failed] at run
    cases run
  · rw [failed, Run.failed.injEq] at run
    obtain ⟨rfl, rfl⟩ := run
    exact ⟨count, reached, enough, steps, going, made⟩
  · rw [failed] at run
    cases run

theorem runFor_of_failing {session last : Session} {fault : Fault}
    (going : session.machine.finished = false) (failing : step session = .error fault last)
    (fuel : Nat) : runFor (fuel + 1) session = .failed fault last := by
  rw [runFor_succ fuel going, failing]

theorem runFor_add_of_hasStopped {fuel : Nat} {session : Session}
    (stopped : (runFor fuel session).HasStopped) (more : Nat) :
    runFor (fuel + more) session = runFor fuel session := by
  obtain ⟨count, last, enough, steps, ends⟩ := runFor_cases fuel session
  have split : fuel + more = count + (fuel - count + more) := by omega
  rw [split, steps.runFor_add]
  rcases ends with ⟨done, run⟩ | ⟨going, fewer, fault, next, made, run⟩ | ⟨_, _, run⟩
  · rw [run, runFor_of_finished _ done]
  · have positive : fuel - count + more = fuel - count + more - 1 + 1 := by omega
    rw [run, positive, runFor_of_failing going made]
  · rw [run] at stopped
    exact stopped.elim

theorem runFor_eq_of_hasStopped {fuel fuel' : Nat} {session : Session}
    (stopped : (runFor fuel session).HasStopped) (stopped' : (runFor fuel' session).HasStopped) :
    runFor fuel session = runFor fuel' session := by
  rw [← runFor_add_of_hasStopped stopped fuel', ← runFor_add_of_hasStopped stopped' fuel,
    Nat.add_comm]

end Session

end TapeMachine
