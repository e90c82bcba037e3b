import TapeMachine.Proofs.Machine.Twins

/-!
# What a run adds to the log

While a machine runs, nothing goes to its log but one event for every cell that its tape gets, and
one more event when the program has ended.  What a run adds can therefore be told from the length
of the tape before it and from the machine it leaves.
-/

set_option autoImplicit false

namespace TapeMachine

def growths (first last : Nat) : List Event :=
  (List.range' (first + 1) (last - first)).map Event.grown

theorem growths_self (length : Nat) : growths length length = [] := by
  simp [growths]

theorem growths_succ {first last : Nat} (longer : first ≤ last) :
    growths first (last + 1) = growths first last ++ [.grown (last + 1)] := by
  have more : last + 1 - first = last - first + 1 := by omega
  have end_eq : first + 1 + (last - first) = last + 1 := by omega
  rw [growths, growths, more, List.range'_1_concat, end_eq, List.map_append]
  rfl

/-- What a run adds to the log of a machine whose tape has had some length before. -/
def Run.news (length : Nat) : Run → List Event
  | ended session => growths length session.machine.tape.length ++ [session.machine.finishedEvent]
  | failed _ session | unfinished session => growths length session.machine.tape.length

namespace Session

variable {first last : Session}

/-- On every way of a session, each new cell is logged once, in the order of the lengths. -/
theorem Evolves.events_eq (evolves : first.Evolves last) :
    last.events.toList =
      first.events.toList ++ growths first.machine.tape.length last.machine.tape.length := by
  induction evolves with
  | refl => rw [growths_self, List.append_nil]
  | head _ _ ih | position _ _ ih | change _ _ _ ih | read _ ih | write _ _ ih => exact ih
  | @grow last before ih =>
      have length : last.grow.machine.tape.length = last.machine.tape.length + 1 :=
        Tape.length_grow _
      have events : last.grow.events = last.events.push (.grown last.grow.machine.tape.length) :=
        rfl
      rw [events, Array.toList_push, ih, length, growths_succ before.length_le, List.append_assoc]

theorem events_runFor (fuel : Nat) (session : Session) :
    (runFor fuel session).session.events.toList =
      session.events.toList ++ (runFor fuel session).news session.machine.tape.length := by
  obtain ⟨count, last, _, steps, ⟨_, run⟩ | ⟨_, _, fault, next, failing, run⟩ | ⟨_, _, run⟩⟩ :=
    runFor_cases fuel session
  all_goals
    have evolves := evolves_of_steps steps
    rw [run]
  · have events : (last.record last.machine.finishedEvent).events =
        last.events.push last.machine.finishedEvent := rfl
    simp only [Run.session, Run.news]
    rw [events, Array.toList_push, evolves.events_eq, List.append_assoc]
    rfl
  · exact (evolves.trans (evolves_of_failing failing)).events_eq
  · exact evolves.events_eq

end Session

theorem Run.news_eq_of_corresponds {run other : Run}
    (corresponds : run.Corresponds Session.SameBesidesLog other) (length : Nat) :
    other.news length = run.news length := by
  rcases corresponds.cases with ⟨first, second, rfl, rfl, same⟩ |
    ⟨fault, first, second, rfl, rfl, same⟩ | ⟨first, second, rfl, rfl, same⟩
  all_goals rw [news, news, same.machine]

end TapeMachine
