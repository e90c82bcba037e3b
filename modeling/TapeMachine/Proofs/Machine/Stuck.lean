import TapeMachine.Proofs.Machine.Location

/-!
# Machines that are stuck at an end of the tape

A move that fails leaves the position at the move, and the head where it is: on the first cell, or
behind the last one if it was to move there.  So the same move fails again.  On the first cell it
fails for the same reason.  Behind the last cell it does not get as far as the first time, since the
check in front of the move fails now and not the one behind it; but both checks find the same
machine and report the same.

Main statement: once the head has failed to move, running the machine on fails in the same way
whatever the streams are, calls no stream and leaves everything as it is.
-/

set_option autoImplicit false

namespace TapeMachine

/-- A machine whose next step fails to move the head and changes nothing, whatever the streams and
the log are. -/
structure Machine.StuckAt (machine : Machine) (fault : HeadFault) : Prop where
  going : machine.finished = false
  failing : ∀ exchange events, Session.step ⟨machine, exchange, events⟩ =
    .error (.head fault) ⟨machine, exchange, events⟩

namespace Session

variable {session last : Session} {instruction : Instruction}

/-! ## Moves that fail -/

theorem step_of_pastEnd
    (found : session.machine.program.instruction? session.machine.position = some instruction)
    (moves : instruction.command = .right ∨ instruction.command = .left)
    (off : session.machine.growable.isOn = false)
    (outside : session.machine.tape.length ≤ session.machine.head) :
    step session = .error (session.machine.headFault false) session := by
  have notInside := Int.not_lt.mpr outside
  have fixed := Bool.eq_false_iff.mp off
  have checked : check session = .error (session.machine.headFault false) session := by
    rw [check_eq, if_neg notInside, if_neg fixed]
  rw [step_eq found]
  rcases moves with right | left
  · rw [right, perform, moveRight_eq, checked]
  · rw [left, perform, moveLeft_eq, checked]

theorem step_of_firstCell
    (found : session.machine.program.instruction? session.machine.position = some instruction)
    (left : instruction.command = .left) (nonempty : 0 < session.machine.tape.length)
    (first : session.machine.head = 0) :
    step session = .error (session.machine.headFault true) session := by
  have inside : session.machine.head < session.machine.tape.length := by omega
  rw [step_eq found, left, perform, moveLeft_eq, check_eq, if_pos inside]
  simp only [if_pos first]

/-- A step that has failed to move the head leaves a stuck machine. -/
theorem Loaded.stuckAt {block : Block} {fault : HeadFault} (loaded : Loaded block session)
    (going : session.machine.finished = false)
    (failing : Session.step session = .error (.head fault) last) :
    last.machine.StuckAt fault := by
  obtain ⟨instruction, found, here⟩ := loaded.inBounds.instruction going
  have nonempty : 0 < session.machine.tape.length := by
    have lower := loaded.inBounds.head_nonneg
    have upper := loaded.inBounds.head_lt
    omega
  rcases loaded.fails_cases here (fails_of_failing found failing) with
    ⟨left, first, same, rfl⟩ | ⟨right, off, edge, same, rfl⟩ |
      ⟨_, _, ⟨cause, same⟩ | ⟨trouble, same⟩⟩
  · refine ⟨going, fun exchange events => ?_⟩
    rw [same]
    exact @step_of_firstCell ⟨_, exchange, events⟩ instruction found left nonempty first
  · refine ⟨going, fun exchange events => ?_⟩
    rw [same]
    exact @step_of_pastEnd ⟨(session.shift 1).machine, exchange, events⟩ instruction found
      (Or.inl right) off (Int.le_of_eq edge.symm)
  · cases same
  · cases same

/-! ## Running a stuck machine -/

theorem runFor_of_stuckAt {machine : Machine} {fault : HeadFault} (stuck : machine.StuckAt fault)
    (exchange : Exchange) (events : Array Event) (more : Nat) :
    runFor (more + 1) ⟨machine, exchange, events⟩ =
      .failed (.head fault) ⟨machine, exchange, events⟩ :=
  runFor_of_failing stuck.going (stuck.failing exchange events) more

end Session

/-- A call to run a machine on, with streams of its own; at least one step is allowed. -/
structure RunCall where
  reads : List ReadAnswer
  writes : List WriteAnswer
  furtherSteps : Nat

namespace RunCall

def operations (call : RunCall) : List Operation :=
  [.connect call.reads call.writes, .run (call.furtherSteps + 1)]

def failure (fault : HeadFault) : List Answer := [.done, .failed (.head fault)]

end RunCall

/-- A session as some calls to run its machine on leave it when each of them has failed in the same
way: nothing has changed but the streams that are connected, and no stream has been called. -/
structure Session.Repeats (first : Session) (fault : HeadFault) (calls : List RunCall)
    (outcome : List Answer × Session) : Prop where
  answers : outcome.1 = calls.flatMap fun _ => RunCall.failure fault
  machine : outcome.2.machine = first.machine
  transcript : outcome.2.exchange.transcript = first.exchange.transcript
  events : outcome.2.events = first.events

theorem Session.repeats_of_stuckAt (calls : List RunCall) :
    ∀ {session : Session} {fault : HeadFault}, session.machine.StuckAt fault →
      session.Repeats fault calls (session.replay (calls.flatMap RunCall.operations)) := by
  induction calls with
  | nil =>
      intro session fault _
      exact ⟨rfl, rfl, rfl, rfl⟩
  | cons call rest ih =>
      intro session fault stuck
      let connected : Session :=
        { session with exchange := ⟨call.reads, call.writes, session.exchange.transcript⟩ }
      have connect : session.carryOut (.connect call.reads call.writes) = (.done, connected) := rfl
      have run : connected.carryOut (.run (call.furtherSteps + 1)) =
          (.failed (.head fault), connected) := by
        have failed := runFor_of_stuckAt stuck connected.exchange connected.events call.furtherSteps
        rw [carryOut, failed]
      have later : connected.Repeats fault rest
          (connected.replay (rest.flatMap RunCall.operations)) := ih stuck
      simp only [List.flatMap_cons, RunCall.operations, List.cons_append, List.nil_append, replay,
        connect, run]
      exact ⟨congrArg (RunCall.failure fault ++ ·) later.answers, later.machine, later.transcript,
        later.events⟩

/-- When a run of a loaded program on a new machine has failed to move the head, every further run
of the machine fails with the same failure, with whatever streams and however often it is run on.
It calls no stream and leaves the machine and the log as they are. -/
theorem head_failures_are_repeated {memory : Memory} {source name : String} {program : Program}
    {cells : Int} {growable : Flag} {width : CellWidth} {machine : Machine}
    (loaded : Program.ofSource source name = .ok program)
    (made : Machine.create memory program cells growable width = .ok machine) {exchange : Exchange}
    {events : Array Event} {fuel : Nat} {fault : HeadFault} {last : Session}
    (failed : Session.runFor fuel ⟨machine, exchange, events⟩ = .failed (.head fault) last) :
    (∀ (streams : Exchange) (log : Array Event) (more : Nat),
      Session.runFor (more + 1) ⟨last.machine, streams, log⟩ =
        .failed (.head fault) ⟨last.machine, streams, log⟩) ∧
    ∀ calls : List RunCall,
      last.Repeats fault calls (last.replay (calls.flatMap RunCall.operations)) := by
  obtain ⟨block, start⟩ := Session.loaded_of_create loaded made exchange events
  obtain ⟨count, reached, _, steps, going, failing⟩ := Session.steps_of_failed failed
  have stuck := (start.steps steps).stuckAt going failing
  exact ⟨Session.runFor_of_stuckAt stuck, fun calls => Session.repeats_of_stuckAt calls stuck⟩

/-- A move from the only cell, which the first run makes halfway, and two more calls with input at
hand. -/
theorem half_made_move_fails_again :
    ∃ program machine fault last, Program.ofSource "+>," "edge" = .ok program ∧
      Machine.create .ample program 1 (.truth false) .eight = .ok machine ∧
      Session.runFor 3 ⟨machine, Exchange.ofBytes [5], #[]⟩ = .failed (.head fault) last ∧
      last.machine.head = 1 ∧ fault.place = ⟨1, 2⟩ ∧ fault.position = 1 ∧
      Session.runFor 3 ⟨last.machine, Exchange.ofBytes [7, 8], #[]⟩ =
        .failed (.head fault) ⟨last.machine, Exchange.ofBytes [7, 8], #[]⟩ ∧
      last.Repeats fault [⟨[.data [7]], [], 2⟩, ⟨[.nothing], [.count 0], 0⟩]
        (last.replay [.connect [.data [7]] [], .run 3, .connect [.nothing] [.count 0],
          .run 1]) := by
  let program := Program.assemble (Instruction.scan "+>,".toList) [] "edge" "+>,"
  have loaded : Program.ofSource "+>," "edge" = .ok program := rfl
  let machine : Machine := ⟨program, .eight, .truth false, 1, Tape.blank 1, 0, 0⟩
  have made : Machine.create .ample program 1 (.truth false) .eight = .ok machine := rfl
  have failed : ∃ fault last,
      Session.runFor 3 ⟨machine, Exchange.ofBytes [5], #[]⟩ = .failed (.head fault) last ∧
        last.machine.head = 1 ∧ fault.place = ⟨1, 2⟩ ∧ fault.position = 1 :=
    ⟨_, _, rfl, rfl, rfl, rfl⟩
  obtain ⟨fault, last, failed, head, place, position⟩ := failed
  obtain ⟨again, calls⟩ := head_failures_are_repeated loaded made failed
  exact ⟨program, machine, fault, last, loaded, made, failed, head, place, position,
    again _ _ 2, calls [⟨[.data [7]], [], 2⟩, ⟨[.nothing], [.count 0], 0⟩]⟩

end TapeMachine
