import TapeMachine.Proofs.Machine.Failure
import TapeMachine.Proofs.Machine.Recast

/-!
# Running out of input

A step learns of its streams only what they answer.  So bytes behind the last one read are of no
influence, and a machine that ran out of input and gets more goes on as if it had had all of it from
the start: the command that found nothing to read changed nothing but the list of calls.

Main statement: a run on two inputs in a row is a run on the first, gone on with on the second.
-/

set_option autoImplicit false

namespace TapeMachine

namespace Session

def mapExchange (edit : Exchange → Exchange) (session : Session) : Session :=
  { session with exchange := edit session.exchange }

/-- The session with some bytes in memory as all that is still to be read. -/
def reading (bytes : List UInt8) (session : Session) : Session :=
  session.mapExchange fun exchange => { exchange with reads := Exchange.answersOf bytes }

abbrev supply (more : List UInt8) : Session → Session := mapExchange (Exchange.supply more)

abbrev preceded (calls : Array StreamCall) : Session → Session :=
  mapExchange (Exchange.preceded calls)

theorem isView_mapExchange (edit : Exchange → Exchange) : IsView (mapExchange edit) where
  finished := fun _ => rfl
  record := fun _ => rfl

theorem reading_append (session : Session) (first more : List UInt8) :
    session.reading (first ++ more) = (session.reading first).supply more := by
  simp [reading, mapExchange, Exchange.supply, Exchange.answersOf_append]

/-! ## A step sees the answers of its streams -/

theorem recast_id (session : Session) (edit : Exchange → Exchange) {width : CellWidth}
    (same : session.machine.width = width) :
    session.recast width id edit = session.mapExchange edit := by
  rw [recast, Tape.map_id, ← same]
  rfl

theorem image_recast_id {α : Type} {action : Action α} (moves : Moves action) (session : Session)
    (edit : Exchange → Exchange) :
    image (recast session.machine.width id edit) (action session) =
      image (mapExchange edit) (action session) := by
  have width := (moves session).width_eq
  cases made : action session with
  | error fault last =>
      rw [made] at width
      exact congrArg (EStateM.Result.error fault) (recast_id last edit width)
  | ok answer last =>
      rw [made] at width
      exact congrArg (EStateM.Result.ok answer) (recast_id last edit width)

theorem perform_mapExchange (session : Session) (command : Command) {edit : Exchange → Exchange}
    (writes : ∀ byte, (edit session.exchange).write byte =
      ((session.exchange.write byte).1, edit (session.exchange.write byte).2))
    (reads : command = .input → (edit session.exchange).read =
      (session.exchange.read.1, edit session.exchange.read.2)) :
    perform command (session.mapExchange edit) =
      image (mapExchange edit) (perform command session) := by
  rw [← recast_id session edit rfl,
    perform_recast session command session.machine.width.casts_id writes reads
      fun _ _ _ nonzero => nonzero,
    image_recast_id (Moves.perform command)]

theorem step_mapExchange (session : Session) {edit : Exchange → Exchange}
    (writes : ∀ byte, (edit session.exchange).write byte =
      ((session.exchange.write byte).1, edit (session.exchange.write byte).2))
    (reads : ∀ instruction,
      session.machine.program.instruction? session.machine.position = some instruction →
      instruction.command = .input → (edit session.exchange).read =
        (session.exchange.read.1, edit session.exchange.read.2)) :
    step (session.mapExchange edit) = image (mapExchange edit) (step session) := by
  rw [← recast_id session edit rfl,
    step_recast session session.machine.width.casts_id writes reads
      fun _ _ _ _ _ nonzero => nonzero,
    image_recast_id Moves.step]

theorem reads_of_isStarved {session : Session} (starved : session.isStarved = true) :
    session.exchange.reads = [] := by
  rw [isStarved] at starved
  split at starved
  · simp only [Bool.and_eq_true, List.isEmpty_iff] at starved
    exact starved.2
  · cases starved

theorem step_supply {session : Session} (fed : session.isStarved = false) (more : List UInt8) :
    step (session.supply more) = image (supply more) (step session) := by
  apply step_mapExchange session (session.exchange.write_supply more)
  intro instruction found asks
  apply Exchange.read_supply
  intro dry
  simp [isStarved, found, asks, dry] at fed

theorem step_preceded (session : Session) (calls : Array StreamCall) :
    step (session.preceded calls) = image (preceded calls) (step session) :=
  step_mapExchange session (session.exchange.write_preceded calls)
    fun _ _ _ => session.exchange.read_preceded calls

/-- Where a byte is wanted and none is left, nothing happens but the failing call. -/
theorem step_of_isStarved {session : Session} (starved : session.isStarved = true) :
    step session = .error (session.machine.transferFault .noMoreInput) session.asked := by
  rw [isStarved] at starved
  cases found : session.machine.program.instruction? session.machine.position with
  | none => simp [found] at starved
  | some instruction =>
      simp only [found, Bool.and_eq_true, decide_eq_true_eq, List.isEmpty_iff] at starved
      obtain ⟨asks, dry⟩ := starved
      rw [step_eq found, asks, perform, input_eq, (Exchange.read_of_nil dry).1]

/-! ## More input -/

end Session

namespace Run

def RanDry : Run → Prop
  | .failed (.transfer fault) _ => fault.cause = .noMoreInput
  | _ => False

end Run

namespace Session

/-- Bytes behind the input are of no influence on a run that does not run out of it. -/
theorem runFor_supply {fuel : Nat} {session : Session}
    (enough : ¬ (runFor fuel session).RanDry) (more : List UInt8) :
    runFor fuel (session.supply more) = (runFor fuel session).map (supply more) := by
  apply (isView_mapExchange _).runFor
  intro count reached fewer steps going
  apply step_supply
  rw [← Bool.not_eq_true]
  intro starved
  have split : fuel = count + (fuel - count - 1 + 1) := by omega
  rw [split, steps.runFor_add, runFor_of_failing going (step_of_isStarved starved)] at enough
  exact enough rfl

theorem steps_supply {count : Nat} {first last : Session} (steps : Steps count first last)
    (more : List UInt8) : Steps count (first.supply more) (last.supply more) := by
  refine (isView_mapExchange _).steps ?_ steps
  intro session next made
  rw [step_supply, made, image]
  rw [← Bool.not_eq_true]
  intro starved
  rw [step_of_isStarved starved] at made
  cases made

theorem runFor_preceded (fuel : Nat) (session : Session) (calls : Array StreamCall) :
    runFor fuel (session.preceded calls) = (runFor fuel session).map (preceded calls) :=
  (isView_mapExchange _).runFor fuel session fun _ reached _ _ _ => step_preceded reached calls

/-! ## A run that ran out of input -/

theorem cause_of_streamFault {session : Session} {trouble : StreamFault} {fault : TransferFault}
    (reported : session.streamFault trouble = .transfer fault) : fault.cause ≠ .noMoreInput := by
  rw [streamFault] at reported
  split at reported
  · next system =>
      cases reported
      rintro (rfl : trouble = .noMoreInput)
      cases system
  · cases reported

/-- On an input in memory, the only step that misses a byte is one that nothing is left for. -/
theorem isStarved_of_failing {session last : Session} {fault : TransferFault} {bytes : List UInt8}
    (reads : session.exchange.reads = Exchange.answersOf bytes)
    (failing : step session = .error (.transfer fault) last)
    (missed : fault.cause = .noMoreInput) :
    session.isStarved = true ∧ last = session.asked := by
  cases found : session.machine.program.instruction? session.machine.position with
  | none =>
      rw [step_of_missing found] at failing
      cases failing
  | some instruction =>
      have fails := fails_of_failing found failing
      generalize asks : instruction.command = command at fails
      generalize reported : Fault.transfer fault = fault' at fails
      cases fails with
      | nothingRead heard =>
          cases bytes with
          | nil =>
              have dry : session.exchange.reads = [] := reads
              simp [isStarved, found, asks, dry]
          | cons byte rest =>
              simp [(Exchange.read_of_answersOf_cons reads).1] at heard
      | readFault heard => exact (cause_of_streamFault reported.symm missed).elim
      | writeFault cell heard => exact (cause_of_streamFault reported.symm missed).elim
      | shortWrite cell heard wrong =>
          cases reported
          cases missed
      | _ => cases reported

structure SameBesidesCalls (first second : Session) : Prop where
  machine : second.machine = first.machine
  events : second.events = first.events
  output : second.exchange.output = first.exchange.output
  reads : second.exchange.reads = first.exchange.reads
  writes : second.exchange.writes = first.exchange.writes

theorem sameBesidesCalls_preceded (session : Session) (calls : Array StreamCall)
    (answer : ReadAnswer) :
    SameBesidesCalls (session.preceded calls) (session.preceded (calls.push (.read answer))) where
  machine := rfl
  events := rfl
  output := by
    have silent : Exchange.taken [.read answer] = [] := rfl
    simp [mapExchange, Exchange.output_preceded, Exchange.taken_append, silent]
  reads := rfl
  writes := rfl

/-- A machine that ran out of input goes on with more as if it had had it from the start. -/
theorem runFor_of_ranDry {fuel : Nat} {session : Session} {first : List UInt8}
    (ranDry : (runFor fuel (session.reading first)).RanDry) (more : List UInt8) :
    ∃ count, count ≤ fuel ∧ ∀ rest,
      (runFor (count + rest) (session.reading (first ++ more))).Corresponds SameBesidesCalls
        (runFor rest ((runFor fuel (session.reading first)).session.reading more)) := by
  cases run : runFor fuel (session.reading first) with
  | ended last =>
      rw [run] at ranDry
      exact ranDry.elim
  | unfinished last =>
      rw [run] at ranDry
      exact ranDry.elim
  | failed fault last =>
      rw [run] at ranDry
      cases fault with
      | transfer fault =>
          obtain ⟨count, reached, enough, steps, _, failing⟩ := steps_of_failed run
          obtain ⟨taken, _, reads, _⟩ := (evolves_of_steps steps).exists_drop
          have reads : reached.exchange.reads = Exchange.answersOf (first.drop taken) :=
            reads.trans List.map_drop.symm
          obtain ⟨starved, rfl⟩ := isStarved_of_failing reads failing ranDry
          have dry := reads_of_isStarved starved
          -- Both runs go on from one session, after calls of which one only read in vain.
          let bare : Session :=
            { reached with exchange := ⟨Exchange.answersOf more, reached.exchange.writes, #[]⟩ }
          have whole : reached.supply more = bare.preceded reached.exchange.transcript := by
            simp [bare, mapExchange, Exchange.supply, Exchange.preceded, dry]
          have resumed : reached.asked.reading more =
              bare.preceded (reached.exchange.transcript.push (.read (.data []))) := by
            obtain ⟨_, _, writes, transcript⟩ := Exchange.read_of_nil dry
            simp [bare, reading, Session.asked, mapExchange, Exchange.preceded, writes, transcript]
          refine ⟨count, enough, fun rest => ?_⟩
          rw [reading_append, (steps_supply steps more).runFor_add, whole, Run.session, resumed,
            runFor_preceded, runFor_preceded]
          apply Run.corresponds_map_map
          intro session
          exact sameBesidesCalls_preceded session _ _
      | _ => exact ranDry.elim

end Session

/-- Input may come in parts.  A run that does not run out of its input is the same whatever comes
behind, which it leaves to be read.  One that does run out of it goes on with more as a single run
on all of it does, in the same number of steps.  A machine whose program has ended does nothing when
it is run again. -/
theorem input_may_come_in_parts (session : Session) (first more : List UInt8) :
    (∀ fuel, ¬ (Session.runFor fuel (session.reading first)).RanDry →
      Session.runFor fuel (session.reading (first ++ more)) =
          (Session.runFor fuel (session.reading first)).map (Session.supply more) ∧
        (Session.runFor fuel (session.reading (first ++ more))).session.exchange.unread =
          (Session.runFor fuel (session.reading first)).session.exchange.unread ++ more) ∧
    (∀ fuel, (Session.runFor fuel (session.reading first)).RanDry →
      ∃ count, count ≤ fuel ∧ ∀ rest,
        (Session.runFor (count + rest) (session.reading (first ++ more))).Corresponds
          Session.SameBesidesCalls
          (Session.runFor rest
            ((Session.runFor fuel (session.reading first)).session.reading more))) ∧
    ∀ fuel last, Session.runFor fuel session = .ended last → ∀ exchange fuel',
      Session.runFor fuel' { last with exchange := exchange } =
        .ended { last with
          exchange := exchange, events := last.events.push last.machine.finishedEvent } := by
  refine ⟨?_, fun fuel ranDry => Session.runFor_of_ranDry ranDry more, ?_⟩
  · intro fuel enough
    have run : Session.runFor fuel (session.reading (first ++ more)) =
        (Session.runFor fuel (session.reading first)).map (Session.supply more) := by
      rw [Session.reading_append]
      exact Session.runFor_supply enough more
    refine ⟨run, ?_⟩
    rw [run, Run.session_map]
    exact Exchange.unread_supply _ more
  · intro fuel last ended exchange fuel'
    obtain ⟨_, reached, _, _, done, rfl⟩ := Session.steps_of_ended ended
    exact Session.runFor_of_finished fuel' done

theorem two_bytes_in_two_parts :
    ∃ program machine, Program.ofSource ",.,." "echo" = .ok program ∧
      Machine.create .ample program 1 (.truth false) .eight = .ok machine ∧
      let session : Session := ⟨machine, Exchange.ofBytes [], #[]⟩
      (Session.runFor 2 (session.reading [65, 66])).session.exchange.unread = [66] ∧
      (Session.runFor 4 (session.reading [65])).RanDry ∧
      ∃ count, count ≤ 4 ∧
        (Session.runFor (count + 2) (session.reading [65, 66])).Corresponds
          Session.SameBesidesCalls
          (Session.runFor 2
            ((Session.runFor 4 (session.reading [65])).session.reading [66])) := by
  let program := Program.assemble (Instruction.scan ",.,.".toList) [] "echo" ",.,."
  have loaded : Program.ofSource ",.,." "echo" = .ok program := rfl
  let machine : Machine := ⟨program, .eight, .truth false, 1, Tape.blank 1, 0, 0⟩
  have made : Machine.create .ample program 1 (.truth false) .eight = .ok machine := rfl
  let session : Session := ⟨machine, Exchange.ofBytes [], #[]⟩
  obtain ⟨enough, ranDry, _⟩ := input_may_come_in_parts session [65] [66]
  have dry : (Session.runFor 4 (session.reading [65])).RanDry := rfl
  have unread := (enough 2 (fun dry => dry)).2
  obtain ⟨count, fewer, resumed⟩ := ranDry 4 dry
  exact ⟨program, machine, loaded, made, unread, dry, count, fewer, resumed 2⟩

end TapeMachine
