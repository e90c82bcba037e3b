import TapeMachine.Proofs.Machine.Bounds
import TapeMachine.Proofs.Machine.Image
import TapeMachine.Proofs.Program.Layout

/-!
# Sessions whose programs differ in layout

Twins are two sessions that differ in nothing but the layout of their programs and in their logs.
No decision of a step looks at either, so twins stay twins: their runs come to the same end, and a
failure of one is the failure of the other, pointing at another place of another source.
-/

set_option autoImplicit false

namespace TapeMachine

/-- The failure as it reads for the program and at the position of a machine: it points at the place
there, in the source of that program. -/
def Fault.relaid (machine : Machine) : Fault → Fault
  | .head fault =>
    .head { fault with source := machine.program.source, place := machine.currentPlace }
  | .transfer fault => .transfer { fault with place := machine.currentPlace }
  | fault => fault

theorem Program.command_instructionFromStart? (program : Program) (index : Int) :
    (program.instructionFromStart? index).map Instruction.command =
      if index < 0 then none else program.commands[index.toNat]? := by
  rw [instructionFromStart?, getElem?_commands]
  split
  · rfl
  · rfl

namespace Session

def withProgram (session : Session) (program : Program) (events : Array Event) : Session :=
  { session with machine.program := program, events := events }

/-- Two sessions that differ in nothing but the layout of their programs and in their logs. -/
structure Twins (first second : Session) : Prop where
  relaid : first.machine.program.Relaid second.machine.program
  second_eq : second = first.withProgram second.machine.program second.events

inductive TwinResults : Result → Result → Prop where
  | ok {first second : Session} (twins : first.Twins second) :
      TwinResults (.ok () first) (.ok () second)
  | error {fault fault' : Fault} {first second : Session} (twins : first.Twins second)
      (same : fault' = fault.relaid second.machine) :
      TwinResults (.error fault first) (.error fault' second)

section Relaid

/-! ## What failures say -/

variable (session : Session) {program : Program}
variable (relaid : session.machine.program.Relaid program) (events : Array Event)

include relaid

theorem currentCommand?_withProgram :
    (session.withProgram program events).machine.currentCommand? =
      session.machine.currentCommand? := by
  rw [Machine.currentCommand?, Machine.currentCommand?, Machine.currentInstruction?,
    Machine.currentInstruction?, Program.command_instructionFromStart?,
    Program.command_instructionFromStart?]
  change (if session.machine.position < 0 then none else program.commands[_]?) = _
  rw [relaid.commands]
  rfl

theorem headFault_withProgram (belowZero : Bool) :
    (session.withProgram program events).machine.headFault belowZero =
      (session.machine.headFault belowZero).relaid (session.withProgram program events).machine := by
  have command := currentCommand?_withProgram session relaid events
  have name : (session.withProgram program events).machine.program.name =
    session.machine.program.name := relaid.name
  simp only [Machine.headFault, Fault.relaid, command, name]
  rfl

theorem transferFault_withProgram (cause : StreamFault) :
    (session.withProgram program events).machine.transferFault cause =
      (session.machine.transferFault cause).relaid
        (session.withProgram program events).machine := by
  have command := currentCommand?_withProgram session relaid events
  have name : (session.withProgram program events).machine.program.name =
    session.machine.program.name := relaid.name
  simp only [Machine.transferFault, Fault.relaid, command, name]

theorem streamFault_withProgram (trouble : StreamFault) :
    (session.withProgram program events).streamFault trouble =
      (session.streamFault trouble).relaid (session.withProgram program events).machine := by
  rw [streamFault, streamFault]
  split
  · exact transferFault_withProgram session relaid events trouble
  · rfl

theorem unresolved_withProgram :
    (session.withProgram program events).machine.unresolved =
      session.machine.unresolved.relaid (session.withProgram program events).machine :=
  congrArg (Fault.unresolved · session.machine.position) relaid.name

/-! ## One step -/

theorem act_withProgram (command : Command) :
    TwinResults (session.act command) ((session.withProgram program events).act command) := by
  let twin := session.withProgram program events
  -- What a command tests is never in the program but for the tables, and these are the same.
  cases command with
  | right =>
      by_cases inside : (session.shift 1).machine.head < (session.shift 1).machine.tape.length
      · have first : session.act .right = .ok () (session.shift 1).advance := if_pos inside
        have second : twin.act .right = .ok () (twin.shift 1).advance := if_pos inside
        rw [first, second]
        exact .ok ⟨relaid, rfl⟩
      · by_cases grows : (session.shift 1).machine.growable.isOn = true
        · have first : session.act .right = .ok () (session.shift 1).grow.advance :=
            (if_neg inside).trans (if_pos grows)
          have second : twin.act .right = .ok () (twin.shift 1).grow.advance :=
            (if_neg inside).trans (if_pos grows)
          rw [first, second]
          exact .ok ⟨relaid, rfl⟩
        · have first : session.act .right =
              .error ((session.shift 1).machine.headFault false) (session.shift 1) :=
            (if_neg inside).trans (if_neg grows)
          have second : twin.act .right =
              .error ((twin.shift 1).machine.headFault false) (twin.shift 1) :=
            (if_neg inside).trans (if_neg grows)
          rw [first, second]
          exact .error ⟨relaid, rfl⟩
            (headFault_withProgram (session.shift 1) relaid events false)
  | left =>
      by_cases atFirst : session.machine.head = 0
      · have first : session.act .left = .error (session.machine.headFault true) session :=
          if_pos atFirst
        have second : twin.act .left = .error (twin.machine.headFault true) twin := if_pos atFirst
        rw [first, second]
        exact .error ⟨relaid, rfl⟩ (headFault_withProgram session relaid events true)
      · have first : session.act .left = .ok () (session.shift (-1)).advance := if_neg atFirst
        have second : twin.act .left = .ok () (twin.shift (-1)).advance := if_neg atFirst
        rw [first, second]
        exact .ok ⟨relaid, rfl⟩
  | increment => exact .ok ⟨relaid, rfl⟩
  | decrement => exact .ok ⟨relaid, rfl⟩
  | output =>
      have same : (twin.exchange.write (Cell.toByte twin.value)).1 =
        (session.exchange.write (Cell.toByte session.value)).1 := rfl
      rw [act, act, same]
      cases (session.exchange.write (Cell.toByte session.value)).1 with
      | fault trouble =>
          exact .error ⟨relaid, rfl⟩
            (streamFault_withProgram session.offered relaid events trouble)
      | nothing => exact .ok ⟨relaid, rfl⟩
      | count written =>
          by_cases once : written = 1
          · simp only [if_pos once]
            exact .ok ⟨relaid, rfl⟩
          · simp only [if_neg once]
            exact .error ⟨relaid, rfl⟩
              (transferFault_withProgram session.offered relaid events _)
  | input =>
      have same : twin.exchange.read.1 = session.exchange.read.1 := rfl
      rw [act, act, same]
      cases session.exchange.read.1 with
      | fault trouble =>
          exact .error ⟨relaid, rfl⟩
            (streamFault_withProgram session.asked relaid events trouble)
      | nothing =>
          exact .error ⟨relaid, rfl⟩
            (transferFault_withProgram session.asked relaid events _)
      | data bytes =>
          cases bytes with
          | nil =>
              exact .error ⟨relaid, rfl⟩
                (transferFault_withProgram session.asked relaid events _)
          | cons byte rest => exact .ok ⟨relaid, rfl⟩
  | loopStart =>
      have same : twin.machine.program.ends[twin.machine.position]? =
          session.machine.program.ends[session.machine.position]? :=
        congrArg (fun table : JumpTable => table[session.machine.position]?) relaid.ends
      rw [act, act, same]
      cases session.machine.program.ends[session.machine.position]? with
      | none => exact .error ⟨relaid, rfl⟩ (unresolved_withProgram session relaid events)
      | some position => exact .ok ⟨relaid, rfl⟩
  | loopEnd =>
      have same : twin.machine.program.starts[twin.machine.position]? =
          session.machine.program.starts[session.machine.position]? :=
        congrArg (fun table : JumpTable => table[session.machine.position]?) relaid.starts
      have value : twin.value = session.value := rfl
      rw [act, act, same, value]
      by_cases zero : session.value = 0
      · rw [if_pos zero, if_pos zero]
        exact .ok ⟨relaid, rfl⟩
      · rw [if_neg zero, if_neg zero]
        cases session.machine.program.starts[session.machine.position]? with
        | none => exact .error ⟨relaid, rfl⟩ (unresolved_withProgram session relaid events)
        | some position => exact .ok ⟨relaid, rfl⟩

end Relaid

namespace Twins

variable {first second : Session}

theorem act (twins : first.Twins second) (command : Command) :
    TwinResults (first.act command) (second.act command) := by
  rw [twins.second_eq]
  exact act_withProgram first twins.relaid second.events command

theorem record (twins : first.Twins second) (event event' : Event) :
    (first.record event).Twins (second.record event') := by
  refine ⟨twins.relaid, ?_⟩
  rw [twins.second_eq]
  rfl

theorem finished_eq (twins : first.Twins second) :
    second.machine.finished = first.machine.finished := by
  have position : second.machine.position = first.machine.position := by
    rw [twins.second_eq]
    rfl
  rw [Machine.finished, Machine.finished, position, twins.relaid.size_eq]

theorem loaded {block : Block} (twins : first.Twins second) (loaded : Loaded block first) :
    Loaded block second := by
  have relaid := twins.relaid
  refine ⟨⟨?_, ?_, ?_⟩, ?_⟩
  · rw [relaid.commands]
    exact loaded.parsed.commands
  · rw [relaid.ends]
    exact loaded.parsed.ends
  · rw [relaid.starts]
    exact loaded.parsed.starts
  · have upper := loaded.inBounds.position_le
    rw [← relaid.size_eq] at upper
    rw [twins.second_eq]
    exact { loaded.inBounds with position_le := upper }

end Twins

end Session

/-! ## Whole runs -/

inductive Run.Twins : Run → Run → Prop where
  | ended {first second : Session} (twins : first.Twins second) :
      Run.Twins (.ended first) (.ended second)
  | failed {fault fault' : Fault} {first second : Session} (twins : first.Twins second)
      (same : fault' = fault.relaid second.machine) :
      Run.Twins (.failed fault first) (.failed fault' second)
  | unfinished {first second : Session} (twins : first.Twins second) :
      Run.Twins (.unfinished first) (.unfinished second)

namespace Session

variable {block : Block} {first second : Session}

theorem Twins.step (twins : first.Twins second) (loaded : Loaded block first)
    (going : first.machine.finished = false) :
    TwinResults (Session.step first) (Session.step second) := by
  obtain ⟨command, here, acted⟩ := loaded.exists_act going
  obtain ⟨command', here', acted'⟩ :=
    (twins.loaded loaded).exists_act (twins.finished_eq.trans going)
  have position : second.machine.position = first.machine.position := by
    rw [twins.second_eq]
    rfl
  rw [twins.relaid.commands, position, here, Option.some.injEq] at here'
  subst here'
  rw [acted, acted']
  exact twins.act command

/-- The runs of twins come to the same end.  The induction is on the steps allowed. -/
theorem Twins.run (twins : first.Twins second) (loaded : Loaded block first) (fuel : Nat) :
    (runFor fuel first).Twins (runFor fuel second) := by
  induction fuel generalizing first second with
  | zero =>
      rw [runFor, runFor, twins.finished_eq]
      split
      · exact .ended (twins.record _ _)
      · exact .unfinished twins
  | succ fuel ih =>
      cases going : first.machine.finished with
      | true =>
          rw [runFor_of_finished _ going, runFor_of_finished _ (twins.finished_eq.trans going)]
          exact .ended (twins.record _ _)
      | false =>
          have stepped := twins.step loaded going
          rw [runFor_succ fuel going, runFor_succ fuel (twins.finished_eq.trans going)]
          cases made : Session.step first with
          | ok _ next =>
              cases made' : Session.step second with
              | ok _ next' =>
                  rw [made, made'] at stepped
                  cases stepped with
                  | ok twins' => exact ih twins' (loaded.step going made)
              | error fault' last' =>
                  rw [made, made'] at stepped
                  cases stepped
          | error fault last =>
              cases made' : Session.step second with
              | ok _ next' =>
                  rw [made, made'] at stepped
                  cases stepped
              | error fault' last' =>
                  rw [made, made'] at stepped
                  cases stepped with
                  | error twins' same => exact .failed twins' same

/-! ## Sessions that differ in their logs -/

structure SameBesidesLog (first second : Session) : Prop where
  machine : second.machine = first.machine
  exchange : second.exchange = first.exchange

theorem SameBesidesLog.twins (same : first.SameBesidesLog second) : first.Twins second := by
  obtain ⟨machine, exchange, events⟩ := second
  obtain ⟨rfl, rfl⟩ := same
  exact ⟨.refl _, rfl⟩

theorem Twins.sameBesidesLog (twins : first.Twins second)
    (program : second.machine.program = first.machine.program) :
    first.SameBesidesLog second := by
  rw [twins.second_eq, program]
  exact ⟨rfl, rfl⟩

theorem program_runFor (fuel : Nat) (session : Session) :
    (runFor fuel session).session.machine.program = session.machine.program := by
  obtain ⟨reached, evolves, machine, _⟩ := evolves_runFor fuel session
  rw [machine, evolves.program_eq]

theorem Loaded.relaid_eq {session last : Session} {fuel : Nat} {fault : Fault}
    (loaded : Loaded block session) (failed : runFor fuel session = .failed fault last) :
    fault.relaid last.machine = fault := by
  have self : session.Twins session := ⟨.refl _, rfl⟩
  have runs := self.run loaded fuel
  rw [failed] at runs
  cases runs with
  | failed _ same => exact same.symm

theorem SameBesidesLog.run (same : first.SameBesidesLog second) (loaded : Loaded block first)
    (fuel : Nat) : (runFor fuel first).Corresponds SameBesidesLog (runFor fuel second) := by
  have twins := same.twins.run loaded fuel
  have program : (runFor fuel second).session.machine.program =
      (runFor fuel first).session.machine.program := by
    rw [program_runFor, program_runFor, same.machine]
  cases run : runFor fuel first with
  | ended last =>
      rw [run] at twins program
      generalize runFor fuel second = other at twins program
      cases twins with
      | ended twins => exact twins.sameBesidesLog program
  | failed fault last =>
      have pointed := loaded.relaid_eq run
      rw [run] at twins program
      generalize runFor fuel second = other at twins program
      cases twins with
      | failed twins made =>
          -- The machines are equal, and the first failure is made out for its own already.
          have left := twins.sameBesidesLog program
          rw [left.machine, pointed] at made
          exact ⟨made, left⟩
  | unfinished last =>
      rw [run] at twins program
      generalize runFor fuel second = other at twins program
      cases twins with
      | unfinished twins => exact twins.sameBesidesLog program

end Session

end TapeMachine
