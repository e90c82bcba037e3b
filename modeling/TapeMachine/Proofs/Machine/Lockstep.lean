import TapeMachine.Proofs.Machine.Progress

/-!
# Tapes of different lengths

Two sessions of one program go in lockstep when they differ in nothing but how long their tapes are
and what the log says of it.  The short tape may grow.  The long one has at least a given number of
cells and at least those of the short one, so a step can part the two only where the long tape is
full and may not grow: at a move to the right that makes the short tape longer than it.

Main statement: the last length of a tape that grows from one cell decides which lengths suffice.
-/

set_option autoImplicit false

namespace TapeMachine

def Fault.forgetLength : Fault → Fault
  | .head fault => .head { fault with tapeLength := 0 }
  | fault => fault

namespace Session

/-- Two sessions that differ only in their tapes, whose values are the same.  The long tape has as
many cells as the short one or the given number of them, whichever is more. -/
structure Lockstep (cells : Nat) (short long : Session) : Prop where
  program : long.machine.program = short.machine.program
  width : long.machine.width = short.machine.width
  position : long.machine.position = short.machine.position
  head : long.machine.head = short.machine.head
  exchange : long.exchange = short.exchange
  length : long.machine.tape.length = max cells short.machine.tape.length
  values : ∀ slot, long.machine.tape.valueAt slot = short.machine.tape.valueAt slot
  sound : short.machine.tape.Sound
  sound_long : long.machine.tape.Sound
  grows : short.machine.growable.isOn = true
  fits : long.machine.growable.isOn = false → short.machine.tape.length ≤ cells

namespace Lockstep

variable {cells : Nat} {short long : Session}

/-! ## What the parts of a step keep -/

theorem jump (same : Lockstep cells short long) (position : Int) :
    Lockstep cells (short.jump position) (long.jump position) :=
  { same with position := rfl }

theorem advance (same : Lockstep cells short long) :
    Lockstep cells short.advance long.advance := by
  have following : long.following = short.following := by
    rw [Session.following, Session.following, same.position]
  rw [Session.advance, Session.advance, following]
  exact same.jump _

theorem shift (same : Lockstep cells short long) (distance : Int) :
    Lockstep cells (short.shift distance) (long.shift distance) :=
  { same with head := congrArg (fun head => head + distance) same.head }

theorem asked (same : Lockstep cells short long) : Lockstep cells short.asked long.asked :=
  { same with exchange := congrArg (fun exchange => exchange.read.2) same.exchange }

theorem value_eq (same : Lockstep cells short long) : long.value = short.value := by
  rw [Session.value, Session.value, same.head, same.values]

theorem offered (same : Lockstep cells short long) :
    Lockstep cells short.offered long.offered := by
  have exchange : long.offered.exchange = short.offered.exchange := by
    rw [Session.offered, Session.offered, same.value_eq, same.exchange]
  exact { same with exchange := exchange }

theorem change (same : Lockstep cells short long) (lower : 0 ≤ short.machine.head)
    (upper : short.machine.head < short.machine.tape.length) (update : Nat → Nat) :
    Lockstep cells (short.change update) (long.change update) := by
  have length := same.length
  have inside : short.machine.head.toNat < short.machine.tape.length := by omega
  have inside_long : long.machine.head.toNat < long.machine.tape.length := by
    rw [same.head]
    omega
  have values : ∀ slot, (long.change update).machine.tape.valueAt slot =
      (short.change update).machine.tape.valueAt slot := by
    intro slot
    rw [Session.change, Session.change,
      Tape.valueAt_update _ _ _ (Nat.lt_of_lt_of_le inside_long same.sound_long.fits),
      Tape.valueAt_update _ _ _ (Nat.lt_of_lt_of_le inside same.sound.fits), same.head,
      same.values]
  exact
    { same with
      values := values
      sound := same.sound.update inside update
      sound_long := same.sound_long.update inside_long update }

theorem grow_short (same : Lockstep cells short long)
    (shorter : short.machine.tape.length < cells) : Lockstep cells short.grow long := by
  have length := same.length
  have grown : short.grow.machine.tape.length = short.machine.tape.length + 1 :=
    Tape.length_grow _
  exact
    { same with
      length := by
        rw [grown]
        omega
      values := fun slot => (same.values slot).trans (Tape.valueAt_grow _ slot).symm
      sound := same.sound.grow
      fits := fun _ => by
        rw [grown]
        omega }

theorem grow_both (same : Lockstep cells short long)
    (enough : cells ≤ short.machine.tape.length) (on : long.machine.growable.isOn = true) :
    Lockstep cells short.grow long.grow := by
  have length := same.length
  have grown : short.grow.machine.tape.length = short.machine.tape.length + 1 :=
    Tape.length_grow _
  have grown_long : long.grow.machine.tape.length = long.machine.tape.length + 1 :=
    Tape.length_grow _
  exact
    { same with
      length := by
        rw [grown, grown_long]
        omega
      values := fun slot =>
        (Tape.valueAt_grow _ slot).trans ((same.values slot).trans (Tape.valueAt_grow _ slot).symm)
      sound := same.sound.grow
      sound_long := same.sound_long.grow
      fits := by
        intro off
        have off : long.machine.growable.isOn = false := off
        rw [on] at off
        cases off }

/-! ## What failures say -/

theorem instruction_eq (same : Lockstep cells short long) :
    long.machine.currentInstruction? = short.machine.currentInstruction? := by
  rw [Machine.currentInstruction?, Machine.currentInstruction?, same.program, same.position]

theorem place_eq (same : Lockstep cells short long) :
    long.machine.currentPlace = short.machine.currentPlace := by
  simp only [Machine.currentPlace, same.instruction_eq]

theorem command_eq (same : Lockstep cells short long) :
    long.machine.currentCommand? = short.machine.currentCommand? := by
  simp only [Machine.currentCommand?, same.instruction_eq]

theorem headFault_eq (same : Lockstep cells short long) (belowZero : Bool) :
    (long.machine.headFault belowZero).forgetLength =
      (short.machine.headFault belowZero).forgetLength := by
  simp only [Machine.headFault, Fault.forgetLength, same.program, same.place_eq, same.command_eq,
    same.head]

theorem transferFault_eq (same : Lockstep cells short long) (cause : StreamFault) :
    long.machine.transferFault cause = short.machine.transferFault cause := by
  simp only [Machine.transferFault, same.program, same.place_eq, same.command_eq]

theorem streamFault_eq (same : Lockstep cells short long) (fault : StreamFault) :
    long.streamFault fault = short.streamFault fault := by
  rw [Session.streamFault, Session.streamFault, same.transferFault_eq]

theorem unresolved_eq (same : Lockstep cells short long) :
    long.machine.unresolved = short.machine.unresolved := by
  rw [Machine.unresolved, Machine.unresolved, same.program, same.position]

end Lockstep

/-! ## One step -/

def SameStep (cells : Nat) : Result → Result → Prop
  | .ok _ short, .ok _ long => Lockstep cells short long
  | .error fault short, .error fault' long =>
    fault'.forgetLength = fault.forgetLength ∧ Lockstep cells short long
  | _, _ => False

/-- The next command makes the short tape longer than the long one, which fails. -/
structure Overruns (cells : Nat) (short long : Session) (command : Command) : Prop where
  right : command = .right
  off : long.machine.growable.isOn = false
  head : long.machine.head + 1 = cells
  full : short.machine.tape.length = cells
  made : short.act command = .ok () (short.shift 1).grow.advance
  failing : long.act command =
    .error ((long.shift 1).machine.headFault false) (long.shift 1)

namespace Lockstep

variable {cells : Nat} {short long : Session}

theorem act_right (same : Lockstep cells short long)
    (upper : short.machine.head < short.machine.tape.length) :
    SameStep cells (short.act .right) (long.act .right) ∨ Overruns cells short long .right := by
  have length := same.length
  have shifted := same.shift 1
  have head : (long.shift 1).machine.head = (short.shift 1).machine.head := shifted.head
  have tape : (short.shift 1).machine.tape.length = short.machine.tape.length := rfl
  have tape_long : (long.shift 1).machine.tape.length = long.machine.tape.length := rfl
  have next : (short.shift 1).machine.head = short.machine.head + 1 := rfl
  by_cases inside : (short.shift 1).machine.head < (short.shift 1).machine.tape.length
  · have inside_long : (long.shift 1).machine.head < (long.shift 1).machine.tape.length := by
      omega
    refine Or.inl ?_
    rw [act, act, if_pos inside, if_pos inside_long]
    exact shifted.advance
  · have made : short.act .right = .ok () (short.shift 1).grow.advance :=
      (if_neg inside).trans (if_pos same.grows)
    by_cases inside_long : (long.shift 1).machine.head < (long.shift 1).machine.tape.length
    · -- Only the short tape is full.
      have shorter : (short.shift 1).machine.tape.length < cells := by omega
      refine Or.inl ?_
      rw [made, act, if_pos inside_long]
      exact (shifted.grow_short shorter).advance
    · -- Both are, and they have the same length.
      have enough : cells ≤ (short.shift 1).machine.tape.length := by omega
      cases on : long.machine.growable.isOn with
      | true =>
          have on : (long.shift 1).machine.growable.isOn = true := on
          refine Or.inl ?_
          rw [made, act, if_neg inside_long, if_pos on]
          exact (shifted.grow_both enough on).advance
      | false =>
          have off : ¬ (long.shift 1).machine.growable.isOn = true := by
            change ¬ long.machine.growable.isOn = true
            rw [on]
            exact Bool.false_ne_true
          have fits := same.fits on
          exact Or.inr
            { right := rfl
              off := on
              head := by
                have head := same.head
                omega
              full := by omega
              made := made
              failing := (if_neg inside_long).trans (if_neg off) }

/-- A step keeps two sessions in lockstep, or it makes the long tape overrun. -/
theorem act (same : Lockstep cells short long) (lower : 0 ≤ short.machine.head)
    (upper : short.machine.head < short.machine.tape.length) (command : Command) :
    SameStep cells (short.act command) (long.act command) ∨
      Overruns cells short long command := by
  cases command with
  | right => exact same.act_right upper
  | left =>
      refine Or.inl ?_
      rw [Session.act, Session.act, same.head]
      split
      · exact ⟨same.headFault_eq true, same⟩
      · exact (same.shift (-1)).advance
  | increment =>
      refine Or.inl ?_
      rw [Session.act, Session.act, same.width]
      exact (same.change lower upper _).advance
  | decrement =>
      refine Or.inl ?_
      rw [Session.act, Session.act, same.width]
      exact (same.change lower upper _).advance
  | output =>
      have offered := same.offered
      refine Or.inl ?_
      rw [Session.act, Session.act, same.value_eq, same.exchange]
      cases (short.exchange.write (Cell.toByte short.value)).1 with
      | fault fault => exact ⟨congrArg Fault.forgetLength (same.streamFault_eq fault), offered⟩
      | nothing => exact offered.advance
      | count written =>
          by_cases once : written = 1
          · simp only [if_pos once]
            exact offered.advance
          · simp only [if_neg once]
            exact ⟨congrArg Fault.forgetLength (same.transferFault_eq _), offered⟩
  | input =>
      have asked := same.asked
      refine Or.inl ?_
      rw [Session.act, Session.act, same.exchange]
      cases short.exchange.read.1 with
      | fault fault => exact ⟨congrArg Fault.forgetLength (same.streamFault_eq fault), asked⟩
      | nothing => exact ⟨congrArg Fault.forgetLength (same.transferFault_eq _), asked⟩
      | data bytes =>
          cases bytes with
          | nil => exact ⟨congrArg Fault.forgetLength (same.transferFault_eq _), asked⟩
          | cons byte rest => exact (asked.change lower upper _).advance
  | loopStart =>
      refine Or.inl ?_
      rw [Session.act, Session.act, same.program, same.position]
      cases short.machine.program.ends[short.machine.position]? with
      | none => exact ⟨congrArg Fault.forgetLength same.unresolved_eq, same⟩
      | some position => exact same.jump position
  | loopEnd =>
      refine Or.inl ?_
      rw [Session.act, Session.act, same.value_eq, same.program, same.position]
      by_cases zero : short.value = 0
      · simp only [if_pos zero]
        exact same.advance
      · simp only [if_neg zero]
        cases short.machine.program.starts[short.machine.position]? with
        | none => exact ⟨congrArg Fault.forgetLength same.unresolved_eq, same⟩
        | some position => exact same.jump (position + 1)

end Lockstep

/-! ## Whole runs -/

/-- One session is another one on a tape of more cells, the further ones zeros. -/
structure Padded (cells : Nat) (short long : Session) : Prop where
  position : long.machine.position = short.machine.position
  head : long.machine.head = short.machine.head
  exchange : long.exchange = short.exchange
  length : long.machine.tape.length = max cells short.machine.tape.length
  cells_eq : long.machine.tape.cells =
    short.machine.tape.cells ++ List.replicate (cells - short.machine.tape.length) 0

theorem Lockstep.record {cells : Nat} {short long : Session} (same : Lockstep cells short long)
    (event event' : Event) : Lockstep cells (short.record event) (long.record event') :=
  { same with }

theorem Lockstep.padded {cells : Nat} {short long : Session}
    (same : Lockstep cells short long) : short.Padded cells long := by
  have length := same.length
  have longer : short.machine.tape.length ≤ long.machine.tape.length := by omega
  have spare : long.machine.tape.length - short.machine.tape.length =
      cells - short.machine.tape.length := by omega
  have cells_eq := Tape.cells_eq_append same.sound same.sound_long longer same.values
  rw [spare] at cells_eq
  exact ⟨same.position, same.head, same.exchange, same.length, cells_eq⟩

end Session

namespace Run

/-- Two runs that stand alike: both ended, both failed in the same way or both are unfinished, and
their sessions are related. -/
def Alike (related : Session → Session → Prop) : Run → Run → Prop
  | .ended short, .ended long => related short long
  | .failed fault short, .failed fault' long =>
    fault'.forgetLength = fault.forgetLength ∧ related short long
  | .unfinished short, .unfinished long => related short long
  | _, _ => False

theorem Alike.sessions {related : Session → Session → Prop} {run other : Run}
    (alike : run.Alike related other) : related run.session other.session := by
  cases run with
  | ended short =>
      cases other with
      | ended long => exact alike
      | _ => exact alike.elim
  | failed fault short =>
      cases other with
      | failed fault' long => exact alike.2
      | _ => exact alike.elim
  | unfinished short =>
      cases other with
      | unfinished long => exact alike
      | _ => exact alike.elim

theorem Alike.imp {related related' : Session → Session → Prop} {run other : Run}
    (weaker : ∀ short long, related short long → related' short long)
    (alike : run.Alike related other) : run.Alike related' other := by
  cases run with
  | ended short =>
      cases other with
      | ended long => exact weaker short long alike
      | _ => exact alike.elim
  | failed fault short =>
      cases other with
      | failed fault' long => exact ⟨alike.1, weaker short long alike.2⟩
      | _ => exact alike.elim
  | unfinished short =>
      cases other with
      | unfinished long => exact weaker short long alike
      | _ => exact alike.elim

/-- A run fails behind the last of some cells, at a move to the right, after a part of some output
was written. -/
def BreaksOff (cells : Nat) (output : List UInt8) : Run → Prop
  | .failed (.head fault) last =>
    fault.belowZero = false ∧ fault.command = some .right ∧ fault.position = cells ∧
      fault.tapeLength = cells ∧ last.exchange.output <+: output
  | _ => False

end Run

namespace Session

section Run

variable {block : Block} {cells : Nat} {short long : Session}

theorem Overruns.breaksOff {command : Command} (overruns : Overruns cells short long command)
    (same : Lockstep cells short long) (loaded : Loaded block short)
    (loaded_long : Loaded block long) (going : short.machine.finished = false)
    (going_long : long.machine.finished = false) (fuel : Nat)
    (acted : step short = short.act command) (acted_long : step long = long.act command)
    (here : long.machine.program.commands[long.machine.position.toNat]? = some command) :
    (runFor (fuel + 1) long).session.machine.growable.isOn = false ∧
      cells < (runFor (fuel + 1) short).session.machine.tape.length ∧
      (runFor (fuel + 1) long).BreaksOff cells
        (runFor (fuel + 1) short).session.exchange.output := by
  obtain ⟨rfl, off, head, full, made, failing⟩ := overruns
  rw [made] at acted
  rw [failing] at acted_long
  have grown : (short.shift 1).grow.advance.machine.tape.length =
      short.machine.tape.length + 1 :=
    Tape.length_grow _
  obtain ⟨length, output⟩ := run_adds (loaded.step going acted) fuel
  have more : cells <
      (runFor fuel (short.shift 1).grow.advance).session.machine.tape.length := by omega
  rw [runFor_succ fuel going, acted, runFor_of_failing going_long acted_long]
  refine ⟨off, more, rfl, ?_, head, ?_, ?_⟩
  · exact Machine.currentCommand?_eq loaded_long.inBounds.position_nonneg here
  · have length := same.length
    change ((long.machine.tape.length : Nat) : Int) = cells
    omega
  · change long.exchange.output <+: _
    rw [same.exchange]
    exact output

theorem Lockstep.finished_eq (same : Lockstep cells short long) :
    long.machine.finished = short.machine.finished := by
  rw [Machine.finished, Machine.finished, same.program, same.position]

/-- Sessions in lockstep run in lockstep, unless the long tape overruns.  The induction is on the
steps allowed. -/
theorem Lockstep.run (same : Lockstep cells short long) (loaded : Loaded block short)
    (loaded_long : Loaded block long) (fuel : Nat) :
    (runFor fuel short).Alike (Lockstep cells) (runFor fuel long) ∨
      ((runFor fuel long).session.machine.growable.isOn = false ∧
        cells < (runFor fuel short).session.machine.tape.length ∧
        (runFor fuel long).BreaksOff cells (runFor fuel short).session.exchange.output) := by
  induction fuel generalizing short long with
  | zero =>
      refine Or.inl ?_
      rw [runFor, runFor, same.finished_eq]
      split
      · exact same.record _ _
      · exact same
  | succ fuel ih =>
      cases going : short.machine.finished with
      | true =>
          have going_long : long.machine.finished = true := same.finished_eq.trans going
          rw [runFor_of_finished _ going, runFor_of_finished _ going_long]
          exact Or.inl (same.record _ _)
      | false =>
          have going_long : long.machine.finished = false := same.finished_eq.trans going
          obtain ⟨command, here, acted⟩ := loaded.exists_act going
          obtain ⟨command', here', acted_long⟩ := loaded_long.exists_act going_long
          obtain rfl : command = command' := by
            rw [same.program, same.position, here, Option.some.injEq] at here'
            exact here'
          rcases same.act loaded.inBounds.head_nonneg loaded.inBounds.head_lt command with
            together | overruns
          · rw [← acted, ← acted_long] at together
            rw [runFor_succ fuel going, runFor_succ fuel going_long]
            cases made : step short with
            | error fault last =>
                cases made_long : step long with
                | error fault' last' =>
                    rw [made, made_long] at together
                    exact Or.inl together
                | ok _ next' =>
                    rw [made, made_long] at together
                    exact together.elim
            | ok _ next =>
                cases made_long : step long with
                | error fault' last' =>
                    rw [made, made_long] at together
                    exact together.elim
                | ok _ next' =>
                    rw [made, made_long] at together
                    exact ih together (loaded.step going made)
                      (loaded_long.step going_long made_long)
          · exact Or.inr (overruns.breaksOff same loaded loaded_long going going_long fuel acted
              acted_long here')

end Run

theorem lockstep_of_create {memory : Memory} {program : Program} {growable growable' : Flag}
    {width : CellWidth} {short long : Machine} {cells : Nat} (positive : 0 < cells)
    (on : growable.isOn = true) (made : Machine.create memory program 1 growable width = .ok short)
    (made_long : Machine.create memory program cells growable' width = .ok long)
    (exchange : Exchange) (events : Array Event) :
    Lockstep cells ⟨short, exchange, events⟩ ⟨long, exchange, events⟩ := by
  obtain ⟨rfl, _⟩ := Machine.create_eq_ok made
  obtain ⟨rfl, _⟩ := Machine.create_eq_ok made_long
  have length : Machine.startLength cells = cells := by
    rw [Machine.startLength, if_neg (by omega), Int.toNat_natCast]
  exact
    { program := rfl
      width := rfl
      position := rfl
      head := rfl
      exchange := rfl
      length := by
        change Machine.startLength cells = max cells 1
        omega
      values := fun slot => by
        rw [Tape.valueAt_blank, Tape.valueAt_blank]
      sound := Tape.sound_blank _
      sound_long := Tape.sound_blank _
      grows := on
      fits := fun _ => positive }

end Session

/-- On a tape that grows from one cell a run comes to some length.  From any other first length, a
run on a tape that grows stands the same, with zeros behind.  So does a run on a tape that may not
grow and has as many cells; with fewer it breaks off behind its last cell. -/
theorem growing_run_decides_lengths {memory : Memory} {source name : String} {program : Program}
    {growable fixed : Flag} {width : CellWidth} {short : Machine}
    (loaded : Program.ofSource source name = .ok program) (on : growable.isOn = true)
    (off : fixed.isOn = false) (made : Machine.create memory program 1 growable width = .ok short)
    (exchange : Exchange) (events : Array Event) (fuel : Nat) {cells : Nat}
    (positive : 0 < cells) :
    let run := Session.runFor fuel ⟨short, exchange, events⟩
    (∀ long, Machine.create memory program cells growable width = .ok long →
      run.Alike (Session.Padded cells) (Session.runFor fuel ⟨long, exchange, events⟩)) ∧
    ∀ long, Machine.create memory program cells fixed width = .ok long →
      (run.session.machine.tape.length ≤ cells →
        run.Alike (Session.Padded cells) (Session.runFor fuel ⟨long, exchange, events⟩)) ∧
      (cells < run.session.machine.tape.length →
        (Session.runFor fuel ⟨long, exchange, events⟩).BreaksOff cells
          run.session.exchange.output) := by
  obtain ⟨block, start⟩ := Session.loaded_of_create loaded made exchange events
  have reached : ∀ (growable' : Flag) (long : Machine),
      Machine.create memory program cells growable' width = .ok long →
      Session.Lockstep cells ⟨short, exchange, events⟩ ⟨long, exchange, events⟩ ∧
        Session.Loaded block ⟨long, exchange, events⟩ ∧ long.growable = growable' := by
    intro growable' long made_long
    have same :=
      Session.lockstep_of_create positive on made made_long exchange events
    have bounds := Machine.inBounds_of_create made_long
    have parsed : long.program.Parsed block := same.program ▸ start.parsed
    obtain ⟨rfl, _⟩ := Machine.create_eq_ok made_long
    exact ⟨same, ⟨parsed, bounds⟩, rfl⟩
  refine ⟨?_, ?_⟩
  · intro long made_long
    obtain ⟨same, start', rfl⟩ := reached growable long made_long
    rcases same.run start start' fuel with alike | ⟨off, _⟩
    · exact alike.imp fun _ _ => Session.Lockstep.padded
    · rw [Session.growable_runFor, on] at off
      cases off
  · intro long made_long
    obtain ⟨same, start', rfl⟩ := reached fixed long made_long
    rcases same.run start start' fuel with alike | ⟨_, more, breaksOff⟩
    · have enough := alike.sessions.fits (by rw [Session.growable_runFor, off])
      exact ⟨fun _ => alike.imp fun _ _ => Session.Lockstep.padded, fun fewer => by omega⟩
    · exact ⟨fun enough => by omega, fun _ => breaksOff⟩

theorem one_move_needs_two_cells :
    ∃ program short long tight, Program.ofSource ".>+" "move" = .ok program ∧
      Machine.create .ample program 1 (.truth true) .eight = .ok short ∧
      Machine.create .ample program (3 : Nat) (.truth false) .eight = .ok long ∧
      Machine.create .ample program (1 : Nat) (.truth false) .eight = .ok tight ∧
      (Session.runFor 3 ⟨short, Exchange.ofBytes [], #[]⟩).session.machine.tape.length = 2 ∧
      (Session.runFor 3 ⟨short, Exchange.ofBytes [], #[]⟩).Alike (Session.Padded 3)
        (Session.runFor 3 ⟨long, Exchange.ofBytes [], #[]⟩) ∧
      (Session.runFor 3 ⟨tight, Exchange.ofBytes [], #[]⟩).BreaksOff 1 [0] := by
  let program := Program.assemble (Instruction.scan ".>+".toList) [] "move" ".>+"
  have loaded : Program.ofSource ".>+" "move" = .ok program := rfl
  let machine (growable : Bool) (cells : Nat) : Machine :=
    ⟨program, .eight, .truth growable, cells, Tape.blank cells, 0, 0⟩
  have made : Machine.create .ample program 1 (.truth true) .eight = .ok (machine true 1) := rfl
  have made_long : Machine.create .ample program (3 : Nat) (.truth false) .eight =
    .ok (machine false 3) := rfl
  have made_tight : Machine.create .ample program (1 : Nat) (.truth false) .eight =
    .ok (machine false 1) := rfl
  have length : (Session.runFor 3
    ⟨machine true 1, Exchange.ofBytes [], #[]⟩).session.machine.tape.length = 2 := rfl
  have enough := ((growing_run_decides_lengths loaded rfl rfl made (Exchange.ofBytes []) #[] 3
    (by decide : 0 < 3)).2 _ made_long).1 (by rw [length]; decide)
  have few := ((growing_run_decides_lengths loaded rfl rfl made (Exchange.ofBytes []) #[] 3
    (by decide : 0 < 1)).2 _ made_tight).2 (by rw [length]; decide)
  exact ⟨program, _, _, _, loaded, made, made_long, made_tight, length, enough, few⟩

end TapeMachine
