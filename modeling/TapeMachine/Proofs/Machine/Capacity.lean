import Mathlib.Algebra.Group.Nat.Defs
import TapeMachine.Proofs.Machine.Failure

/-!
# The capacity of a tape

A tape gets its cells one by one, and its buffer is replaced only when it is full, by one of twice
the length.  So the buffer has always the first length doubled as few times as it takes to hold the
visible cells.  Replacing a buffer copies the cells in it; what is copied in all is a geometric sum,
and stays below twice the visible cells.

What an action copies is told by the same binds that put the action together, so that every count is
one of the cells that this very action copies.

Main statement: these bounds hold after every history of a machine, where the count starts anew each
time that the machine is set back.
-/

set_option autoImplicit false

namespace TapeMachine

/-! ## Doubling a full buffer -/

/-- A number of doublings that makes a length reach another one, while no smaller number does. -/
structure FewestDoublings (initial length doublings : Nat) : Prop where
  enough : length ≤ initial * 2 ^ doublings
  fewest : ∀ fewer < doublings, initial * 2 ^ fewer < length

namespace FewestDoublings

variable {initial length doublings : Nat}

theorem refl (length : Nat) : FewestDoublings length length 0 where
  enough := Nat.le_of_eq (Nat.mul_one length).symm
  fewest := fun fewer less => absurd less (Nat.not_lt_zero fewer)

theorem succ (fits : FewestDoublings initial length doublings)
    (room : length < initial * 2 ^ doublings) :
    FewestDoublings initial (length + 1) doublings where
  enough := room
  fewest := fun fewer less => Nat.lt_succ_of_lt (fits.fewest fewer less)

/-- Behind a length that is just reached, one more doubling is needed. -/
theorem double (positive : 0 < initial) (full : length = initial * 2 ^ doublings) :
    FewestDoublings initial (length + 1) (doublings + 1) where
  enough := by
    have one : 0 < initial * 2 ^ doublings := Nat.mul_pos positive (Nat.two_pow_pos doublings)
    rw [Nat.pow_succ, ← Nat.mul_assoc]
    omega
  fewest := by
    intro fewer less
    have below : initial * 2 ^ fewer ≤ initial * 2 ^ doublings :=
      Nat.mul_le_mul_left initial (Nat.pow_le_pow_right Nat.two_pos (Nat.le_of_lt_succ less))
    omega

theorem copied_lt (fits : FewestDoublings initial length doublings) (positive : 0 < length) :
    initial * (2 ^ doublings - 1) < 2 * length := by
  cases doublings with
  | zero => omega
  | succ doublings =>
      have last := fits.fewest doublings (Nat.lt_succ_self doublings)
      have twice : initial * (2 ^ (doublings + 1) - 1) ≤ 2 * (initial * 2 ^ doublings) := by
        rw [Nat.pow_succ, Nat.mul_left_comm, Nat.mul_comm 2]
        exact Nat.mul_le_mul_left initial (Nat.sub_le _ 1)
      omega

end FewestDoublings

namespace Tape

/-- The number of cells that are copied when the tape grows: those of a full buffer, which is
replaced, and else none. -/
def copiedByGrow (tape : Tape) : Nat := if tape.length = tape.buffer.size then tape.length else 0

/-- A tape that grows keeps its buffer and copies nothing, or it gets a new one: in front are the
cells that were copied, which are all that the old buffer had, and behind them are zeros. -/
theorem buffer_grow_cases (tape : Tape) :
    (tape.length ≠ tape.buffer.size ∧ tape.copiedByGrow = 0 ∧ tape.grow.buffer = tape.buffer) ∨
      (tape.length = tape.buffer.size ∧ tape.copiedByGrow = tape.buffer.size ∧
        tape.grow.buffer = tape.buffer.take tape.copiedByGrow ++
          Array.replicate (nextCapacity tape.length - tape.copiedByGrow) 0) := by
  by_cases full : tape.length = tape.buffer.size
  · right
    have whole : tape.copiedByGrow = tape.buffer.size := by rw [copiedByGrow, if_pos full, full]
    refine ⟨full, whole, ?_⟩
    rw [whole, Array.take_eq_extract, Array.extract_size, Tape.grow, if_pos full, full]
  · left
    refine ⟨full, if_neg full, ?_⟩
    rw [Tape.grow, if_neg full]

/-- A tape whose buffer has come from some length by the fewest doublings that hold its visible
cells, at the cost of copying so many cells. -/
def Doubled (initial copied : Nat) (tape : Tape) : Prop :=
  ∃ doublings, FewestDoublings initial tape.length doublings ∧
    tape.buffer.size = initial * 2 ^ doublings ∧ copied + initial = initial * 2 ^ doublings

variable {initial copied : Nat} {tape other : Tape}

theorem doubled_blank (length : Nat) : (blank length).Doubled length 0 := by
  refine ⟨0, .refl length, ?_, ?_⟩
  · rw [blank, Array.size_replicate, Nat.pow_zero, Nat.mul_one]
  · rw [Nat.zero_add, Nat.pow_zero, Nat.mul_one]

def SameSize (tape other : Tape) : Prop :=
  other.length = tape.length ∧ other.buffer.size = tape.buffer.size

theorem SameSize.refl (tape : Tape) : tape.SameSize tape := ⟨rfl, rfl⟩

theorem sameSize_update (tape : Tape) (slot : Nat) (change : Nat → Nat) :
    tape.SameSize (tape.update slot change) :=
  ⟨rfl, Array.size_modify⟩

theorem Doubled.of_sameSize (doubled : tape.Doubled initial copied) (same : tape.SameSize other) :
    other.Doubled initial copied := by
  obtain ⟨doublings, fits, size, paid⟩ := doubled
  refine ⟨doublings, ?_, same.2.trans size, paid⟩
  rwa [same.1]

theorem Doubled.grow (positive : 0 < initial) (doubled : tape.Doubled initial copied) :
    tape.grow.Doubled initial (copied + tape.copiedByGrow) := by
  obtain ⟨doublings, fits, size, paid⟩ := doubled
  rcases tape.buffer_grow_cases with ⟨spare, none, kept⟩ | ⟨full, whole, replaced⟩
  · have room : tape.length < initial * 2 ^ doublings :=
      Nat.lt_of_le_of_ne fits.enough fun same => spare (same.trans size.symm)
    rw [none, Nat.add_zero]
    refine ⟨doublings, ?_, ?_, paid⟩
    · rw [length_grow]
      exact fits.succ room
    · rw [kept, size]
  · have one : 0 < initial * 2 ^ doublings := Nat.mul_pos positive (Nat.two_pow_pos doublings)
    have twice : initial * 2 ^ (doublings + 1) = 2 * (initial * 2 ^ doublings) := by
      rw [Nat.pow_succ, Nat.mul_comm (2 ^ doublings), Nat.mul_left_comm]
    have carried : (tape.buffer.take tape.copiedByGrow).size = tape.buffer.size := by
      rw [whole, Array.take_eq_extract, Array.extract_size]
    refine ⟨doublings + 1, ?_, ?_, ?_⟩
    · rw [length_grow]
      exact .double positive (full.trans size)
    · rw [replaced, Array.size_append, carried, Array.size_replicate, whole, full, nextCapacity]
      omega
    · omega

end Tape

/-! ## Actions and what they copy -/

/-- An action with the number of cells that it copies into new buffers. -/
structure Copying (α : Type) where
  action : Action α
  copied : Session → Nat

namespace Copying

variable {α β : Type}

def free (action : Action α) : Copying α := ⟨action, fun _ => 0⟩

def bind (first : Copying α) (next : α → Copying β) : Copying β where
  action := first.action >>= fun answer => (next answer).action
  copied session := first.copied session +
    match first.action session with
    | .ok answer middle => (next answer).copied middle
    | .error _ _ => 0

instance : Monad Copying where
  pure answer := free (pure answer)
  bind := bind

def check : Copying Int where
  action := Session.check
  copied session :=
    if session.machine.head < session.machine.tape.length then 0
    else if session.machine.growable.isOn then session.machine.tape.copiedByGrow
    else 0

def moveRight : Copying Int := do
  let _ ← check
  free (Session.alter fun machine => { machine with head := machine.head + 1 })
  let position ← check
  return position + 1

def moveLeft : Copying Int := do
  let _ ← check
  let session ← free get
  if session.machine.head = 0 then
    free (throw (session.machine.headFault true))
  free (Session.alter fun machine => { machine with head := machine.head - 1 })
  let position ← check
  return position + 1

/-- A command; only moves of the head check it. -/
def perform : Command → Copying Int
  | .right => moveRight
  | .left => moveLeft
  | command => free (Session.perform command)

def step : Copying Unit := do
  let session ← free get
  match session.machine.program.instruction? session.machine.position with
  | none => free (throw (.instructionIndex session.machine.position))
  | some instruction =>
    let position ← perform instruction.command
    free (Session.alter fun machine => { machine with position := position })

/-! The actions are those of the machine. -/

theorem action_moveLeft : moveLeft.action = Session.moveLeft := by
  change (Session.check >>= fun _ => get >>= fun checked =>
    Copying.action (if checked.machine.head = 0 then _ else _)) = _
  simp only [apply_ite Copying.action]
  rfl

theorem action_perform (command : Command) :
    (perform command).action = Session.perform command := by
  cases command with
  | left => exact action_moveLeft
  | _ => rfl

theorem action_step : step.action = Session.step := by
  funext session
  rw [Session.step_opened]
  change Copying.action (match session.machine.program.instruction? session.machine.position with
    | none => _
    | some instruction => _) session = _
  cases session.machine.program.instruction? session.machine.position with
  | none => rfl
  | some instruction =>
      simp only
      rw [← action_perform]
      rfl

theorem action_bind (first : Copying α) (next : α → Copying β) :
    (first >>= next).action = first.action >>= fun answer => (next answer).action := rfl

theorem copied_bind (first : Copying α) (next : α → Copying β) (session : Session) :
    (first >>= next).copied session = first.copied session +
      match first.action session with
      | .ok answer middle => (next answer).copied middle
      | .error _ _ => 0 := rfl

/-! ## Actions that leave the buffer alone -/

/-- Whether it succeeds or fails, an action leaves the tape and its buffer at their lengths. -/
def KeepsSize (action : Action α) : Prop :=
  ∀ session : Session, session.machine.tape.SameSize (Session.after (action session)).machine.tape

theorem keepsSize_changeCurrent (update : CellWidth → Nat → Nat) :
    KeepsSize (Session.changeCurrent update) := by
  intro session
  rw [Session.changeCurrent_eq]
  cases session.machine.tape.slot? session.machine.head with
  | none => exact .refl _
  | some slot => exact Tape.sameSize_update _ _ _

theorem keepsSize_input : KeepsSize Session.input := by
  intro session
  rw [Session.input_eq]
  split
  · exact .refl _
  · exact .refl _
  · exact .refl _
  · exact keepsSize_changeCurrent _ session.asked

theorem keepsSize_output : KeepsSize Session.output := by
  intro session
  rw [Session.output_eq]
  split
  · exact .refl _
  · simp only
    split
    · exact .refl _
    · exact .refl _
    · split
      · exact .refl _
      · exact .refl _

theorem keepsSize_loopStart : KeepsSize Session.loopStart := by
  intro session
  rw [Session.loopStart_eq]
  split
  · exact .refl _
  · exact .refl _

theorem keepsSize_loopEnd : KeepsSize Session.loopEnd := by
  intro session
  rw [Session.loopEnd_eq]
  split
  · exact .refl _
  · split
    · exact .refl _
    · split
      · exact .refl _
      · exact .refl _

/-! ## Counting what is copied -/

/-- An action that leaves a buffer which has come from some length as one that has, and tells what
was copied in between. -/
def Counts (copying : Copying α) : Prop :=
  ∀ (initial copied : Nat) (session : Session), 0 < initial →
    session.machine.tape.Doubled initial copied →
      (Session.after (copying.action session)).machine.tape.Doubled initial
        (copied + copying.copied session)

theorem counts_free {action : Action α} (keeps : KeepsSize action) : Counts (free action) := by
  intro initial copied session _ doubled
  exact doubled.of_sameSize (keeps session)

theorem counts_pure (answer : α) : Counts (pure answer) :=
  counts_free fun session => .refl session.machine.tape

theorem counts_bind {first : Copying α} {next : α → Copying β} (counts : Counts first)
    (countsNext : ∀ answer, Counts (next answer)) : Counts (first >>= next) := by
  intro initial copied session positive doubled
  have before := counts _ _ _ positive doubled
  rw [action_bind, copied_bind, Session.bind_eq]
  cases made : first.action session with
  | error fault middle =>
      rw [made] at before
      exact before
  | ok answer middle =>
      rw [made] at before
      rw [← Nat.add_assoc]
      exact countsNext answer _ _ _ positive before

theorem counts_check : Counts check := by
  intro initial copied session positive doubled
  change (Session.after (Session.check session)).machine.tape.Doubled initial (copied +
    if session.machine.head < session.machine.tape.length then 0
    else if session.machine.growable.isOn then session.machine.tape.copiedByGrow else 0)
  rw [Session.check_eq]
  split
  · exact doubled
  · split
    · exact doubled.grow positive
    · exact doubled

theorem counts_get : Counts (free get) := counts_free fun session => .refl session.machine.tape

theorem counts_throw (fault : Fault) : Counts (free (throw fault : Action α)) :=
  counts_free fun session => .refl session.machine.tape

theorem counts_placeHead (move : Machine → Int) :
    Counts (free (Session.alter fun machine => { machine with head := move machine })) :=
  counts_free fun session => .refl session.machine.tape

theorem counts_moveRight : Counts moveRight := by
  rw [moveRight]
  apply counts_bind counts_check
  intro _
  apply counts_bind (counts_placeHead fun machine => machine.head + 1)
  intro _
  exact counts_bind counts_check fun _ => counts_pure _

theorem counts_moveLeft : Counts moveLeft := by
  rw [moveLeft]
  apply counts_bind counts_check
  intro _
  apply counts_bind counts_get
  intro session
  have moves : Counts (free (Session.alter fun machine => { machine with head := machine.head - 1 })
      >>= fun _ => check >>= fun position => pure (position + 1)) := by
    apply counts_bind (counts_placeHead fun machine => machine.head - 1)
    intro _
    exact counts_bind counts_check fun _ => counts_pure _
  split
  · exact counts_bind (counts_throw _) fun _ => moves
  · exact moves

theorem counts_perform (command : Command) : Counts (perform command) := by
  cases command with
  | right => exact counts_moveRight
  | left => exact counts_moveLeft
  | increment =>
      exact counts_free (keepsSize_changeCurrent fun width value => width.increment value)
  | decrement =>
      exact counts_free (keepsSize_changeCurrent fun width value => width.decrement value)
  | output => exact counts_free keepsSize_output
  | input => exact counts_free keepsSize_input
  | loopStart => exact counts_free keepsSize_loopStart
  | loopEnd => exact counts_free keepsSize_loopEnd

theorem counts_step : Counts step := by
  refine counts_bind counts_get fun session => ?_
  split
  · exact counts_throw _
  · exact counts_bind (counts_perform _) fun position =>
      counts_free fun session => .refl session.machine.tape

end Copying

/-! ## Runs and histories -/

namespace Session

def copiedByRun : Nat → Session → Nat
  | fuel, session =>
    if session.machine.finished then 0
    else
      match fuel with
      | 0 => 0
      | fuel + 1 =>
        Copying.step.copied session +
          match step session with
          | .ok _ next => copiedByRun fuel next
          | .error _ _ => 0

def copiedBy (session : Session) : Operation → Nat
  | .handle command => (Copying.perform command).copied session
  | .check => Copying.check.copied session
  | .run steps => session.copiedByRun steps
  | .store _ _ | .reset | .placeHead _ | .jump _ | .connect _ _ => 0

/-- The number of cells that some operations copy, counted anew each time that the machine is set
back. -/
def copiedSinceReset (copied : Nat) (session : Session) : List Operation → Nat
  | [] => copied
  | operation :: rest =>
    let later := if operation = .reset then 0 else copied + session.copiedBy operation
    (session.carryOut operation).2.copiedSinceReset later rest

variable {initial : Nat}

theorem doubled_runFor (positive : 0 < initial) (fuel : Nat) :
    ∀ {copied : Nat} {session : Session}, session.machine.tape.Doubled initial copied →
      (runFor fuel session).session.machine.tape.Doubled initial
        (copied + session.copiedByRun fuel) := by
  induction fuel with
  | zero =>
      intro copied session doubled
      rw [runFor, copiedByRun]
      split
      · exact doubled
      · exact doubled
  | succ fuel ih =>
      intro copied session doubled
      cases going : session.machine.finished with
      | true =>
          rw [runFor_of_finished _ going, copiedByRun, if_pos going]
          exact doubled
      | false =>
          have counted := Copying.counts_step _ _ _ positive doubled
          rw [Copying.action_step] at counted
          rw [runFor_succ fuel going, copiedByRun, going]
          simp only [Bool.false_eq_true, if_false]
          rw [← Nat.add_assoc]
          cases made : step session with
          | error fault next =>
              rw [made] at counted
              exact counted
          | ok _ next =>
              rw [made] at counted
              exact ih counted

theorem doubled_carryOut {session : Session} {copied : Nat} (positive : 0 < initial)
    (doubled : session.machine.tape.Doubled initial copied) {operation : Operation}
    (goesOn : operation ≠ .reset) :
    (session.carryOut operation).2.machine.tape.Doubled initial
      (copied + session.copiedBy operation) := by
  cases operation with
  | handle command =>
      have counted := Copying.counts_perform command _ _ _ positive doubled
      rw [Copying.action_perform] at counted
      rw [carryOut, session_ofResult]
      exact counted
  | check =>
      rw [carryOut, session_ofResult]
      exact Copying.counts_check _ _ _ positive doubled
  | store index value =>
      rw [carryOut, session_ofResult, store_eq]
      cases session.machine.tape.slot? index with
      | none => exact doubled
      | some slot => exact doubled.of_sameSize (Tape.sameSize_update _ _ _)
  | reset => exact absurd rfl goesOn
  | placeHead head => exact doubled
  | jump position => exact doubled
  | connect reads writes => exact doubled
  | run steps =>
      rw [session_carryOut_run]
      exact doubled_runFor positive steps doubled

theorem initialLength_carryOut (session : Session) (operation : Operation) :
    (session.carryOut operation).2.machine.initialLength = session.machine.initialLength := by
  rcases machine_carryOut session operation with back | ⟨reached, evolves, machine⟩
  · rw [back]
    rfl
  · rw [machine]
    exact evolves.initialLength_eq

theorem doubled_replay (positive : 0 < initial) (history : List Operation) :
    ∀ {session : Session} {copied : Nat}, session.machine.initialLength = initial →
      session.machine.tape.Doubled initial copied →
        (session.replay history).2.machine.tape.Doubled initial
          (session.copiedSinceReset copied history) := by
  induction history with
  | nil => exact fun _ doubled => doubled
  | cons operation rest ih =>
      intro session copied first doubled
      have first' := (session.initialLength_carryOut operation).trans first
      rw [replay, copiedSinceReset]
      apply ih first'
      by_cases back : operation = .reset
      · rw [if_pos back, back, ← first]
        exact Tape.doubled_blank _
      · rw [if_neg back]
        exact doubled_carryOut positive doubled back

end Session

/-- Whatever was done with a machine, its buffer has the first length, doubled as few times as hold
the visible cells, and so the visible cells are all in the buffer.  What was copied into new buffers
since the machine was new or set back is the first length times one less than the power of two, and
less than twice the visible cells. -/
theorem buffer_is_doubled_as_little_as_fits {memory : Memory} {program : Program} {cells : Int}
    {growable : Flag} {width : CellWidth} {machine : Machine}
    (made : Machine.create memory program cells growable width = .ok machine) (exchange : Exchange)
    (events : Array Event) (history : List Operation) :
    let start : Session := ⟨machine, exchange, events⟩
    let tape := (start.replay history).2.machine.tape
    let initial := if cells = 0 then 30000 else cells.toNat
    ∃ doublings, tape.buffer.size = initial * 2 ^ doublings ∧
      tape.length ≤ initial * 2 ^ doublings ∧
      (∀ fewer < doublings, initial * 2 ^ fewer < tape.length) ∧
      tape.length ≤ tape.buffer.size ∧
      start.copiedSinceReset 0 history = initial * (2 ^ doublings - 1) ∧
      start.copiedSinceReset 0 history < 2 * tape.length := by
  intro start tape initial
  obtain ⟨rfl, nonneg⟩ := Machine.create_eq_ok made
  have positive : 0 < initial := Machine.startLength_pos nonneg
  obtain ⟨doublings, fits, size, paid⟩ : tape.Doubled initial (start.copiedSinceReset 0 history) :=
    Session.doubled_replay positive history rfl (Tape.doubled_blank initial)
  have copied : start.copiedSinceReset 0 history = initial * (2 ^ doublings - 1) := by
    rw [Nat.mul_sub_one, ← paid, Nat.add_sub_cancel]
  have nonempty : 0 < tape.length := Machine.nonempty_of_replay made exchange events history
  refine ⟨doublings, size, fits.enough, fits.fewest, ?_, copied, ?_⟩
  · rw [size]
    exact fits.enough
  · rw [copied]
    exact fits.copied_lt nonempty

/-- What the first run copies is forgotten when the machine is set back; then a shorter run and a
head far behind the tape let it grow again. -/
theorem six_cells_from_one_copy_seven :
    ∃ program machine, Program.ofSource ">>>>" "step" = .ok program ∧
      Machine.create .ample program 1 (.truth true) .eight = .ok machine ∧
      let start : Session := ⟨machine, Exchange.ofBytes [], #[]⟩
      let history : List Operation := [.run 9, .reset, .run 2, .placeHead 7, .check, .handle .right]
      let tape := (start.replay history).2.machine.tape
      tape.length = 6 ∧ tape.buffer.size = 8 ∧ start.copiedSinceReset 0 history = 7 ∧
      start.copiedSinceReset 0 history < 2 * tape.length := by
  let program := Program.assemble (Instruction.scan ">>>>".toList) [] "step" ">>>>"
  have loaded : Program.ofSource ">>>>" "step" = .ok program := rfl
  -- The machine keeps a name of its own, lest its run be unfolded where it is mentioned.
  obtain ⟨machine, same⟩ : ∃ machine : Machine,
    machine = ⟨program, .eight, .truth true, 1, Tape.blank 1, 0, 0⟩ := ⟨_, rfl⟩
  have made : Machine.create .ample program 1 (.truth true) .eight = .ok machine := by
    rw [same]
    rfl
  let history : List Operation := [.run 9, .reset, .run 2, .placeHead 7, .check, .handle .right]
  obtain ⟨_, _, _, _, _, _, less⟩ :=
    buffer_is_doubled_as_little_as_fits made (Exchange.ofBytes []) #[] history
  refine ⟨program, machine, loaded, made, ?_, ?_, ?_, less⟩
  · rw [same]
    decide +kernel
  · rw [same]
    decide +kernel
  · rw [same]
    decide +kernel

end TapeMachine
