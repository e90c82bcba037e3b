import TapeMachine.Proofs.Structured.Simulation

/-!
# Flat jumps run the parse tree

A machine has no tree.  At a loop start it jumps to the end of the loop, which alone looks at the
cell and may jump back behind the start.  `follows_of_runs` follows a tree with the machine, and
`exists_outcome` finds the outcome of a tree from a run that stops, by induction on its steps.

Main statement: a run ends, fails or goes on forever as the only parse tree of its program does.
-/

set_option autoImplicit false

namespace TapeMachine

namespace Structured

/-! ## The marks of a loop -/

namespace At

variable {program : Program} {tree body rest : Block} {policy : Policy} {position : Nat}
variable {session : Session} {state : State}

theorem jumpToEnd (place : At program tree policy position session state)
    (holds : program.Holds (.loop body rest) position) :
    StepsAs program tree policy (position + body.size + 1) session state (.ok state) := by
  obtain ⟨start, finish, _⟩ := holds
  have acted : session.act .loopStart =
      .ok () (session.jump ((position + body.size + 1 : Nat) : Int)) := by
    rw [Session.act, place.program_eq, place.position_eq, finish]
  exact ⟨_, place.next start acted rfl place.cells place.head place.output place.reads
    place.writes⟩

theorem leave (place : At program tree policy (position + body.size + 1) session state)
    (holds : program.Holds (.loop body rest) position) (zero : state.current = 0) :
    StepsAs program tree policy (position + body.size + 2) session state (.ok state) := by
  obtain ⟨_, _, _, finish, _⟩ := holds
  have acted : session.act .loopEnd = .ok () session.advance :=
    if_pos (place.value_eq.trans zero)
  exact ⟨_, place.next finish acted place.following_eq place.cells place.head place.output
    place.reads place.writes⟩

theorem enter (place : At program tree policy (position + body.size + 1) session state)
    (holds : program.Holds (.loop body rest) position) (nonzero : state.current ≠ 0) :
    StepsAs program tree policy (position + 1) session state (.ok state) := by
  obtain ⟨_, _, _, finish, start, _⟩ := holds
  have value : session.value ≠ 0 := by
    rwa [place.value_eq]
  have acted : session.act .loopEnd = .ok () (session.jump ((position : Int) + 1)) := by
    rw [Session.act, if_neg value, place.program_eq, place.position_eq, start]
  exact ⟨_, place.next finish acted rfl place.cells place.head place.output place.reads
    place.writes⟩

end At

/-! ## From trees to runs -/

/-- Where a tree can be entered: at its first command, and a loop at its end as well. -/
def Entry : Block → Nat → Nat → Prop
  | .loop body _, position, start => start = position ∨ start = position + body.size + 1
  | _, position, start => start = position

theorem Entry.first (block : Block) (position : Nat) : Entry block position position := by
  cases block with
  | done => rfl
  | act primitive rest => rfl
  | loop body rest => exact Or.inl rfl

/-- What a session does whose tree has an outcome: it gets behind the tree, or a step fails. -/
def Follows (program : Program) (tree : Block) (policy : Policy) (later : Nat)
    (session : Session) : Outcome → Prop
  | .stopped final =>
    ∃ count last, Session.Steps count session last ∧ At program tree policy later last final
  | .aborted abort output =>
    ∃ count reached fault last, Session.Steps count session reached ∧
      reached.machine.finished = false ∧ Session.step reached = .error fault last ∧
      abort.Names fault ∧ last.exchange.output = output

section Simulation

variable {program : Program} {tree : Block} {policy : Policy} {position start later : Nat}
variable {session : Session} {state : State} {outcome : Outcome}

theorem Follows.of_steps {count : Nat} {middle : Session}
    (before : Session.Steps count session middle)
    (follows : Follows program tree policy later middle outcome) :
    Follows program tree policy later session outcome := by
  cases outcome with
  | stopped final =>
      obtain ⟨more, last, steps, place⟩ := follows
      exact ⟨_, last, before.trans steps, place⟩
  | aborted abort output =>
      obtain ⟨more, reached, fault, last, steps, failing⟩ := follows
      exact ⟨_, reached, fault, last, before.trans steps, failing⟩

/-- A loop that is entered at either place gets to its end with nothing changed. -/
theorem At.steps_to_end {body rest : Block}
    (place : At program tree policy start session state)
    (holds : program.Holds (.loop body rest) position)
    (entry : Entry (.loop body rest) position start) :
    ∃ count last, Session.Steps count session last ∧
      At program tree policy (position + body.size + 1) last state := by
  rcases entry with rfl | rfl
  · obtain ⟨last, made, atEnd⟩ := place.jumpToEnd holds
    have going := (place.step_eq holds.1).1
    exact ⟨1, last, .more going made (.none last), atEnd⟩
  · exact ⟨0, session, .none session, place⟩

/-- The end of a loop is followed by its body when the cell is not zero, and else by what comes
after the loop. -/
theorem At.steps_from_end {body rest : Block}
    (place : At program tree policy (position + body.size + 1) session state)
    (holds : program.Holds (.loop body rest) position) :
    ∃ last, Session.Steps 1 session last ∧
      At program tree policy
        (if state.current = 0 then position + body.size + 2 else position + 1) last state := by
  obtain ⟨_, _, _, finish, _⟩ := id holds
  have going := (place.step_eq finish).1
  by_cases zero : state.current = 0
  · obtain ⟨last, made, left⟩ := place.leave holds zero
    rw [if_pos zero]
    exact ⟨last, .more going made (.none last), left⟩
  · obtain ⟨last, made, inside⟩ := place.enter holds zero
    rw [if_neg zero]
    exact ⟨last, .more going made (.none last), inside⟩

/-- A session follows the tree that stands at its position.  The induction is on the run of the
tree; a loop that is run again is entered at its end. -/
theorem follows_of_runs {block : Block} (runs : Runs policy block state outcome) :
    ∀ {position start : Nat} {session : Session}, program.Holds block position →
      Entry block position start → At program tree policy start session state →
      Follows program tree policy (position + block.size) session outcome := by
  induction runs with
  | done state =>
      intro position start session _ entry place
      obtain rfl : start = position := entry
      exact ⟨0, session, .none session, place⟩
  | @act primitive rest state next outcome performed _ ih =>
      intro position start session holds entry place
      obtain rfl : start = position := entry
      have stepped := place.perform_step holds.1
      rw [performed] at stepped
      obtain ⟨after, made, place'⟩ := stepped
      have going := (place.step_eq holds.1).1
      have follows := ih holds.2 (.first rest _) place'
      rw [Block.size_act, Nat.add_comm rest.size, ← Nat.add_assoc]
      exact follows.of_steps (.more going made (.none after))
  | @abort primitive rest state abort performed =>
      intro position start session holds entry place
      obtain rfl : start = position := entry
      have stepped := place.perform_step holds.1
      rw [performed] at stepped
      obtain ⟨fault, after, made, names, output⟩ := stepped
      have going := (place.step_eq holds.1).1
      exact ⟨0, session, fault, after, .none session, going, made, names, output⟩
  | @skip body rest state outcome zero _ ih =>
      intro position start session holds entry place
      obtain ⟨_, atEnd, steps, place⟩ := place.steps_to_end holds entry
      obtain ⟨last, step, place⟩ := place.steps_from_end holds
      rw [if_pos zero] at place
      have follows := ih holds.2.2.2.2.2 (.first rest _) place
      rw [show position + (Block.loop body rest).size = position + body.size + 2 + rest.size by
        rw [Block.size_loop]
        omega]
      exact follows.of_steps (steps.trans step)
  | @again body rest state next outcome nonzero _ _ innerIh wholeIh =>
      intro position start session holds entry place
      obtain ⟨_, atEnd, steps, place⟩ := place.steps_to_end holds entry
      obtain ⟨first, step, place⟩ := place.steps_from_end holds
      rw [if_neg nonzero] at place
      -- Behind its body the machine is at the loop end, not at the start that the tree goes back to.
      obtain ⟨_, last, inner, place⟩ := innerIh holds.2.2.1 (.first body _) place
      rw [Nat.add_right_comm] at place
      have follows := wholeIh holds (Or.inr rfl) place
      exact follows.of_steps ((steps.trans step).trans inner)
  | @inside body rest state abort output nonzero _ ih =>
      intro position start session holds entry place
      obtain ⟨_, atEnd, steps, place⟩ := place.steps_to_end holds entry
      obtain ⟨first, step, place⟩ := place.steps_from_end holds
      rw [if_neg nonzero] at place
      obtain ⟨count, reached, fault, last, inner, failing⟩ :=
        ih holds.2.2.1 (.first body _) place
      exact ⟨_, reached, fault, last, (steps.trans step).trans inner, failing⟩

/-! ## From runs to trees -/

/-- A tree has an outcome when a run that is at the tree stops.  The induction is on the steps of
the run: each of them, and each run of a body, leaves fewer. -/
theorem exists_outcome (fuel : Nat) :
    ∀ {block : Block} {position start : Nat} {session : Session} {state : State},
      program.Holds block position → Entry block position start →
      At program tree policy start session state → (Session.runFor fuel session).HasStopped →
      ∃ outcome, Runs policy block state outcome := by
  induction fuel using Nat.strongRecOn with
  | ind fuel ih =>
      intro block position start session state holds entry place stopped
      cases block with
      | done => exact ⟨.stopped state, .done state⟩
      | act primitive rest =>
          obtain rfl : start = position := entry
          have stepped := place.perform_step holds.1
          cases performed : perform policy state primitive with
          | error abort => exact ⟨_, .abort performed⟩
          | ok next =>
              rw [performed] at stepped
              obtain ⟨after, made, place'⟩ := stepped
              have going := (place.step_eq holds.1).1
              obtain ⟨enough, later⟩ :=
                Session.Steps.hasStopped (.more going made (.none after)) stopped
              obtain ⟨outcome, tail⟩ :=
                ih (fuel - 1) (by omega) holds.2 (.first rest _) place' later
              exact ⟨outcome, .act performed tail⟩
      | loop body rest =>
          obtain ⟨count, atEnd, steps, place⟩ := place.steps_to_end holds entry
          obtain ⟨first, step, place⟩ := place.steps_from_end holds
          -- The step away from the loop end makes the induction apply to the body.
          have toFirst := steps.trans step
          obtain ⟨enough, later⟩ := toFirst.hasStopped stopped
          have fewer : fuel - (count + 1) < fuel := by omega
          by_cases zero : state.current = 0
          · rw [if_pos zero] at place
            obtain ⟨outcome, tail⟩ :=
              ih _ fewer holds.2.2.2.2.2 (.first rest _) place later
            exact ⟨outcome, .skip zero tail⟩
          · rw [if_neg zero] at place
            obtain ⟨inner, bodyRuns⟩ := ih _ fewer holds.2.2.1 (.first body _) place later
            cases inner with
            | aborted abort output => exact ⟨_, .inside zero bodyRuns⟩
            | stopped next =>
                obtain ⟨more, last, bodySteps, place⟩ :=
                  follows_of_runs bodyRuns holds.2.2.1 (.first body _) place
                rw [Nat.add_right_comm] at place
                obtain ⟨_, later⟩ := bodySteps.hasStopped later
                obtain ⟨outcome, whole⟩ := ih _ (by omega) holds (Or.inr rfl) place later
                exact ⟨outcome, .again zero bodyRuns whole⟩

end Simulation

end Structured

/-! ## Whole programs -/

/-- A run shows an outcome: it ended in the final state, or it failed in the same way after the same
bytes were written. -/
def Run.Shows : Run → Structured.Outcome → Prop
  | .ended session, .stopped final => session.Shows final
  | .failed fault session, .aborted abort output =>
    abort.Names fault ∧ session.exchange.output = output
  | _, _ => False

namespace Structured

theorem Abort.eq_of_names {abort other : Abort} {fault : Fault} (names : abort.Names fault)
    (names' : other.Names fault) : abort = other := by
  cases abort with
  | head =>
      cases other with
      | head => rfl
      | transfer =>
          cases fault with
          | head _ => exact names'.elim
          | _ => exact names.elim
  | transfer =>
      cases other with
      | transfer => rfl
      | head =>
          cases fault with
          | head _ => exact names.elim
          | _ => exact names'.elim

end Structured

theorem Run.Shows.hasStopped {run : Run} {outcome : Structured.Outcome}
    (shows : run.Shows outcome) : run.HasStopped := by
  cases run with
  | ended session => trivial
  | failed fault session => trivial
  | unfinished session => exact shows.elim

theorem Run.Shows.unique {run : Run} {outcome other : Structured.Outcome}
    (shows : run.Shows outcome) (shows' : run.Shows other) : outcome = other := by
  cases run with
  | unfinished session => exact shows.elim
  | ended session =>
      cases outcome with
      | aborted abort output => exact shows.elim
      | stopped final =>
          cases other with
          | aborted abort output => exact shows'.elim
          | stopped final' => rw [Session.Shows.unique shows shows']
  | failed fault session =>
      cases outcome with
      | stopped final => exact shows.elim
      | aborted abort output =>
          cases other with
          | stopped final => exact shows'.elim
          | aborted abort' output' =>
              rw [Structured.Abort.eq_of_names shows.1 shows'.1, ← shows.2, ← shows'.2]

namespace Structured

variable {program : Program} {block : Block} {policy : Policy} {session : Session} {state : State}

theorem at_of_create {memory : Memory} {cells : Int} {growable : Flag} {width : CellWidth}
    {machine : Machine}
    (made : Machine.create memory program cells growable width = .ok machine) {input : List UInt8}
    {events : Array Event}
    (loaded : Session.Loaded block ⟨machine, Exchange.ofBytes input, events⟩) :
    At program block ⟨width.bits, growable.isOn⟩ 0 ⟨machine, Exchange.ofBytes input, events⟩
      (State.blank (Machine.startLength cells) input) := by
  obtain ⟨rfl, _⟩ := Machine.create_eq_ok made
  exact
    { loaded := loaded
      program_eq := rfl
      modulus_eq := width.modulus_eq_two_pow
      growable_eq := rfl
      position_eq := rfl
      cells := Tape.cells_blank _
      head := rfl
      output := rfl
      reads := rfl
      writes := rfl }

theorem runs_iff_exists_run (place : At program block policy 0 session state)
    (outcome : Outcome) :
    Runs policy block state outcome ↔ ∃ fuel, (Session.runFor fuel session).Shows outcome := by
  have parsed : program.Parsed block := place.program_eq ▸ place.loaded.parsed
  have shown : ∀ other, Runs policy block state other →
      ∃ fuel, (Session.runFor fuel session).Shows other := by
    intro other runs
    have follows := follows_of_runs runs parsed.holds (.first block 0) place
    cases other with
    | stopped final =>
        obtain ⟨count, last, steps, atEnd⟩ := follows
        have done : last.machine.finished = true := by
          have size := parsed.size_eq
          rw [Machine.finished_eq_true_iff, atEnd.position_eq, atEnd.program_eq]
          omega
        refine ⟨count + 0, ?_⟩
        rw [steps.runFor_add, Session.runFor_of_finished 0 done]
        exact atEnd.shows.record _
    | aborted abort output =>
        obtain ⟨count, reached, fault, last, steps, going, failing, names, output⟩ := follows
        refine ⟨count + 1, ?_⟩
        rw [steps.runFor_add, Session.runFor_of_failing going failing]
        exact ⟨names, output⟩
  refine ⟨shown outcome, ?_⟩
  rintro ⟨fuel, shows⟩
  obtain ⟨other, runs⟩ := exists_outcome fuel parsed.holds (.first block 0) place shows.hasStopped
  obtain ⟨fuel', shows'⟩ := shown other runs
  rw [Session.runFor_eq_of_hasStopped shows'.hasStopped shows.hasStopped] at shows'
  rwa [shows.unique shows']

theorem no_outcome_iff_unfinished (place : At program block policy 0 session state) :
    (¬ ∃ outcome, Runs policy block state outcome) ↔
      ∀ fuel, ∃ last, Session.runFor fuel session = .unfinished last := by
  have parsed : program.Parsed block := place.program_eq ▸ place.loaded.parsed
  constructor
  · intro none fuel
    have going : ¬ (Session.runFor fuel session).HasStopped := fun stopped =>
      none (exists_outcome fuel parsed.holds (.first block 0) place stopped)
    cases run : Session.runFor fuel session with
    | unfinished last => exact ⟨last, rfl⟩
    | ended last =>
        rw [run] at going
        exact (going trivial).elim
    | failed fault last =>
        rw [run] at going
        exact (going trivial).elim
  · rintro forever ⟨outcome, runs⟩
    obtain ⟨fuel, shows⟩ := (runs_iff_exists_run place outcome).mp runs
    obtain ⟨last, run⟩ := forever fuel
    rw [run] at shows
    exact shows.elim

end Structured

/-- A loaded program has one parse tree, and on any input in memory a run of the program ends, fails
or goes on forever as the tree does, in the same final state or after the same output. -/
theorem runs_agree_with_parse_tree {memory : Memory} {source name : String} {program : Program}
    {cells : Int} {growable : Flag} {width : CellWidth} {machine : Machine}
    (loaded : Program.ofSource source name = .ok program)
    (made : Machine.create memory program cells growable width = .ok machine) (input : List UInt8)
    (events : Array Event) :
    (∃! block : Block, block.commands = program.commands) ∧
    ∀ block : Block, block.commands = program.commands →
      (∀ outcome,
        Structured.Runs ⟨width.bits, growable.isOn⟩ block
            (.blank (Machine.startLength cells) input) outcome ↔
          ∃ fuel,
            (Session.runFor fuel ⟨machine, Exchange.ofBytes input, events⟩).Shows outcome) ∧
      ((¬ ∃ outcome,
          Structured.Runs ⟨width.bits, growable.isOn⟩ block
            (.blank (Machine.startLength cells) input) outcome) ↔
        ∀ fuel, ∃ session,
          Session.runFor fuel ⟨machine, Exchange.ofBytes input, events⟩ =
            .unfinished session) := by
  obtain ⟨tree, start⟩ :=
    Session.loaded_of_create loaded made (Exchange.ofBytes input) events
  have place := Structured.at_of_create made start
  have parsed : program.Parsed tree := place.program_eq ▸ start.parsed
  have balanced : Balanced program.commands := parsed.commands ▸ tree.balanced_commands
  refine ⟨balanced.existsUnique_block, ?_⟩
  intro block same
  obtain rfl : block = tree := Block.commands_injective (same.trans parsed.commands.symm)
  exact ⟨Structured.runs_iff_exists_run place, Structured.no_outcome_iff_unfinished place⟩

theorem moving_loop_agrees_with_parse_tree :
    ∃ program machine block, Program.ofSource ",[->+<]>." "move" = .ok program ∧
      Machine.create .ample program 2 (.truth false) .eight = .ok machine ∧
      block.commands = program.commands ∧
      Structured.Runs ⟨8, false⟩ block (.blank 2 [1]) (.stopped ⟨[0, 1], 1, [], [1]⟩) ∧
      ∃ fuel, (Session.runFor fuel ⟨machine, Exchange.ofBytes [1], #[]⟩).Shows
        (.stopped ⟨[0, 1], 1, [], [1]⟩) := by
  let program :=
    Program.assemble (Instruction.scan ",[->+<]>.".toList) [(1, 6)] "move" ",[->+<]>."
  have loaded : Program.ofSource ",[->+<]>." "move" = .ok program := rfl
  let machine : Machine := ⟨program, .eight, .truth false, 2, Tape.blank 2, 0, 0⟩
  have made : Machine.create .ample program 2 (.truth false) .eight = .ok machine := rfl
  let block : Block :=
    .act .input (.loop
      (.act .decrement (.act .right (.act .increment (.act .left .done))))
      (.act .right (.act .output .done)))
  have same : block.commands = program.commands := rfl
  have body : Structured.Runs ⟨8, false⟩
      (.act .decrement (.act .right (.act .increment (.act .left .done))))
      ⟨[1, 0], 0, [], []⟩ (.stopped ⟨[0, 1], 0, [], []⟩) :=
    .act rfl (.act rfl (.act rfl (.act rfl (.done _))))
  have runs : Structured.Runs ⟨8, false⟩ block (.blank 2 [1]) (.stopped ⟨[0, 1], 1, [], [1]⟩) :=
    .act rfl (.again (by decide) body (.skip rfl (.act rfl (.act rfl (.done _)))))
  exact ⟨program, machine, block, loaded, made, same, runs,
    (((runs_agree_with_parse_tree loaded made [1] #[]).2 block same).1 _).mp runs⟩

end TapeMachine
