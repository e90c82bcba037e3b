import TapeMachine.Proofs.CommandLine.Process
import TapeMachine.Proofs.Machine.Growth
import TapeMachine.Proofs.Program.Places

/-!
# The log of an execution

The log of an execution begins with a record on the loaded text, which counts its commands and its
loops, and a record on the new machine.  Every cell that the tape gets has a record of its own, in
the order of the lengths, and a run that comes to the end of the program closes the log.  So the
first and the last length of the tape and the way the run has ended are all that the log depends on.

Main statement: the log of an execution is this list of records.  It is empty when the text is not
loaded, and it ends with the record on the text when memory refuses the tape.
-/

set_option autoImplicit false

namespace TapeMachine

/-! ## How many instructions and loops a program has -/

theorem Block.length_pairs (block : Block) (offset : Nat) :
    (block.pairs offset).length = block.commands.count .loopStart := by
  induction block generalizing offset with
  | done => rfl
  | act primitive rest ih =>
      rw [pairs, commands, ih, List.count_cons_of_ne primitive.command_ne_loopStart]
  | loop body rest bodyIh restIh =>
      simp only [pairs, commands, List.length_append, List.length_cons, bodyIh, restIh,
        List.cons_append, List.count_cons_self, List.count_append]
      rw [List.count_cons_of_ne Command.noConfusion]
      omega

namespace Program

variable {source name : String} {program : Program}

theorem size_of_ofSource (loaded : ofSource source name = .ok program) :
    program.size = source.toList.countP (Command.symbols.contains ·) := by
  obtain ⟨_, _, scanned⟩ := contents_of_ofSource loaded
  have symbols := congrArg List.length (Instruction.map_symbol_scan source.toList)
  rw [List.length_map, ← List.countP_eq_length_filter] at symbols
  rw [size, ← Array.length_toList, scanned, symbols]

theorem loops_of_ofSource (loaded : ofSource source name = .ok program) :
    program.loops = source.toList.count '[' := by
  obtain ⟨pairs, paired, rfl⟩ := pair_of_ofSource loaded
  obtain ⟨block, commands, rfl⟩ := (Brackets.pair_eq_ok_iff _ _).mp paired
  have starts : (fun c => Command.ofChar? c == some .loopStart) = fun c : Char => c == '[' := by
    funext c
    rw [Bool.eq_iff_iff, beq_iff_eq, beq_iff_eq]
    constructor
    · intro read
      exact (Command.symbol_of_ofChar? read).symm
    · rintro rfl
      rfl
  calc (assemble (Instruction.scan source.toList) (block.pairs 0) name source).loops
      = (block.pairs 0).length := Brackets.size_endTable (block.nodup_pairs_starts 0)
    _ = (source.toList.filterMap Command.ofChar?).count .loopStart := by
        rw [block.length_pairs, commands, Instruction.commands_scan]
    _ = source.toList.count '[' := by
        rw [List.count_filterMap, starts, List.count_eq_countP]

end Program

/-! ## The records -/

namespace Record

/-- The record on a loaded text: its command characters are counted, and so are its loop starts. -/
def loaded (source name : String) : String :=
  "Loaded " ++ name ++ ": " ++ toString (source.toList.countP (Command.symbols.contains ·))
    ++ " instructions, " ++ toString (source.toList.count '[') ++ " loops"

def built (name : String) (cells : Nat) (width : CellWidth) (growable : Flag) : String :=
  "VM for " ++ name ++ ": " ++ toString cells ++ " " ++ width.name ++ " cells, growable="
    ++ growable.text

def grown (cells : Nat) : String := "Tape grown to " ++ toString cells ++ " cells"

def finished (name : String) (head : Int) (cells : Nat) : String :=
  "Finished " ++ name ++ ": head=" ++ toString head ++ ", tape length=" ++ toString cells

end Record

def Execution.records (execution : Execution) : List String := execution.log.map Event.message

/-- The record that closes the log, if the run has come to the end of the program. -/
def Run.closing (name : String) : Run → List String
  | ended session => [Record.finished name session.machine.head session.machine.tape.length]
  | failed _ _ | unfinished _ => []

/-- The log of a run that has started on a tape of some length: a record on the text and one on the
machine, one for each length that the tape has grown to, and one on the end of the program. -/
structure Run.Accounts (run : Run) (source name : String) (first : Nat) (width : CellWidth)
    (growable : Flag) (records : List String) : Prop where
  longer : first ≤ run.session.machine.tape.length
  records_eq : records = Record.loaded source name :: Record.built name first width growable ::
    ((List.range' (first + 1) (run.session.machine.tape.length - first)).map Record.grown ++
      run.closing name)

theorem Program.message_loadedEvent {source name : String} {program : Program}
    (loaded : ofSource source name = .ok program) :
    program.loadedEvent.message = Record.loaded source name := by
  rw [loadedEvent, (contents_of_ofSource loaded).1, size_of_ofSource loaded,
    loops_of_ofSource loaded]
  rfl

namespace Run

theorem map_message_news {session : Session} {name : String}
    (named : session.machine.program.name = name) (fuel first : Nat) :
    ((session.runFor fuel).news first).map Event.message =
      (List.range' (first + 1) ((session.runFor fuel).session.machine.tape.length - first)).map
          Record.grown ++ (session.runFor fuel).closing name := by
  obtain ⟨reached, evolves, machine, _⟩ := Session.evolves_runFor fuel session
  have program : (session.runFor fuel).session.machine.program.name = name := by
    rw [machine, evolves.program_eq, named]
  have growths : (growths first (session.runFor fuel).session.machine.tape.length).map
      Event.message =
      (List.range' (first + 1) ((session.runFor fuel).session.machine.tape.length - first)).map
        Record.grown := by
    rw [TapeMachine.growths, List.map_map]
    rfl
  cases run : session.runFor fuel with
  | ended last =>
      rw [run] at program growths
      rw [news, closing, List.map_append, ← program]
      exact congrArg (· ++ [last.machine.finishedEvent.message]) growths
  | failed fault last =>
      rw [run] at growths
      rw [news, closing, List.append_nil]
      exact growths
  | unfinished last =>
      rw [run] at growths
      rw [news, closing, List.append_nil]
      exact growths

end Run

theorem Execution.accounts_ofProgram {memory : Memory} {source name : String} {program : Program}
    (loaded : Program.ofSource source name = .ok program) {session : Session} {width : CellWidth}
    {setup : Setup}
    (made : Machine.create memory program setup.cells setup.growable width = .ok session.machine)
    (events : session.events = #[program.loadedEvent, session.machine.builtEvent]) (fuel : Nat) :
    (session.runFor fuel).Accounts source name (Machine.startLength setup.cells) width
      setup.growable (started (session.runFor fuel)).records := by
  obtain ⟨same, _⟩ := Machine.create_eq_ok made
  have length : session.machine.tape.length = Machine.startLength setup.cells := by
    rw [same]
    rfl
  have named : session.machine.program.name = name := by
    rw [same]
    exact (Program.contents_of_ofSource loaded).1
  constructor
  · obtain ⟨reached, evolves, machine, _⟩ := Session.evolves_runFor fuel session
    rw [machine, ← length]
    exact evolves.length_le
  · have built : session.machine.builtEvent.message =
        Record.built name (Machine.startLength setup.cells) width setup.growable := by
      rw [Machine.builtEvent, named, length, same]
      rfl
    rw [records, log, Session.events_runFor, events, List.map_append, length,
      Run.map_message_news named, ← Program.message_loadedEvent loaded, ← built]
    rfl

/-- What an execution leaves in the log, when its cells have a width and its tape no negative
length.  When the text is not loaded, this is nothing.  When memory refuses the first row of cells,
the execution is refused for this reason, with no more than the record on the loaded text.
Otherwise a run starts, and the log accounts for every cell that its tape has got. -/
theorem log_accounts_for_every_cell (memory : Memory) (source name : String) (setup : Setup)
    {width : CellWidth} (supported : CellWidth.ofRequest setup.width = .ok width)
    (nonneg : 0 ≤ setup.cells) (input : List UInt8) (fuel : Nat) :
    let execution := Execution.ofText fuel memory source name setup input
    let first := if setup.cells = 0 then 30000 else setup.cells.toNat
    (∀ fault, Program.ofSource source name = .error fault → execution.records = []) ∧
    ∀ program, Program.ofSource source name = .ok program →
      (∀ fault, memory.zeros width first = .error fault →
        (∃ events, execution = .refused (.setup (.row fault)) events) ∧
          execution.records = [Record.loaded source name]) ∧
      ∀ row, memory.zeros width first = .ok row →
        ∃ run, execution = .started run ∧
          run.Accounts source name first width setup.growable execution.records := by
  intro execution first
  have length : first = Machine.startLength setup.cells := rfl
  constructor
  · intro fault failed
    simp only [execution, Execution.ofText, failed]
    rfl
  · intro program loaded
    have begun : execution = Execution.ofProgram fuel memory program setup input := by
      simp only [execution, Execution.ofText, loaded]
    rw [begun, length, Execution.ofProgram, Session.setUp, supported]
    simp only
    constructor
    · intro fault refused
      rw [Machine.create, if_neg (Int.not_lt.mpr nonneg)]
      simp only [refused]
      refine ⟨⟨_, rfl⟩, ?_⟩
      rw [← Program.message_loadedEvent loaded]
      rfl
    · intro row given
      cases made : Machine.create memory program setup.cells setup.growable width with
      | error fault =>
          rw [Machine.create, if_neg (Int.not_lt.mpr nonneg)] at made
          simp [given] at made
      | ok machine => exact ⟨_, rfl, Execution.accounts_ofProgram loaded made rfl fuel⟩

/-- Two moves from the only cell of a tape that may grow, a text that is not loaded, and a tape for
which there is no room. -/
theorem log_of_two_moves_on_one_cell :
    let memory := Memory.below 4096 (.noRoom "no room")
    (Execution.ofText 3 memory "> >" "grow" { cells := 1, growable := .truth true } []).records =
        ["Loaded grow: 2 instructions, 0 loops", "VM for grow: 1 u8 cells, growable=True",
          "Tape grown to 2 cells", "Tape grown to 3 cells",
          "Finished grow: head=2, tape length=3"] ∧
      (Execution.ofText 3 memory "> ]" "grow" { cells := 1 } []).records = [] ∧
      (Execution.ofText 3 memory ">" "grow" { cells := 4096 } []).records =
        ["Loaded grow: 1 instructions, 0 loops"] := by
  intro memory
  have supported : CellWidth.ofRequest (.whole 8) = .ok .eight := rfl
  obtain ⟨_, accepted⟩ := log_accounts_for_every_cell memory "> >" "grow"
    { cells := 1, growable := .truth true } supported (by decide) [] 3
  obtain ⟨refused, _⟩ := log_accounts_for_every_cell memory "> ]" "grow" { cells := 1 }
    supported (by decide) [] 3
  obtain ⟨_, cramped⟩ := log_accounts_for_every_cell memory ">" "grow" { cells := 4096 }
    supported (by decide) [] 3
  obtain ⟨run, started, accounts⟩ := (accepted _ rfl).2 _ rfl
  have executed : ∃ last,
      Execution.ofText 3 memory "> >" "grow" { cells := 1, growable := .truth true } [] =
        .started (.ended last) ∧ last.machine.head = 2 ∧ last.machine.tape.length = 3 :=
    ⟨_, rfl, rfl, rfl⟩
  obtain ⟨last, ended, head, length⟩ := executed
  rw [ended, Execution.started.injEq] at started
  subst started
  refine ⟨?_, refused _ rfl, ((cramped _ rfl).1 _ rfl).2⟩
  rw [accounts.records_eq, Run.closing, Run.session, head, length]
  decide

/-- A tape of more cells than any row can have is asked for, and the log has no record on a
machine. -/
theorem endless_tape_leaves_no_machine_record :
    let memory := Memory.below 9223372036854775808 (.badLength "Maximum allowed dimension exceeded")
    CellWidth.ofRequest (.whole 8) = .ok .eight ∧
      (∃ program, Program.ofSource "" Program.unnamed = .ok program) ∧
      ∀ fuel,
        let execution :=
          Execution.ofText fuel memory "" Program.unnamed { cells := 9223372036854775808 } []
        execution.records = ["Loaded <string>: 0 instructions, 0 loops"] ∧
          Record.built Program.unnamed 9223372036854775808 .eight (.truth false) ∉
            execution.records := by
  intro memory
  have records : ∀ fuel,
      (Execution.ofText fuel memory "" Program.unnamed
        { cells := 9223372036854775808 } []).records =
          ["Loaded <string>: 0 instructions, 0 loops"] := by
    intro fuel
    rfl
  refine ⟨rfl, ⟨_, rfl⟩, fun fuel => ⟨records fuel, ?_⟩⟩
  rw [records]
  decide

end TapeMachine
