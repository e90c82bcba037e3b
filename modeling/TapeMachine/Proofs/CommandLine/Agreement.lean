import TapeMachine.CommandLine.Invocation
import TapeMachine.Proofs.CommandLine.DetailedLog
import TapeMachine.Proofs.Execution
import TapeMachine.Proofs.Machine.Growth

/-!
# The command line and the library

A call of the program and an execution of the same file do the same work with different logs.  The
outputs and the ending of the call are therefore read off the execution.

Main statement: a call that runs a program puts out what the execution wrote, ends as it ended, and
reports its failure; asking for the log in detail changes none of this but the log.
-/

set_option autoImplicit false

namespace TapeMachine

/-! ## What a call makes of an execution -/

namespace Failure

def ending (failure : Failure) : CommandLine.Ending :=
  if failure.isReport then .returned 1 else .crashed (.failure failure)

def report (failure : Failure) : String :=
  if failure.isReport then "bftape: " ++ failure.message ++ "\n" else ""

end Failure

namespace Execution

def written : Execution → List UInt8
  | refused _ _ => []
  | started run => run.session.exchange.output

def ending : Execution → CommandLine.Ending
  | refused failure _ => failure.ending
  | started (.ended _) => .returned 0
  | started (.failed fault _) => (Failure.run fault).ending
  | started (.unfinished _) => .unfinished

def report : Execution → String
  | refused failure _ => failure.report
  | started (.failed fault _) => (Failure.run fault).report
  | started _ => ""

end Execution

theorem Session.setUp_eq_ok {memory : Memory} {program : Program} {setup : Setup}
    {exchange : Exchange} {events : Array Event} {session : Session}
    (made : setUp memory program setup exchange events = .ok session) :
    session.exchange = exchange ∧
      session.events.toList = events.toList ++ [session.machine.builtEvent] := by
  rw [setUp] at made
  cases requested : CellWidth.ofRequest setup.width with
  | error fault => simp [requested] at made
  | ok width =>
      cases created : Machine.create memory program setup.cells setup.growable width with
      | error fault => simp [requested, created] at made
      | ok machine =>
          simp only [requested, created, Except.ok.injEq] at made
          subst made
          exact ⟨rfl, Array.toList_push⟩

namespace CommandLine

/-- A call that puts out what an execution wrote, ends as it ended and reports its failure, with
nothing but the log before the report. -/
structure Reflects (execution : Execution) (debug : Bool) (called : Console × Ending) : Prop where
  output : called.1.output = execution.written
  ending : called.2 = execution.ending
  errors : ∃ log, called.1.errors = log ++ execution.report ∧ (debug = false → log = "")

/-! ## The console during a call -/

theorem writeAll_configure (logging : Logging) (events : List Event) :
    (logging.configure false).writeAll events = "" := by
  rw [Logging.writeAll]
  induction events with
  | nil => rfl
  | cons event rest ih => exact ih

namespace Console

/-- A console of a call that has put out some bytes and, apart from the log, no text. -/
structure Holds (debug : Bool) (output : List UInt8) (console : Console) : Prop where
  logging : ∃ before : Logging, console.logging = before.configure debug
  output : console.output = output
  quiet : debug = false → console.errors = ""

variable {debug : Bool} {output : List UInt8} {console : Console}

theorem Holds.note (holds : Holds debug output console) (events : List Event) :
    Holds debug output (console.note events) where
  logging := holds.logging
  output := holds.output
  quiet := by
    rintro rfl
    obtain ⟨before, logging⟩ := holds.logging
    change console.errors ++ console.logging.writeAll events = ""
    rw [holds.quiet rfl, logging, writeAll_configure]
    rfl

theorem Holds.absorb (holds : Holds debug [] console) (session : Session) :
    Holds debug session.exchange.output (console.absorb session) where
  logging := holds.logging
  output := by
    change console.output ++ session.exchange.output = _
    rw [holds.output, List.nil_append]
  quiet := (holds.note session.events.toList).quiet

theorem Holds.fail (holds : Holds debug output console) {failure : Failure}
    {execution : Execution} (written : execution.written = output)
    (ending : execution.ending = failure.ending) (report : execution.report = failure.report) :
    Reflects execution debug (console.fail failure) := by
  rw [Console.fail]
  by_cases isReport : failure.isReport = true
  · rw [if_pos isReport]
    refine ⟨holds.output.trans written.symm, ?_, console.errors, ?_, holds.quiet⟩
    · rw [ending, Failure.ending, if_pos isReport]
    · rw [report, Failure.report, if_pos isReport]
      rfl
  · rw [if_neg isReport]
    refine ⟨holds.output.trans written.symm, ?_, console.errors, ?_, holds.quiet⟩
    · rw [ending, Failure.ending, if_neg isReport]
    · rw [report, Failure.report, if_neg isReport, String.append_empty]

/-- The end of a call reflects the run of the library whose sessions differ in their logs only. -/
theorem Holds.conclude (holds : Holds debug [] console) {run other : Run}
    (corresponds : run.Corresponds Session.SameBesidesLog other) :
    Reflects (.started run) debug (console.conclude other) := by
  have written {first second : Session} (same : first.SameBesidesLog second) :
      first.exchange.output = second.exchange.output :=
    congrArg Exchange.output same.exchange.symm
  rcases corresponds.cases with ⟨first, second, rfl, rfl, same⟩ |
    ⟨fault, first, second, rfl, rfl, same⟩ | ⟨first, second, rfl, rfl, same⟩
  · have absorbed := holds.absorb second
    refine ⟨absorbed.output.trans (written same).symm, rfl, _, ?_, absorbed.quiet⟩
    exact (String.append_empty).symm
  · exact (holds.absorb second).fail (written same) rfl rfl
  · have absorbed := holds.absorb second
    refine ⟨absorbed.output.trans (written same).symm, rfl, _, ?_, absorbed.quiet⟩
    exact (String.append_empty).symm

end Console

/-! ## Loading and running -/

theorem exists_source_of_ofFile {files : FileReader} {path encoding : String} {program : Program}
    (loaded : Program.ofFile files path encoding = .ok program) :
    ∃ source, Program.ofSource source path = .ok program := by
  rw [Program.ofFile] at loaded
  cases read : Program.readSource files path encoding with
  | error fault => simp [read] at loaded
  | ok source =>
      simp only [read] at loaded
      cases made : Program.ofSource source path with
      | error fault =>
          rw [made] at loaded
          cases loaded
      | ok program' =>
          rw [made] at loaded
          exact ⟨source, made.trans (congrArg _ (Except.ok.inj loaded))⟩

def Preparation.finish (fuel : Nat) : Preparation → Console × Ending
  | done console ending => (console, ending)
  | ready console session => console.conclude (session.runFor fuel)

theorem Console.note_nil (console : Console) : console.note [] = console := by
  simp [Console.note, Console.complain, Logging.writeAll]

/-- What becomes of a call once its log is set up, and of the execution of the same file by the
library: the program is refused by both, or both run it, and what the library has in its session by
then is in the console and in the session of the call. -/
theorem Settings.begin_cases (settings : Settings) (fuel : Nat) (memory : Memory)
    (files : FileReader) (cells : Int) (console : Console) :
    let execution := Execution.ofFile fuel memory files settings.filename Program.usualEncoding
      (settings.setup cells) console.input
    let called := (settings.begin memory files cells console).finish fuel
    (∃ failure events, execution = .refused failure events ∧
      called = (console.note events.toList).fail failure) ∨
    ∃ (events : List Event) (session : Session) (run : Run), execution = .started run ∧
      called = (console.note events).conclude (session.runFor fuel) ∧
      session.exchange = Exchange.ofBytes console.input ∧
      run.Corresponds Session.SameBesidesLog (session.runFor fuel) ∧
      run.session.events.toList = events ++ (session.runFor fuel).session.events.toList := by
  simp only [Execution.ofFile, Settings.begin]
  cases loaded : Program.ofFile files settings.filename Program.usualEncoding with
  | error fault =>
      refine Or.inl ⟨_, #[], rfl, ?_⟩
      rw [Console.note_nil]
      rfl
  | ok program =>
      simp only
      have input : (console.note [program.loadedEvent]).input = console.input := rfl
      rw [Execution.ofProgram, input]
      -- The library keeps the event of loading in the session, the call in its console.
      rcases Session.setUp_relaid (.refl program) memory (settings.setup cells)
        (Exchange.ofBytes console.input) #[program.loadedEvent] #[] with
          ⟨fault, first, second⟩ | ⟨width, session, session', first, second, made, same, twins⟩
      · rw [first, second]
        exact Or.inl ⟨_, _, rfl, rfl⟩
      · rw [first, second]
        obtain ⟨source, parsed⟩ := exists_source_of_ofFile loaded
        obtain ⟨block, start⟩ :=
          Session.loaded_of_create parsed made session.exchange session.events
        have program_eq : session.machine.program = program :=
          congrArg Machine.program (Machine.create_eq_ok made).1
        have same := twins.sameBesidesLog (same.trans program_eq.symm)
        have corresponds := same.run start fuel
        obtain ⟨exchange, events⟩ := Session.setUp_eq_ok second
        refine Or.inr ⟨_, session', _, rfl, rfl, exchange, corresponds, ?_⟩
        rw [Session.events_runFor, Session.events_runFor, Run.news_eq_of_corresponds corresponds,
          (Session.setUp_eq_ok first).2, events, same.machine]
        simp

theorem Settings.reflects_begin {settings : Settings} {debug : Bool} {console : Console}
    (holds : console.Holds debug []) (fuel : Nat) (memory : Memory) (files : FileReader)
    (cells : Int) :
    Reflects
      (Execution.ofFile fuel memory files settings.filename Program.usualEncoding
        (settings.setup cells) console.input) debug
      ((settings.begin memory files cells console).finish fuel) := by
  rcases settings.begin_cases fuel memory files cells console with
    ⟨failure, events, refused, called⟩ | ⟨events, session, run, started, called, _, same, _⟩
  · rw [refused, called]
    exact (holds.note events.toList).fail rfl rfl rfl
  · rw [started, called]
    exact (holds.note events).conclude same

/-! ## Calls -/

section Call

variable {arguments : List String} {settings : Settings} {cells : Int}
variable (parsed : Settings.parse arguments = .ok settings)
variable (given : settings.cells = some cells) (nonneg : 0 ≤ cells)

include parsed given nonneg

theorem call_eq (fuel : Nat) (memory : Memory) (files : FileReader) (console : Console) :
    call fuel memory files arguments console =
      (settings.begin memory files cells
        { console with logging := console.logging.configure settings.debug }).finish fuel := by
  rw [call, prepare, parsed]
  simp only [given, if_neg (Int.not_lt.mpr nonneg)]
  cases settings.begin memory files cells
    { console with logging := console.logging.configure settings.debug } with
  | done console ending => rfl
  | ready console session => rfl

theorem reflects_call (fuel : Nat) (memory : Memory) (files : FileReader) (input : List UInt8) :
    Reflects
      (Execution.ofFile fuel memory files settings.filename Program.usualEncoding
        (settings.setup cells) input) settings.debug
      (call fuel memory files arguments (Console.start input)) := by
  have holds : Console.Holds settings.debug []
      { Console.start input with logging := Logging.initial.configure settings.debug } :=
    ⟨⟨Logging.initial, rfl⟩, rfl, fun _ => rfl⟩
  rw [call_eq parsed given nonneg]
  exact Settings.reflects_begin holds fuel memory files cells

end Call

theorem Settings.setup_eq (settings : Settings) (cells : Int) :
    settings.setup cells =
      { cells := cells
        growable := .truth settings.extensible
        width := (settings.cellBits.map WidthRequest.whole).getD .sequence } := by
  rw [setup]
  cases settings.cellBits <;> rfl

/-- A call whose arguments ask for a number of cells that is not negative reflects the execution of
the same file by the library, with the same bytes to read and the same setup.  The switch for a
detailed log changes no other setting, and however the log is asked for, the output and the ending
of the call stay the same. -/
theorem command_line_agrees_with_library {arguments : List String} {settings : Settings}
    {cells : Int} (parsed : Settings.parse arguments = .ok settings)
    (given : settings.cells = some cells) (nonneg : 0 ≤ cells) (fuel : Nat) (memory : Memory)
    (files : FileReader) (input : List UInt8) :
    Reflects
      (Execution.ofFile fuel memory files settings.filename Program.usualEncoding
        { cells := cells
          growable := .truth settings.extensible
          width := (settings.cellBits.map WidthRequest.whole).getD .sequence } input)
      settings.debug (call fuel memory files arguments (Console.start input)) ∧
    Settings.parse ("--debug" :: arguments) = .ok settings.detailed ∧
    ∀ others debug, Settings.parse others = .ok { settings with debug := debug } →
      (call fuel memory files others (Console.start input)).1.output =
        (call fuel memory files arguments (Console.start input)).1.output ∧
      (call fuel memory files others (Console.start input)).2 =
        (call fuel memory files arguments (Console.start input)).2 := by
  have reflects := reflects_call parsed given nonneg fuel memory files input
  refine ⟨?_, ?_, ?_⟩
  · rw [← Settings.setup_eq]
    exact reflects
  · rw [Settings.parse_debug_cons, parsed]
    rfl
  · intro others debug parsed'
    have given' : { settings with debug := debug }.cells = some cells := given
    have reflects' := reflects_call parsed' given' nonneg fuel memory files input
    exact ⟨reflects'.output.trans reflects.output.symm, reflects'.ending.trans reflects.ending.symm⟩

/-- A call that passes on one byte and finds no second one to read. -/
theorem call_reads_past_the_end :
    Settings.parse ["-c", "2", "echo"] = .ok ⟨"echo", some 2, false, some 8, false⟩ ∧
      (call 9 .ample (fun _ => .ok [44, 46, 44]) ["-c", "2", "echo"]
        (Console.start [65])).1.output = [65] ∧
      (call 9 .ample (fun _ => .ok [44, 46, 44]) ["-c", "2", "echo"]
        (Console.start [65])).2 = .returned 1 ∧
      (call 9 .ample (fun _ => .ok [44, 46, 44]) ["--debug", "-c", "2", "echo"]
        (Console.start [65])).1.output = [65] := by
  have parsed : Settings.parse ["-c", "2", "echo"] =
    .ok ⟨"echo", some 2, false, some 8, false⟩ := rfl
  obtain ⟨reflects, detailed, same⟩ := command_line_agrees_with_library parsed rfl (by decide) 9
    .ample (fun _ => .ok [44, 46, 44]) [65]
  let program := Program.assemble (Instruction.scan ",.,".toList) [] "echo" ",.,"
  have loaded : Program.ofFile (fun _ => .ok [44, 46, 44]) "echo" Program.usualEncoding =
    .ok program := rfl
  have executed : ∃ fault session,
      Execution.ofFile 9 .ample (fun _ => .ok [44, 46, 44]) "echo" Program.usualEncoding
          { cells := 2, growable := .truth false, width := .whole 8 } [65] =
        .started (.failed (.transfer fault) session) ∧ session.exchange.output = [65] := by
    rw [Execution.ofFile, loaded]
    exact ⟨_, _, rfl, rfl⟩
  obtain ⟨fault, session, executed, output⟩ := executed
  have reflects : Reflects (.started (.failed (.transfer fault) session)) false
    (call 9 .ample (fun _ => .ok [44, 46, 44]) ["-c", "2", "echo"] (Console.start [65])) :=
    executed ▸ reflects
  have written := reflects.output.trans output
  exact ⟨parsed, written, reflects.ending, (same _ true detailed).1.trans written⟩

end CommandLine

end TapeMachine
