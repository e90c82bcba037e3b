import Mathlib.Data.List.Forall2
import TapeMachine.Proofs.CommandLine.Agreement

/-!
# Calls of one process

The calls of a process share its streams and its log.  A call sets the log up anew, takes from the
input and adds to the rest, and it looks at nothing that earlier calls have left but at the input.
So it does what it would do in a process of its own that has the rest of the input to read.

Main statement: whatever calls have come back before, a call ends as it would end in a process of
its own and adds the same to the outputs; each of its events is written once, if at all.
-/

set_option autoImplicit false

namespace TapeMachine

/-! ## The text of a log -/

/-- The line of a detailed log for an event. -/
inductive Event.Printed : Event → String → Prop where
  | loaded (name : String) (instructions loops : Nat) :
      Printed (.loaded name instructions loops)
        ("DEBUG bftape.program:98 Loaded " ++ name ++ ": " ++ toString instructions ++
          " instructions, " ++ toString loops ++ " loops\n")
  | built (name : String) (cells : Nat) (width : CellWidth) (growable : Flag) :
      Printed (.built name cells width growable)
        ("DEBUG bftape.vm:43 VM for " ++ name ++ ": " ++ toString cells ++ " u" ++
          toString width.bits ++ " cells, growable=" ++ growable.text ++ "\n")
  | grown (cells : Nat) :
      Printed (.grown cells) ("DEBUG bftape.vm:119 Tape grown to " ++ toString cells ++ " cells\n")
  | finished (name : String) (head : Int) (cells : Nat) :
      Printed (.finished name head cells)
        ("DEBUG bftape.vm:92 Finished " ++ name ++ ": head=" ++ toString head ++
          ", tape length=" ++ toString cells ++ "\n")

/-- The lines that a call writes for its events: one for each in a detailed log, and else none. -/
inductive Logging.Lines : Bool → List Event → List String → Prop where
  | detailed {events : List Event} {lines : List String}
      (printed : List.Forall₂ Event.Printed events lines) : Lines true events lines
  | silent (events : List Event) : Lines false events []

namespace Logging

theorem eq_line_of_printed {event : Event} {text : String} (printed : event.Printed text) :
    text = line true event := by
  -- Each literal is taken apart where the line puts its pieces together.
  cases printed with
  | loaded name instructions loops =>
      have start : "DEBUG bftape.program:98 Loaded " =
          "DEBUG " ++ "bftape.program" ++ ":" ++ toString 98 ++ " " ++ "Loaded " := by decide
      have stop : " loops\n" = " loops" ++ "\n" := by decide
      have message : (Event.loaded name instructions loops).message =
          "Loaded " ++ name ++ ": " ++ toString instructions ++ " instructions, " ++
            toString loops ++ " loops" := rfl
      rw [start, stop, line, if_pos rfl, message]
      simp only [Event.channel, Event.lineNumber, String.append_assoc]
  | built name cells width growable =>
      have start : "DEBUG bftape.vm:43 VM for " =
          "DEBUG " ++ "bftape.vm" ++ ":" ++ toString 43 ++ " " ++ "VM for " := by decide
      have kind : " u" = " " ++ "u" := by decide
      have message : (Event.built name cells width growable).message =
          "VM for " ++ name ++ ": " ++ toString cells ++ " " ++ ("u" ++ toString width.bits) ++
            " cells, growable=" ++ growable.text := rfl
      rw [start, kind, line, if_pos rfl, message]
      simp only [Event.channel, Event.lineNumber, String.append_assoc]
  | grown cells =>
      have start : "DEBUG bftape.vm:119 Tape grown to " =
          "DEBUG " ++ "bftape.vm" ++ ":" ++ toString 119 ++ " " ++ "Tape grown to " := by decide
      have stop : " cells\n" = " cells" ++ "\n" := by decide
      have message : (Event.grown cells).message =
          "Tape grown to " ++ toString cells ++ " cells" := rfl
      rw [start, stop, line, if_pos rfl, message]
      simp only [Event.channel, Event.lineNumber, String.append_assoc]
  | finished name head cells =>
      have start : "DEBUG bftape.vm:92 Finished " =
          "DEBUG " ++ "bftape.vm" ++ ":" ++ toString 92 ++ " " ++ "Finished " := by decide
      have message : (Event.finished name head cells).message =
          "Finished " ++ name ++ ": head=" ++ toString head ++ ", tape length=" ++
            toString cells := rfl
      rw [start, line, if_pos rfl, message]
      simp only [Event.channel, Event.lineNumber, String.append_assoc]

theorem printed_line (event : Event) : event.Printed (line true event) := by
  obtain ⟨text, printed⟩ : ∃ text, event.Printed text := by
    cases event with
    | loaded name instructions loops => exact ⟨_, .loaded name instructions loops⟩
    | built name cells width growable => exact ⟨_, .built name cells width growable⟩
    | grown cells => exact ⟨_, .grown cells⟩
    | finished name head cells => exact ⟨_, .finished name head cells⟩
  rwa [eq_line_of_printed printed] at printed

def text (debug : Bool) (events : List Event) : String :=
  if debug then String.join (events.map (line true)) else ""

theorem exists_lines_text (debug : Bool) (events : List Event) :
    ∃ lines, Lines debug events lines ∧ text debug events = String.join lines := by
  cases debug with
  | false => exact ⟨[], .silent events, rfl⟩
  | true =>
      refine ⟨events.map (line true), .detailed ?_, rfl⟩
      rw [List.forall₂_map_right_iff, List.forall₂_same]
      exact fun event _ => printed_line event

theorem text_append (debug : Bool) (events more : List Event) :
    text debug (events ++ more) = text debug events ++ text debug more := by
  cases debug with
  | false => rfl
  | true => simp [text, String.join_append]

/-- A log has one sink once it is set up, so that it writes an event once or not at all. -/
theorem writeAll_eq_text (logging : Logging) (debug : Bool) (events : List Event) :
    (logging.configure debug).writeAll events = text debug events := by
  cases debug with
  | false => exact CommandLine.writeAll_configure logging events
  | true =>
      have written : (logging.configure true).write = line true := by
        funext event
        change String.join [line true event] = line true event
        simp
      rw [writeAll, written]
      rfl

end Logging

def Execution.log : Execution → List Event
  | refused _ events => events.toList
  | started run => run.session.events.toList

namespace CommandLine

/-! ## What a call writes besides its output -/

/-- A call that logs what an execution logged and writes this log and the report of the failure,
if there is one. -/
structure Records (execution : Execution) (debug : Bool) (called : Console × Ending) : Prop where
  journal : called.1.journal = execution.log
  errors : called.1.errors = Logging.text debug execution.log ++ execution.report
  sink : ∃ sink, called.1.logging.sinks = [sink]

namespace Console

/-- A console of a call that has noted some events and written no more than these. -/
structure HasNoted (debug : Bool) (events : List Event) (console : Console) : Prop where
  logging : ∃ before : Logging, console.logging = before.configure debug
  journal : console.journal = events
  errors : console.errors = Logging.text debug events

variable {debug : Bool} {events : List Event} {console : Console}

theorem HasNoted.sink (noted : HasNoted debug events console) :
    ∃ sink, console.logging.sinks = [sink] := by
  obtain ⟨before, logging⟩ := noted.logging
  exact ⟨_, congrArg Logging.sinks logging⟩

theorem HasNoted.note (noted : HasNoted debug events console) (more : List Event) :
    HasNoted debug (events ++ more) (console.note more) where
  logging := noted.logging
  journal := congrArg (· ++ more) noted.journal
  errors := by
    obtain ⟨before, logging⟩ := noted.logging
    have written : (console.note more).errors = console.errors ++ console.logging.writeAll more :=
      rfl
    rw [written, noted.errors, logging, Logging.writeAll_eq_text, Logging.text_append]

theorem HasNoted.absorb (noted : HasNoted debug events console) (session : Session) :
    HasNoted debug (events ++ session.events.toList) (console.absorb session) := by
  have noted := noted.note session.events.toList
  exact ⟨noted.logging, noted.journal, noted.errors⟩

theorem HasNoted.records (execution : Execution) (noted : HasNoted debug execution.log console)
    (silent : execution.report = "") (ending : Ending) :
    Records execution debug (console, ending) where
  journal := noted.journal
  errors := by
    rw [silent, String.append_empty]
    exact noted.errors
  sink := noted.sink

theorem HasNoted.fail (execution : Execution) (noted : HasNoted debug execution.log console)
    {failure : Failure} (report : execution.report = failure.report) :
    Records execution debug (console.fail failure) := by
  rw [Console.fail]
  by_cases isReport : failure.isReport = true
  · rw [if_pos isReport]
    refine ⟨noted.journal, ?_, noted.sink⟩
    rw [report, Failure.report, if_pos isReport, ← noted.errors]
    rfl
  · rw [if_neg isReport]
    apply noted.records execution
    rw [report, Failure.report, if_neg isReport]

theorem HasNoted.conclude (noted : HasNoted debug events console) {run other : Run}
    (corresponds : run.Corresponds Session.SameBesidesLog other)
    (logged : run.session.events.toList = events ++ other.session.events.toList) :
    Records (.started run) debug (console.conclude other) := by
  have absorbed := noted.absorb other.session
  rw [← logged] at absorbed
  rcases corresponds.cases with ⟨first, second, rfl, rfl, _⟩ |
    ⟨fault, first, second, rfl, rfl, _⟩ | ⟨first, second, rfl, rfl, _⟩
  · exact HasNoted.records (.started (.ended first)) absorbed rfl _
  · exact HasNoted.fail (.started (.failed fault first)) absorbed rfl
  · exact HasNoted.records (.started (.unfinished first)) absorbed rfl _

end Console

theorem Settings.records_begin {settings : Settings} {debug : Bool} {console : Console}
    (noted : console.HasNoted debug []) (fuel : Nat) (memory : Memory) (files : FileReader)
    (cells : Int) :
    Records
      (Execution.ofFile fuel memory files settings.filename Program.usualEncoding
        (settings.setup cells) console.input) debug
      ((settings.begin memory files cells console).finish fuel) := by
  rcases settings.begin_cases fuel memory files cells console with
    ⟨failure, events, refused, called⟩ | ⟨events, session, run, started, called, _, same, logged⟩
  · rw [refused, called]
    exact Console.HasNoted.fail (.refused failure events) (noted.note events.toList) rfl
  · rw [started, called]
    exact (noted.note events).conclude same logged

/-! ## A call behind others -/

namespace Console

/-- The console once a call has added to it what a console of its own holds. -/
def follow (console fresh : Console) : Console where
  input := fresh.input
  output := console.output ++ fresh.output
  errors := console.errors ++ fresh.errors
  logging := fresh.logging
  journal := console.journal ++ fresh.journal

variable (console fresh : Console)

theorem note_follow (events : List Event) :
    (console.follow fresh).note events = console.follow (fresh.note events) := by
  simp [follow, note, complain, String.append_assoc]

theorem absorb_follow (session : Session) :
    (console.follow fresh).absorb session = console.follow (fresh.absorb session) := by
  rw [absorb, note_follow]
  simp [absorb, follow, print]

theorem fail_follow (failure : Failure) :
    (console.follow fresh).fail failure =
      (console.follow (fresh.fail failure).1, (fresh.fail failure).2) := by
  rw [fail, fail]
  split
  · simp [follow, complain, String.append_assoc]
  · rfl

theorem conclude_follow (run : Run) :
    (console.follow fresh).conclude run =
      (console.follow (fresh.conclude run).1, (fresh.conclude run).2) := by
  cases run with
  | ended session => rw [conclude, absorb_follow, conclude]
  | failed fault session => rw [conclude, absorb_follow, fail_follow, conclude]
  | unfinished session => rw [conclude, absorb_follow, conclude]

end Console

theorem Settings.begin_follow (settings : Settings) (memory : Memory) (files : FileReader)
    (cells : Int) (console fresh : Console) (fuel : Nat) :
    (settings.begin memory files cells (console.follow fresh)).finish fuel =
      (console.follow ((settings.begin memory files cells fresh).finish fuel).1,
        ((settings.begin memory files cells fresh).finish fuel).2) := by
  rw [begin, begin]
  cases Program.ofFile files settings.filename Program.usualEncoding with
  | error fault => exact console.fail_follow fresh (.source fault)
  | ok program =>
      simp only [Console.note_follow]
      have input : (console.follow (fresh.note [program.loadedEvent])).input =
          (fresh.note [program.loadedEvent]).input := rfl
      rw [input]
      cases Session.setUp memory program (settings.setup cells)
          (Exchange.ofBytes (fresh.note [program.loadedEvent]).input) #[] with
      | error fault => exact console.fail_follow _ (.setup fault)
      | ok session => exact console.conclude_follow _ (session.runFor fuel)

section Call

variable {arguments : List String} {settings : Settings} {cells : Int}
variable (parsed : Settings.parse arguments = .ok settings)
variable (given : settings.cells = some cells) (nonneg : 0 ≤ cells)
variable (fuel : Nat) (memory : Memory) (files : FileReader)

include parsed given nonneg

/-- A call does what it would do in a process of its own with the same input. -/
theorem call_follow (console : Console) :
    call fuel memory files arguments console =
      (console.follow (call fuel memory files arguments (Console.start console.input)).1,
        (call fuel memory files arguments (Console.start console.input)).2) := by
  have prepared : { console with logging := console.logging.configure settings.debug } =
      console.follow { Console.start console.input with
        logging := Logging.initial.configure settings.debug } := by
    simp [Console.follow, Console.start, Logging.configure]
  rw [call_eq parsed given nonneg, prepared, Settings.begin_follow,
    call_eq parsed given nonneg]
  rfl

theorem records_call (input : List UInt8) :
    Records
      (Execution.ofFile fuel memory files settings.filename Program.usualEncoding
        (settings.setup cells) input) settings.debug
      (call fuel memory files arguments (Console.start input)) := by
  have noted : Console.HasNoted settings.debug []
      { Console.start input with logging := Logging.initial.configure settings.debug } := by
    refine ⟨⟨Logging.initial, rfl⟩, rfl, ?_⟩
    cases settings.debug with
    | false => rfl
    | true => rfl
  rw [call_eq parsed given nonneg]
  exact Settings.records_begin noted fuel memory files cells

end Call

/-! ## The input of a call -/

theorem input_fail (console : Console) (failure : Failure) :
    (console.fail failure).1.input = console.input := by
  rw [Console.fail]
  split
  · rfl
  · rfl

theorem input_conclude (console : Console) (run : Run) :
    (console.conclude run).1.input = run.session.exchange.unread := by
  cases run with
  | ended session | unfinished session => rfl
  | failed fault session => exact input_fail _ _

theorem unread_runFor {session : Session} {bytes : List UInt8}
    (reads : session.exchange.reads = Exchange.answersOf bytes) (fuel : Nat) :
    (session.runFor fuel).session.exchange.unread <:+ bytes := by
  obtain ⟨reached, evolves, _, exchange⟩ := Session.evolves_runFor fuel session
  obtain ⟨asked, _, left, _⟩ := evolves.exists_drop
  have left : reached.exchange.reads = Exchange.answersOf (bytes.drop asked) := by
    rw [left, reads, Exchange.answersOf, Exchange.answersOf, List.map_drop]
  rw [exchange, Exchange.unread_of_answersOf left]
  exact List.drop_suffix asked bytes

theorem input_begin (settings : Settings) (memory : Memory) (files : FileReader) (cells : Int)
    (console : Console) (fuel : Nat) :
    ((settings.begin memory files cells console).finish fuel).1.input <:+ console.input := by
  rcases settings.begin_cases fuel memory files cells console with
    ⟨failure, events, _, called⟩ | ⟨events, session, _, _, called, exchange, _, _⟩
  · rw [called]
    exact ⟨[], input_fail _ failure⟩
  · rw [called, input_conclude]
    exact unread_runFor (congrArg Exchange.reads exchange) fuel

theorem exists_settings_of_returned {fuel : Nat} {memory : Memory} {files : FileReader}
    {arguments : List String} {console : Console} {code : Nat}
    (returned : (call fuel memory files arguments console).2 = .returned code) :
    ∃ settings cells, Settings.parse arguments = .ok settings ∧ settings.cells = some cells ∧
      0 ≤ cells := by
  rw [call, prepare] at returned
  cases parsed : Settings.parse arguments with
  | error stop =>
      cases stop with
      | help => simp [parsed] at returned
      | fault fault =>
          rw [parsed] at returned
          cases returned
  | ok settings =>
      cases given : settings.cells with
      | none => simp [parsed, given] at returned
      | some cells =>
          refine ⟨settings, cells, rfl, given, ?_⟩
          by_contra negative
          simp only [parsed, given] at returned
          rw [if_pos (Int.not_le.mp negative)] at returned
          cases returned

/-! ## Calls one after the other -/

structure Request where
  fuel : Nat
  memory : Memory
  files : FileReader
  arguments : List String

def Request.call (request : Request) (console : Console) : Console × Ending :=
  CommandLine.call request.fuel request.memory request.files request.arguments console

def Request.execution (request : Request) (settings : Settings) (cells : Int)
    (input : List UInt8) : Execution :=
  Execution.ofFile request.fuel request.memory request.files settings.filename
    Program.usualEncoding (settings.setup cells) input

/-- Calls of one process that have all come back with a code. -/
inductive Calls : Console → List (Request × Nat) → Console → Prop where
  | none (console : Console) : Calls console [] console
  | more {console next last : Console} {request : Request} {code : Nat}
      {made : List (Request × Nat)} (called : request.call console = (next, .returned code))
      (after : Calls next made last) : Calls console ((request, code) :: made) last

/-- The same calls in a process of its own each, which reads on in the input where the one before
it has stopped. -/
def alone : List UInt8 → List Request → List (Console × Ending)
  | _, [] => []
  | input, request :: rest =>
    let fresh := request.call (Console.start input)
    fresh :: alone fresh.1.input rest

/-- A call on a console that ends and adds as a call in a fresh process does.  Of each of its events
there is one line if the log is detailed, and none if it is not, and there is one sink when the call
is done. -/
structure AsAlone (console : Console) (execution : Execution) (debug : Bool)
    (called fresh : Console × Ending) : Prop where
  ending : called.2 = fresh.2
  output : called.1.output = console.output ++ fresh.1.output
  errors : called.1.errors = console.errors ++ fresh.1.errors
  input : called.1.input = fresh.1.input
  journal : called.1.journal = console.journal ++ execution.log
  log : ∃ lines, Logging.Lines debug execution.log lines ∧
    fresh.1.errors = String.join lines ++ execution.report
  sink : ∃ sink, called.1.logging.sinks = [sink]

theorem Request.asAlone {request : Request} {settings : Settings} {cells : Int}
    (parsed : Settings.parse request.arguments = .ok settings)
    (given : settings.cells = some cells) (nonneg : 0 ≤ cells) (console : Console) :
    AsAlone console (request.execution settings cells console.input) settings.debug
      (request.call console) (request.call (Console.start console.input)) := by
  have follows := call_follow parsed given nonneg request.fuel request.memory request.files
    console
  have records := records_call parsed given nonneg request.fuel request.memory request.files
    console.input
  obtain ⟨lines, printed, text⟩ := Logging.exists_lines_text settings.debug
    (request.execution settings cells console.input).log
  have errors := records.errors
  rw [Request.execution] at text
  rw [text] at errors
  rw [Request.call, follows]
  exact ⟨rfl, rfl, rfl, rfl, congrArg (console.journal ++ ·) records.journal,
    ⟨lines, printed, errors⟩, records.sink⟩

theorem Request.asAlone_of_returned {request : Request} {console next : Console} {code : Nat}
    (called : request.call console = (next, .returned code)) :
    next.input <:+ console.input ∧ ∃ execution debug,
      AsAlone console execution debug (next, .returned code)
        (request.call (Console.start console.input)) := by
  obtain ⟨settings, cells, parsed, given, nonneg⟩ :=
    exists_settings_of_returned (congrArg Prod.snd called)
  have asAlone := request.asAlone parsed given nonneg console
  have taken := input_begin settings request.memory request.files cells
    { console with logging := console.logging.configure settings.debug } request.fuel
  rw [← call_eq parsed given nonneg] at taken
  change (request.call console).1.input <:+ console.input at taken
  rw [called] at asAlone taken
  exact ⟨taken, _, _, asAlone⟩

section Calls

variable {console last : Console} {made : List (Request × Nat)}

theorem Calls.input (calls : Calls console made last) : last.input <:+ console.input := by
  induction calls with
  | none console => exact List.suffix_rfl
  | more called _ ih =>
      obtain ⟨taken, _⟩ := Request.asAlone_of_returned called
      exact ih.trans taken

theorem Calls.endings (calls : Calls console made last) :
    (alone console.input (made.map Prod.fst)).map Prod.snd =
      made.map fun entry => .returned entry.2 := by
  induction calls with
  | none console => rfl
  | more called _ ih =>
      obtain ⟨_, _, _, asAlone⟩ := Request.asAlone_of_returned called
      rw [List.map_cons, alone, ← asAlone.input, List.map_cons, ih, ← asAlone.ending, List.map_cons]

theorem Calls.output (calls : Calls console made last) :
    last.output = console.output ++
      (alone console.input (made.map Prod.fst)).flatMap fun outcome => outcome.1.output := by
  induction calls with
  | none console => exact (List.append_nil _).symm
  | more called _ ih =>
      obtain ⟨_, _, _, asAlone⟩ := Request.asAlone_of_returned called
      rw [List.map_cons, alone, ← asAlone.input, List.flatMap_cons, ih, asAlone.output,
        List.append_assoc]

theorem Calls.errors (calls : Calls console made last) :
    last.errors = console.errors ++
      String.join ((alone console.input (made.map Prod.fst)).map fun outcome =>
        outcome.1.errors) := by
  induction calls with
  | none console => exact String.append_empty.symm
  | more called _ ih =>
      obtain ⟨_, _, _, asAlone⟩ := Request.asAlone_of_returned called
      rw [List.map_cons, alone, ← asAlone.input, List.map_cons, String.join_cons, ih,
        asAlone.errors, String.append_assoc]

end Calls

/-- Calls that have come back in one process have ended, read and written as in a process of its own
each.  So does every further call whose arguments are taken: it ends as a call in a fresh process
would end that has the rest of the input to read, and adds to the outputs what that call would
write.  A detailed log has one line for each event of the execution, and any other log has none;
and when the call is done, the log has one sink. -/
theorem calls_of_one_process_do_not_leak {input : List UInt8} {made : List (Request × Nat)}
    {console : Console} (calls : Calls (Console.start input) made console) :
    ((alone input (made.map Prod.fst)).map Prod.snd =
        made.map fun entry => Ending.returned entry.2) ∧
      (console.output =
        (alone input (made.map Prod.fst)).flatMap fun outcome => outcome.1.output) ∧
      (console.errors =
        String.join ((alone input (made.map Prod.fst)).map fun outcome => outcome.1.errors)) ∧
      console.input <:+ input ∧
      ∀ (request : Request) (settings : Settings) (cells : Int),
        Settings.parse request.arguments = .ok settings → settings.cells = some cells →
        0 ≤ cells →
          AsAlone console (request.execution settings cells console.input) settings.debug
            (request.call console) (request.call (Console.start console.input)) := by
  refine ⟨calls.endings, calls.output, ?_, calls.input, ?_⟩
  · rw [calls.errors]
    exact String.empty_append
  · intro request settings cells parsed given nonneg
    exact request.asAlone parsed given nonneg console

/-- A call with a detailed log and one without, which passes on the byte that the first has left. -/
theorem second_call_writes_no_log :
    ∃ console,
      Calls (Console.start [65, 66])
        [(⟨9, .ample, fun _ => .ok [44, 46], ["--debug", "-c", "2", "echo"]⟩, 0)] console ∧
      console.output = [65] ∧
      console.errors =
        "DEBUG bftape.program:98 Loaded echo: 2 instructions, 0 loops\n" ++
        "DEBUG bftape.vm:43 VM for echo: 2 u8 cells, growable=False\n" ++
        "DEBUG bftape.vm:92 Finished echo: head=0, tape length=2\n" ∧
      Settings.parse ["-c", "2", "echo"] = .ok ⟨"echo", some 2, false, some 8, false⟩ ∧
      let request : Request := ⟨9, .ample, fun _ => .ok [44, 46], ["-c", "2", "echo"]⟩
      (request.call console).2 = .returned 0 ∧ (request.call console).1.output = [65, 66] ∧
        (request.call console).1.errors = console.errors ∧
        ∃ sink, (request.call console).1.logging.sinks = [sink] := by
  have called : ∃ console,
      call 9 .ample (fun _ => .ok [44, 46]) ["--debug", "-c", "2", "echo"]
        (Console.start [65, 66]) = (console, .returned 0) ∧
      console.output = [65] ∧ console.input = [66] ∧
      console.errors =
        "DEBUG bftape.program:98 Loaded echo: 2 instructions, 0 loops\n" ++
        "DEBUG bftape.vm:43 VM for echo: 2 u8 cells, growable=False\n" ++
        "DEBUG bftape.vm:92 Finished echo: head=0, tape length=2\n" := by
    refine ⟨(call 9 .ample (fun _ => .ok [44, 46]) ["--debug", "-c", "2", "echo"]
      (Console.start [65, 66])).1, ?_⟩
    decide +kernel
  have called' : ∃ console,
      call 9 .ample (fun _ => .ok [44, 46]) ["-c", "2", "echo"] (Console.start [66]) =
        (console, .returned 0) ∧ console.output = [66] ∧ console.errors = "" := by
    refine ⟨(call 9 .ample (fun _ => .ok [44, 46]) ["-c", "2", "echo"] (Console.start [66])).1, ?_⟩
    decide +kernel
  have parsed : Settings.parse ["-c", "2", "echo"] =
    .ok ⟨"echo", some 2, false, some 8, false⟩ := rfl
  let first : Request := ⟨9, .ample, fun _ => .ok [44, 46], ["--debug", "-c", "2", "echo"]⟩
  let second : Request := ⟨9, .ample, fun _ => .ok [44, 46], ["-c", "2", "echo"]⟩
  obtain ⟨console, called, output, rest, errors⟩ := called
  obtain ⟨fresh, called', output', errors'⟩ := called'
  have calls : Calls (Console.start [65, 66]) [(first, 0)] console := .more called (.none console)
  obtain ⟨_, _, _, _, next⟩ := calls_of_one_process_do_not_leak calls
  have asAlone := next second _ 2 parsed rfl (by decide)
  have called' : second.call (Console.start [66]) = (fresh, .returned 0) := called'
  rw [rest, called'] at asAlone
  refine ⟨console, calls, output, errors, parsed, ?_⟩
  intro request
  refine ⟨asAlone.ending, ?_, ?_, asAlone.sink⟩
  · rw [asAlone.output, output, output']
    rfl
  · rw [asAlone.errors, errors', String.append_empty]

end CommandLine

end TapeMachine
