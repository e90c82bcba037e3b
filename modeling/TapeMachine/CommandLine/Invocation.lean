import TapeMachine.CommandLine.Help
import TapeMachine.CommandLine.Settings
import TapeMachine.Execution
import TapeMachine.Logging

/-!
# Calling the program

A console has an input of which calls take what they read, two outputs to which they add, a log
that they set up anew, and a journal of all events.  A call reads its arguments, loads the file,
runs the program on what is left of the input and ends with a code.  Calls that share a console
share nothing else.
-/

set_option autoImplicit false

namespace TapeMachine.CommandLine

/-- What the calls of one process share. -/
structure Console where
  input : List UInt8
  output : List UInt8
  errors : String
  logging : Logging
  /-- All events so far, whether they are written or not. -/
  journal : List Event
  deriving DecidableEq, Repr

/-- A failure that no text for people is made of. -/
inductive Crash where
  | cellsWithoutNumber
  | failure (cause : Failure)
  deriving DecidableEq, Repr

namespace Crash

def message : Crash → String
  | cellsWithoutNumber => "'<' not supported between instances of 'list' and 'int'"
  | failure cause => cause.message

end Crash

inductive Ending where
  | returned (code : Nat)
  /-- The call ends its process with a code. -/
  | exited (code : Nat)
  | crashed (crash : Crash)
  | unfinished
  deriving DecidableEq, Repr

namespace Console

def start (input : List UInt8) : Console := ⟨input, [], "", Logging.initial, []⟩

def print (console : Console) (bytes : List UInt8) : Console :=
  { console with output := console.output ++ bytes }

def complain (console : Console) (text : String) : Console :=
  { console with errors := console.errors ++ text }

def note (console : Console) (events : List Event) : Console :=
  { console.complain (console.logging.writeAll events) with journal := console.journal ++ events }

/-- Ends a call on a failure: with a text and code one if the failure has a text for people. -/
def fail (console : Console) (failure : Failure) : Console × Ending :=
  if failure.isReport then (console.complain (failureReport failure.message), .returned 1)
  else (console, .crashed (.failure failure))

def refuse (console : Console) (fault : UsageFault) : Console × Ending :=
  (console.complain fault.report, .exited 2)

/-- Takes over what a run did: the input it left, the bytes it wrote and the events it logged. -/
def absorb (console : Console) (session : Session) : Console :=
  let noted := console.note session.events.toList
  { noted.print session.exchange.output with input := session.exchange.unread }

def conclude (console : Console) : Run → Console × Ending
  | .ended session => (console.absorb session, .returned 0)
  | .failed fault session => (console.absorb session).fail (.run fault)
  | .unfinished session => (console.absorb session, .unfinished)

end Console

/-- How far a call gets before its program runs. -/
inductive Preparation where
  | done (console : Console) (ending : Ending)
  | ready (console : Console) (session : Session)

namespace Preparation

def ofEnd (ended : Console × Ending) : Preparation := .done ended.1 ended.2

end Preparation

namespace Settings

def setup (settings : Settings) (cells : Int) : Setup where
  cells := cells
  growable := .truth settings.extensible
  width :=
    match settings.cellBits with
    | some bits => .whole bits
    | none => .sequence

/-- Loads the file that settings name and makes its program a machine, with a given number of
cells. -/
def begin (settings : Settings) (memory : Memory) (files : FileReader) (cells : Int)
    (console : Console) : Preparation :=
  match Program.ofFile files settings.filename Program.usualEncoding with
  | .error fault => .ofEnd (console.fail (.source fault))
  | .ok program =>
    let console := console.note [program.loadedEvent]
    let exchange := Exchange.ofBytes console.input
    match Session.setUp memory program (settings.setup cells) exchange #[] with
    | .error fault => .ofEnd (console.fail (.setup fault))
    | .ok session => .ready console session

end Settings

def prepare (memory : Memory) (files : FileReader) (arguments : List String) (console : Console) :
    Preparation :=
  match Settings.parse arguments with
  | .error .help => .done (console.print help.toUTF8.toList) (.exited 0)
  | .error (.fault fault) => .ofEnd (console.refuse fault)
  | .ok settings =>
    match settings.cells with
    | none => .done console (.crashed .cellsWithoutNumber)
    | some cells =>
      if cells < 0 then .ofEnd (console.refuse .negativeCells)
      else
        let console := { console with logging := console.logging.configure settings.debug }
        settings.begin memory files cells console

/-- One call of the program, with a bound on the steps its run may take. -/
def call (fuel : Nat) (memory : Memory) (files : FileReader) (arguments : List String)
    (console : Console) : Console × Ending :=
  match prepare memory files arguments console with
  | .done console ending => (console, ending)
  | .ready console session => console.conclude (session.runFor fuel)

/-- Calls the program with the same arguments several times, as long as the calls come back. -/
def callRepeatedly (fuel : Nat) (memory : Memory) (files : FileReader) (arguments : List String) :
    Nat → Console → Console × Ending
  | 0, console => (console, .returned 0)
  | 1, console => call fuel memory files arguments console
  | times + 2, console =>
    match call fuel memory files arguments console with
    | (console, .returned _) => callRepeatedly fuel memory files arguments (times + 1) console
    | ended => ended

end TapeMachine.CommandLine
