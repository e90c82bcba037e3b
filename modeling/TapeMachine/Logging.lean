import TapeMachine.Event

/-!
# The activity log

Every event goes to all sinks of the log that listen to it.  Events are of little weight, so only
a log set up in detail writes them.  Setting the log up leaves it with one sink, however many it
had before.
-/

set_option autoImplicit false

namespace TapeMachine

inductive LogLevel where
  | debug
  | warning
  deriving DecidableEq, Repr

namespace LogLevel

def weight : LogLevel → Nat
  | debug => 10
  | warning => 30

end LogLevel

/-- A place to which messages of some weight or more are written, in detail or not. -/
structure LogSink where
  threshold : LogLevel
  detailed : Bool
  deriving DecidableEq, Repr

structure Logging where
  threshold : LogLevel
  sinks : List LogSink
  deriving DecidableEq, Repr

namespace Logging

def initial : Logging := ⟨.warning, []⟩

def thresholdFor (debug : Bool) : LogLevel := if debug then .debug else .warning

def configure (logging : Logging) (debug : Bool) : Logging :=
  let cleared := { logging with sinks := [] }
  { threshold := thresholdFor debug
    sinks := cleared.sinks ++ [⟨thresholdFor debug, debug⟩] }

/-- A line on an event.  In detail it names the channel and the line that the event came from. -/
def line (detailed : Bool) (event : Event) : String :=
  if detailed then
    "DEBUG " ++ event.channel ++ ":" ++ toString event.lineNumber ++ " " ++ event.message ++ "\n"
  else "DEBUG " ++ event.message ++ "\n"

def takesEvents (threshold : LogLevel) : Bool := threshold.weight ≤ LogLevel.debug.weight

def write (logging : Logging) (event : Event) : String :=
  if takesEvents logging.threshold then
    String.join ((logging.sinks.filter fun sink => takesEvents sink.threshold).map fun sink =>
      line sink.detailed event)
  else ""

def writeAll (logging : Logging) (events : List Event) : String :=
  String.join (events.map logging.write)

end Logging

end TapeMachine
