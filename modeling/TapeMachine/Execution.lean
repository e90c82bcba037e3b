import TapeMachine.File.Program
import TapeMachine.Machine.Run
import TapeMachine.Machine.Setup

/-!
# Executing a program from start to end

A program is loaded from a text or from a file, gets a machine of the wanted setup, and runs on bytes
in memory.  The setup is looked at after loading.
-/

set_option autoImplicit false

namespace TapeMachine

structure Summary where
  output : List UInt8
  head : Int
  tapeLength : Nat
  position : Int
  deriving DecidableEq, Repr

namespace Summary

def ofSession (session : Session) : Summary :=
  ⟨session.exchange.output, session.machine.head, session.machine.tape.length,
    session.machine.position⟩

end Summary

inductive Failure where
  | source (fault : SourceFault)
  | setup (fault : SetupFault)
  | run (fault : Fault)
  deriving DecidableEq, Repr

namespace Failure

/-- Whether the failure is one made for people to read, and not a misuse. -/
def isReport : Failure → Bool
  | source fault => fault.isReport
  | setup _ => false
  | run fault => fault.isReport

def message : Failure → String
  | source fault => fault.message
  | setup fault => fault.message
  | run fault => fault.message

end Failure

inductive Execution where
  | refused (failure : Failure) (events : Array Event)
  | started (run : Run)

namespace Program

def loadedEvent (program : Program) : Event :=
  .loaded program.name program.size program.loops

end Program

namespace Execution

def ofProgram (fuel : Nat) (memory : Memory) (program : Program) (setup : Setup)
    (input : List UInt8) : Execution :=
  let events := #[program.loadedEvent]
  match Session.setUp memory program setup (Exchange.ofBytes input) events with
  | .error fault => .refused (.setup fault) events
  | .ok session => .started (session.runFor fuel)

def ofText (fuel : Nat) (memory : Memory) (source name : String) (setup : Setup)
    (input : List UInt8) : Execution :=
  match Program.ofSource source name with
  | .error fault => .refused (.source (.unmatched fault)) #[]
  | .ok program => ofProgram fuel memory program setup input

def ofFile (fuel : Nat) (memory : Memory) (files : FileReader) (path encoding : String)
    (setup : Setup) (input : List UInt8) : Execution :=
  match Program.ofFile files path encoding with
  | .error fault => .refused (.source fault) #[]
  | .ok program => ofProgram fuel memory program setup input

end Execution

end TapeMachine
