import TapeMachine.CommandLine.Invocation

/-!
# The command line program

Reads the file that the arguments name, runs its program on the standard streams, and passes on
what the library says.
-/

set_option autoImplicit false

namespace TapeMachine.Shell

def troubleOf : IO.Error → FileTrouble
  | .noFileOrDirectory _ _ _ => .missing
  | .inappropriateType _ 20 _ => .notDirectory
  | .inappropriateType _ _ _ => .isDirectory
  | .invalidArgument _ 36 _ => .nameTooLong
  | .permissionDenied _ code text => .other code.toNat text
  | error => .other 5 (toString error)

/-- The bytes of the file that the arguments name, wherever a file is asked for. -/
def readerFor (arguments : List String) : IO FileReader := do
  match CommandLine.Settings.parse arguments with
  | .error _ => return fun _ => .error .missing
  | .ok settings =>
    let path := (Path.ofString settings.filename).text
    let contents : IO ByteArray := do (← IO.FS.Handle.mk path .read).readBinToEnd
    match ← contents.toBaseIO with
    | .ok bytes => return fun _ => .ok bytes.toList
    | .error error => return fun _ => .error (troubleOf error)

def flush (console : CommandLine.Console) : IO Unit := do
  let output ← IO.getStdout
  output.write ⟨console.output.toArray⟩
  output.flush
  (← IO.getStderr).putStr console.errors

/-- The console after its outputs have been written; the journal is for callers who read it. -/
def emptied (console : CommandLine.Console) : CommandLine.Console :=
  { console with output := [], errors := "", journal := [] }

/-- Runs a session step by step.  Input is asked for when the program wants it, and what the
program writes is passed on at once. -/
partial def drive (console : CommandLine.Console) (session : Session) : IO Run := do
  let session ←
    if session.isStarved then
      let bytes ← (← IO.getStdin).read 1
      pure { session with exchange.reads := [.data bytes.toList] }
    else
      pure session
  match session.runFor 1 with
  | .unfinished next =>
    if next.exchange.transcript.isEmpty && next.events.isEmpty then
      drive console next
    else
      flush (console.absorb next)
      drive console { next with exchange.transcript := #[], events := #[] }
  | run => return run

def codeOf : CommandLine.Ending → IO UInt32
  | .returned code | .exited code => return code.toUInt32
  | .crashed crash => do
    (← IO.getStderr).putStr (CommandLine.failureReport crash.message)
    return 1
  | .unfinished => return 1

end TapeMachine.Shell

open TapeMachine in
def main (arguments : List String) : IO UInt32 := do
  let files ← Shell.readerFor arguments
  match CommandLine.prepare .ample files arguments (CommandLine.Console.start []) with
  | .done console ending =>
    Shell.flush console
    Shell.codeOf ending
  | .ready console session =>
    Shell.flush console
    let console := Shell.emptied console
    let run ← Shell.drive console session
    let (console, ending) := console.conclude run
    Shell.flush console
    Shell.codeOf ending
