import TapeMachine.Program.Basic

/-!
# Scanning a source text

Every command character of a text becomes an instruction at its own place; every other character
only moves the place along.
-/

set_option autoImplicit false

namespace TapeMachine

/-- How far a scan has come: the next place, and the instructions found, the last one first. -/
structure Scan where
  place : Place
  found : List Instruction

namespace Scan

def start : Scan := ⟨Place.first, []⟩

def visit (scan : Scan) (c : Char) : Scan :=
  let found :=
    match Command.ofChar? c with
    | some command => ⟨command, scan.place⟩ :: scan.found
    | none => scan.found
  ⟨scan.place.after c, found⟩

end Scan

namespace Instruction

def scan (text : List Char) : List Instruction :=
  (text.foldl Scan.visit Scan.start).found.reverse

end Instruction

end TapeMachine
