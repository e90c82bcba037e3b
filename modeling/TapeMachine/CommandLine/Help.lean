import TapeMachine.CommandLine.Switch

/-!
# Usage and help texts
-/

set_option autoImplicit false

namespace TapeMachine.CommandLine

def programName : String := "bftape"

def usage : String :=
  "usage: bftape [-h] [-c CELLS] [-e] [--cell-bits \x7b8,16,32\x7d] [--debug] filename\n"

def help : String :=
  usage ++ "\n".intercalate
    [ "",
      "Run a Brainfuck program on a byte tape.",
      "",
      "positional arguments:",
      "  filename              Brainfuck source file",
      "",
      "options:",
      "  -h, --help            show this help message and exit",
      "  -c CELLS, --cells CELLS",
      "                        Number of tape cells (default 30000; 0 also means the",
      "                        default)",
      "  -e, --extensible      Grow the tape on demand instead of failing at its end",
      "  --cell-bits \x7b8,16,32\x7d",
      "                        Cell width in bits (default 8)",
      "  --debug               Log loader and VM activity to stderr",
      "" ]

def UsageFault.report (fault : UsageFault) : String :=
  usage ++ programName ++ ": error: " ++ fault.message ++ "\n"

/-- The text on a failure of the program that was to be run. -/
def failureReport (message : String) : String := programName ++ ": " ++ message ++ "\n"

end TapeMachine.CommandLine
