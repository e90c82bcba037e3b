/-!
# Commands

A program is a sequence of eight commands, each written as one character.  A command is read back
from its own character and from no other.
-/

set_option autoImplicit false

namespace TapeMachine

inductive Command where
  | right
  | left
  | increment
  | decrement
  | output
  | input
  | loopStart
  | loopEnd
  deriving DecidableEq, Repr

namespace Command

def all : List Command :=
  [right, left, increment, decrement, output, input, loopStart, loopEnd]

def symbol : Command → Char
  | right => '>'
  | left => '<'
  | increment => '+'
  | decrement => '-'
  | output => '.'
  | input => ','
  | loopStart => '['
  | loopEnd => ']'

def description : Command → String
  | right => "moves the data pointer to the right by one cell."
  | left => "moves the data pointer to the left by one cell."
  | increment => "increases the value stored at the current cell by 1."
  | decrement => "decreases the value stored at the current cell by 1."
  | output => "Outputs the byte at the current data pointer."
  | input => "Accepts a byte of input, and stores the value at the current data pointer."
  | loopStart => "Starts a loop."
  | loopEnd => "Ends a loop."

/-- The character and the description together, as failure texts quote a command. -/
def label (command : Command) : String :=
  command.symbol.toString ++ " : " ++ command.description

/-- The command written as a character; every other character is a comment. -/
def ofChar? : Char → Option Command
  | '>' => some right
  | '<' => some left
  | '+' => some increment
  | '-' => some decrement
  | '.' => some output
  | ',' => some input
  | '[' => some loopStart
  | ']' => some loopEnd
  | _ => none

def ofText? (text : String) : Option Command :=
  match text.toList with
  | [c] => ofChar? c
  | _ => none

theorem ofChar?_symbol (command : Command) : ofChar? command.symbol = some command := by
  cases command <;> rfl

theorem symbol_of_ofChar? {c : Char} {command : Command} (read : ofChar? c = some command) :
    command.symbol = c := by
  unfold ofChar? at read
  split at read <;> simp_all [symbol]
  all_goals subst read; rfl

end Command

end TapeMachine
