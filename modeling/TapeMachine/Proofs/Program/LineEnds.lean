import TapeMachine.Program.Source
import TapeMachine.Proofs.Program.Scan
import TapeMachine.Proofs.Text.Newline

/-!
# Line ends and places

A carriage return with a line feed behind it is the last character of its line and no command.  So
it may be taken out of a text without moving a command to another place.
-/

set_option autoImplicit false

namespace TapeMachine

namespace Instruction

theorem scanFrom_return (place : Place) (rest : List Char) :
    scanFrom place ('\r' :: rest) = scanFrom (place.after '\r') rest := rfl

theorem scanFrom_lineFeed (place : Place) (rest : List Char) :
    scanFrom place ('\n' :: rest) = scanFrom ⟨place.line + 1, 1⟩ rest := rfl

/-- Unifying line ends leaves all instructions at their places, if no carriage return is alone. -/
theorem scanFrom_unifyLineEnds {text : List Char} (paired : Text.ReturnsPaired text)
    (place : Place) : scanFrom place (Text.unifyLineEnds text) = scanFrom place text := by
  induction text generalizing place with
  | nil => rfl
  | cons c rest ih =>
      by_cases returns : c = '\r'
      · subst returns
        obtain ⟨more, rfl⟩ := paired.exists_of_return
        -- Whatever the column of the carriage return is, the line feed goes to the next line.
        calc
          scanFrom place (Text.unifyLineEnds ('\r' :: '\n' :: more))
              = scanFrom place (Text.unifyLineEnds ('\n' :: more)) := by
                rw [Text.unifyLineEnds_pair, Text.unifyLineEnds_lineFeed]
          _ = scanFrom place ('\n' :: more) := ih paired.tail place
          _ = scanFrom place ('\r' :: '\n' :: more) := by
                rw [scanFrom_return, scanFrom_lineFeed, scanFrom_lineFeed]
                rfl
      · rw [Text.unifyLineEnds_of_ne returns, scanFrom, scanFrom]
        cases Command.ofChar? c with
        | none => exact ih paired.tail _
        | some command => exact congrArg (List.cons _) (ih paired.tail _)

theorem scan_unifyLineEnds {text : List Char} (paired : Text.ReturnsPaired text) :
    scan (Text.unifyLineEnds text) = scan text := by
  rw [scan_eq, scan_eq, scanFrom_unifyLineEnds paired]

end Instruction

namespace Program

/-- How a text is loaded, but for the text itself, depends on its instructions only. -/
theorem ofSource_of_scan_eq {source other : String}
    (same : Instruction.scan other.toList = Instruction.scan source.toList) (name : String) :
    ofSource other name =
      match ofSource source name with
      | .ok program => .ok { program with source := other }
      | .error fault => .error { fault with source := other } := by
  rw [ofSource, ofSource, same]
  cases Brackets.pair (Instruction.scan source.toList) with
  | ok pairs => rfl
  | error unpaired =>
      cases unpaired with
      | start instruction => rfl
      | finish instruction => rfl

end Program

end TapeMachine
