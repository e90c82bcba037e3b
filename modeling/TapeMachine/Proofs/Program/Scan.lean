import TapeMachine.Program.Scan
import TapeMachine.Proofs.Text.Place

/-!
# Scanned instructions

A scan finds the commands of a text in their order and takes nothing else of it over but the place
of each.  At this place the lines of the text hold the symbol of the command.
-/

set_option autoImplicit false

namespace TapeMachine

theorem Command.symbol_ne_lineFeed (command : Command) : command.symbol ≠ '\n' := by
  cases command <;> decide

namespace Instruction

/-- The instructions of a text whose first character stands at some place. -/
def scanFrom (place : Place) : List Char → List Instruction
  | [] => []
  | c :: rest =>
    match Command.ofChar? c with
    | some command => ⟨command, place⟩ :: scanFrom (place.after c) rest
    | none => scanFrom (place.after c) rest

theorem foldl_visit (text : List Char) (scan : Scan) :
    (text.foldl Scan.visit scan).found.reverse =
      scan.found.reverse ++ scanFrom scan.place text := by
  induction text generalizing scan with
  | nil => exact (List.append_nil _).symm
  | cons c rest ih =>
      rw [List.foldl_cons, ih, Scan.visit, scanFrom]
      cases Command.ofChar? c with
      | none => rfl
      | some command => simp

theorem scan_eq (text : List Char) : scan text = scanFrom Place.first text :=
  foldl_visit text Scan.start

theorem commands_scanFrom (place : Place) (text : List Char) :
    (scanFrom place text).map command = text.filterMap Command.ofChar? := by
  induction text generalizing place with
  | nil => rfl
  | cons c rest ih =>
      rw [scanFrom]
      cases read : Command.ofChar? c with
      | none => rw [List.filterMap_cons_none read, ih]
      | some command => rw [List.filterMap_cons_some read, List.map_cons, ih]

theorem commands_scan (text : List Char) :
    (scan text).map command = text.filterMap Command.ofChar? := by
  rw [scan_eq, commands_scanFrom]

/-- An instruction comes from a character, and its place is the one behind the text before it. -/
theorem exists_of_mem_scanFrom {place : Place} {text : List Char} {instruction : Instruction}
    (member : instruction ∈ scanFrom place text) :
    ∃ before c rest, text = before ++ c :: rest ∧ Command.ofChar? c = some instruction.command ∧
      instruction.place = before.foldl Place.after place := by
  induction text generalizing place with
  | nil => cases member
  | cons c rest ih =>
      have later : instruction ∈ scanFrom (place.after c) rest →
          ∃ before d more, c :: rest = before ++ d :: more ∧
            Command.ofChar? d = some instruction.command ∧
            instruction.place = before.foldl Place.after place := by
        intro inRest
        obtain ⟨before, d, more, rfl, read, stands⟩ := ih inRest
        exact ⟨c :: before, d, more, rfl, read, stands⟩
      rw [scanFrom] at member
      cases read : Command.ofChar? c with
      | none =>
          simp only [read] at member
          exact later member
      | some command =>
          simp only [read, List.mem_cons] at member
          rcases member with rfl | inRest
          · exact ⟨[], c, rest, rfl, read, rfl⟩
          · exact later inRest

theorem characterAt?_of_mem_scan {text : List Char} {instruction : Instruction}
    (member : instruction ∈ scan text) :
    Text.characterAt? text instruction.place = some instruction.command.symbol := by
  rw [scan_eq] at member
  obtain ⟨before, c, rest, rfl, read, stands⟩ := exists_of_mem_scanFrom member
  obtain rfl := Command.symbol_of_ofChar? read
  rw [stands]
  exact Text.characterAt?_afterText instruction.command.symbol_ne_lineFeed before rest

end Instruction

end TapeMachine
