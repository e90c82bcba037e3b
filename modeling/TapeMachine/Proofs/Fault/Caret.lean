import TapeMachine.Proofs.Machine.Location
import TapeMachine.Proofs.Program.Places
import TapeMachine.Proofs.Program.Unmatched
import TapeMachine.Proofs.Text.Excerpt

/-!
# Where carets stand

The row of a caret leaves room for a line number of four digits, and the row above it takes as much
room as its number needs.  So the caret stands under its character as long as the number has no
more than four digits, and from then on one column short for each digit more.

Main statement: the carets of the failures to load a source and of the failures to move the head
stand under the characters they point at exactly on the lines before the ten thousandth.
-/

set_option autoImplicit false

namespace TapeMachine

namespace Text

/-! ## The marked row and the caret -/

def IsMarked (row : String) : Prop := row.toList.head? = some '>'

/-- An excerpt has one row with a marker only, and the caret has the row right behind it. -/
structure Marks (excerpt marked caret : String) : Prop where
  marker : IsMarked marked
  rows : ∃ above below, lines excerpt = above ++ marked :: caret :: below ∧
    ∀ row ∈ above ++ caret :: below, ¬ IsMarked row

/-- A row ends with a line, and the row of a caret ends some columns before the offset at which the
first row shows the character in a column of that line. -/
structure Aims (marked caret line : String) (column : Int) (c : Char) (short : Nat) : Prop where
  ends : line.toList <:+ marked.toList
  tip : caret.toList.getLast? = some '^'
  column_pos : 1 ≤ column
  offset : ∃ offset, offset + line.length = marked.length + (column - 1).toNat ∧
    marked.toList[offset]? = some c ∧ caret.length + short = offset + 1

/-- In an excerpt from a source, the caret for a place stands some columns left of the character
there. -/
def CaretShort (short : Nat) (excerpt source : String) (place : Place) (c : Char) : Prop :=
  ∃ marked caret line, Marks excerpt marked caret ∧
    (lines source)[(place.line - 1).toNat]? = some line ∧
    Aims marked caret line place.column c short

theorem Marks.unique {excerpt marked caret marked' caret' : String}
    (marks : Marks excerpt marked caret) (marks' : Marks excerpt marked' caret') :
    marked = marked' ∧ caret = caret' := by
  obtain ⟨above, below, rows, others⟩ := marks.rows
  obtain ⟨above', below', rows', _⟩ := marks'.rows
  have elsewhere : marked' ∉ above ++ caret :: below := fun member =>
    others marked' member marks'.marker
  obtain ⟨notAbove, notBelow⟩ := not_or.mp (mt List.mem_append.mpr elsewhere)
  rw [rows, List.append_cons_inj_of_notMem notAbove notBelow] at rows'
  obtain ⟨_, same, rest⟩ := rows'
  exact ⟨same, (List.cons.inj rest).1⟩

theorem CaretShort.unique {short short' : Nat} {excerpt source : String} {place : Place}
    {c c' : Char} (stands : CaretShort short excerpt source place c)
    (stands' : CaretShort short' excerpt source place c') : short = short' := by
  obtain ⟨marked, caret, line, marks, held, aims⟩ := stands
  obtain ⟨marked', caret', line', marks', held', aims'⟩ := stands'
  obtain ⟨rfl, rfl⟩ := marks.unique marks'
  obtain rfl := Option.some.inj (held.symm.trans held')
  obtain ⟨offset, stands, _, ends⟩ := aims.offset
  obtain ⟨offset', stands', _, ends'⟩ := aims'.offset
  omega

theorem isMarked_excerptRow (focused : Bool) (number : Nat) (line : String) :
    IsMarked (excerptRow focused number line) ↔ focused = true := by
  rw [IsMarked, toList_excerptRow]
  cases focused <;> simp [gutter]

theorem not_isMarked_caretRow (column : Int) : ¬ IsMarked (caretRow column) := by
  rw [IsMarked, toList_caretRow]
  simp [indent, List.replicate_succ]

theorem aims_excerptRow {line : String} {column : Int} {c : Char} (positive : 1 ≤ column)
    (found : line.toList[(column - 1).toNat]? = some c) (number : Nat) :
    Aims (excerptRow true number line) (caretRow column) line column c (digits number - 4) := by
  have row := toList_excerptRow true number line
  have front := length_gutter true number
  have whole : (excerptRow true number line).length = (gutter true number).length + line.length := by
    rw [← String.length_toList, row, List.length_append, String.length_toList]
  have caret : (caretRow column).length = 9 + (column - 1).toNat + 1 := by
    rw [← String.length_toList, toList_caretRow, List.length_append, length_indent]
    rfl
  refine ⟨⟨_, row.symm⟩, ?_, positive, (gutter true number).length + (column - 1).toNat, ?_, ?_,
    ?_⟩
  · rw [toList_caretRow, List.getLast?_concat]
  · omega
  · rw [row, List.getElem?_append_right (Nat.le_add_right _ _), Nat.add_sub_cancel_left, found]
  · omega

/-! ## The excerpt as a whole -/

theorem not_isMarked_of_mem_plainRows {lines : List String} {number : Nat} {focus margin : Int}
    {row : String} (member : row ∈ plainRows lines number focus margin) : ¬ IsMarked row := by
  obtain ⟨entry, _, rfl⟩ := List.mem_map.mp member
  simp [isMarked_excerptRow]

theorem marks_excerpt {before after : List String} {line : String} {column margin : Int}
    (plain : ∀ row ∈ before ++ line :: after, '\n' ∉ row.toList) (positive : 1 ≤ column)
    (nonneg : 0 ≤ margin) :
    Marks (excerpt (before ++ line :: after) (before.length + 1) column margin)
      (excerptRow true (before.length + 1) line) (caretRow column) := by
  have focus : focusLine (before ++ line :: after).length (before.length + 1) =
      before.length + 1 := by
    rw [focusLine, List.length_append, List.length_cons]
    omega
  have rows : excerptRows (before ++ line :: after) (before.length + 1) column margin =
      plainRows before 1 (before.length + 1) margin ++
        excerptRow true (before.length + 1) line ::
          caretRow column :: plainRows after (before.length + 2) (before.length + 1) margin := by
    rw [excerptRows_eq focus nonneg, if_pos (by omega), List.singleton_append]
  have shown := lines_excerpt plain (by rw [rows]; simp)
  refine ⟨(isMarked_excerptRow true _ line).mpr rfl, _, _, shown.trans rows, ?_⟩
  intro row member
  rcases List.mem_append.mp member with above | below
  · exact not_isMarked_of_mem_plainRows above
  · rcases List.mem_cons.mp below with rfl | below
    · exact not_isMarked_caretRow column
    · exact not_isMarked_of_mem_plainRows below

/-- An excerpt around a place of its source has a caret that is short by the digits that the line
number has beyond four, and so a right one up to line 9999. -/
structure CaretFor (excerpt source : String) (place : Place) (c : Char) : Prop where
  short : CaretShort (digits place.line.toNat - 4) excerpt source place c
  under_iff : CaretShort 0 excerpt source place c ↔ place.line < 10000

theorem caretFor_excerpt {source : String} {place : Place} {c : Char}
    (holds : place.Holds (lines source) c) :
    CaretFor (excerpt (lines source) place.line place.column usualMargin) source place c := by
  obtain ⟨line, held, _, found⟩ := holds.character
  obtain ⟨before, after, whole, count⟩ := exists_append_of_getElem? held
  have positive := holds.line_pos
  have number : (before.length : Int) + 1 = place.line := by omega
  have number' : place.line.toNat = before.length + 1 := by omega
  have plain : ∀ row ∈ before ++ line :: after, '\n' ∉ row.toList := by
    intro row member
    rw [← whole] at member
    exact lineFeed_not_mem_of_mem_lines member
  have nonneg : 0 ≤ usualMargin := by decide
  have shown := marks_excerpt plain holds.column_pos nonneg
  rw [← whole, number] at shown
  have aims := aims_excerptRow holds.column_pos found (before.length + 1)
  rw [← number'] at shown aims
  have short : CaretShort (digits place.line.toNat - 4)
      (excerpt (lines source) place.line place.column usualMargin) source place c :=
    ⟨_, _, line, shown, held, aims⟩
  have narrow := digits_le_four_iff place.line.toNat
  refine ⟨short, ?_⟩
  constructor
  · intro under
    have none := short.unique under
    omega
  · intro early
    have none : digits place.line.toNat - 4 = 0 := by omega
    rwa [none] at short

end Text

/-! ## Failures with a caret -/

theorem UnmatchedBracket.holds_of_ofSource {source name : String} {fault : UnmatchedBracket}
    (failed : Program.ofSource source name = .error fault) :
    ∃ c : Char, fault.bracket = c.toString ∧ fault.source = source ∧
      fault.place.Holds (Text.lines source) c := by
  rw [Program.ofSource] at failed
  cases paired : Brackets.pair (Instruction.scan source.toList) with
  | ok pairs => simp [paired] at failed
  | error unpaired =>
      simp only [paired, Except.error.injEq] at failed
      subst failed
      rcases Brackets.unpaired_cases paired with ⟨before, last, after, whole, _, finish, rfl⟩ |
        ⟨_, before, start, after, whole, opens, _, rfl⟩
      · have member : last ∈ Instruction.scan source.toList := by simp [whole]
        have holds := Instruction.holds_of_mem_scan member
        rw [finish] at holds
        exact ⟨']', rfl, rfl, holds⟩
      · have member : start ∈ Instruction.scan source.toList := by simp [whole]
        have holds := Instruction.holds_of_mem_scan member
        rw [opens] at holds
        exact ⟨'[', rfl, rfl, holds⟩

namespace Session

variable {session last : Session} {head : HeadFault} {fuel : Nat}

theorem streamFault_ne_head (session : Session) (trouble : StreamFault) (head : HeadFault) :
    session.streamFault trouble ≠ .head head := by
  unfold streamFault
  split
  · exact fun same => by cases same
  · exact fun same => by cases same

theorem Fails.headFault_eq {command : Command}
    (fails : Fails session command (.head head) last) :
    head.source = session.machine.program.source ∧ head.place = session.machine.currentPlace ∧
      head.command = session.machine.currentCommand? := by
  generalize same : Fault.head head = fault at fails
  cases fails with
  | pastEnd | lastCell | firstCell | emptyTape =>
      obtain rfl := Fault.head.inj same
      exact ⟨rfl, rfl, rfl⟩
  | readFault | writeFault => exact absurd same.symm (streamFault_ne_head _ _ _)
  | _ => cases same

/-- Whatever state a machine is in, when a run fails to move the head while the position is in the
program, the character at the place of the failure is the symbol of the command it names. -/
theorem holds_of_failed {source name : String} {program : Program}
    (loaded : Program.ofSource source name = .ok program)
    (same : session.machine.program = program)
    (failed : runFor fuel session = .failed (.head head) last)
    (inside : 0 ≤ last.machine.position) :
    ∃ command, head.command = some command ∧ head.source = source ∧
      head.place.Holds (Text.lines source) command.symbol := by
  obtain ⟨count, reached, _, steps, _, failing⟩ := steps_of_failed failed
  obtain ⟨_, source_eq, scanned⟩ := Program.contents_of_ofSource loaded
  have kept := (evolves_of_steps steps).program_eq
  rw [position_of_failing failing] at inside
  cases found : reached.machine.program.instruction? reached.machine.position with
  | none =>
      rw [step_of_missing found] at failing
      cases failing
  | some instruction =>
      obtain ⟨source_eq', place_eq, command_eq⟩ := (fails_of_failing found failing).headFault_eq
      rw [Machine.currentPlace_eq inside found] at place_eq
      rw [Machine.currentCommand?_of_instruction? inside found] at command_eq
      rw [kept, same] at found source_eq'
      have member := Program.mem_of_instruction? found
      rw [scanned] at member
      refine ⟨instruction.command, command_eq, source_eq'.trans source_eq, ?_⟩
      rw [place_eq]
      exact Instruction.holds_of_mem_scan member

end Session

theorem HeadFault.context_eq {fault : HeadFault} {c : Char}
    (holds : fault.place.Holds (Text.lines fault.source) c) :
    fault.context = Text.excerpt (Text.lines fault.source) fault.place.line fault.place.column
      Text.usualMargin := by
  have positive := holds.line_pos
  have nonempty : fault.source.isEmpty = false := by
    cases empty : fault.source.isEmpty with
    | false => rfl
    | true =>
        obtain ⟨line, held, _, found⟩ := holds.character
        rw [String.isEmpty_iff.mp empty] at held
        obtain rfl := List.mem_singleton.mp (List.mem_of_getElem? held)
        cases found
  rw [context, nonempty, Bool.false_or, decide_eq_false (by omega), if_neg Bool.false_ne_true]

/-- The caret of a failure to load a source, or of a failure to move the head in a run of a loaded
program, is short of the character at the place by the number of digits that the line number has
beyond four.  So it stands under this character exactly on the lines before the ten thousandth. -/
theorem carets_are_right_up_to_four_digits (source name : String) :
    (∀ fault : UnmatchedBracket, Program.ofSource source name = .error fault →
      ∃ c : Char, fault.bracket = c.toString ∧
        Text.CaretFor fault.context source fault.place c) ∧
    ∀ (memory : Memory) (program : Program) (cells : Int) (growable : Flag) (width : CellWidth)
      (machine : Machine),
      Program.ofSource source name = .ok program →
      Machine.create memory program cells growable width = .ok machine →
      ∀ (exchange : Exchange) (events : Array Event) (fuel : Nat) (fault : HeadFault)
        (last : Session),
        Session.runFor fuel ⟨machine, exchange, events⟩ = .failed (.head fault) last →
          ∃ command, fault.command = some command ∧
            Text.CaretFor fault.context source fault.place command.symbol := by
  constructor
  · intro fault failed
    obtain ⟨c, bracket, rfl, holds⟩ := UnmatchedBracket.holds_of_ofSource failed
    exact ⟨c, bracket, Text.caretFor_excerpt holds⟩
  · intro memory program cells growable width machine loaded made exchange events fuel fault last
      failed
    obtain ⟨block, start⟩ := Session.loaded_of_create loaded made exchange events
    obtain ⟨count, reached, _, steps, _, failing⟩ := Session.steps_of_failed failed
    have inside := (start.steps steps).inBounds.position_nonneg
    rw [← Session.position_of_failing failing] at inside
    have same : machine.program = program := by
      obtain ⟨rfl, _⟩ := Machine.create_eq_ok made
      rfl
    obtain ⟨command, named, rfl, holds⟩ := Session.holds_of_failed loaded same failed inside
    refine ⟨command, named, ?_⟩
    rw [HeadFault.context_eq holds]
    exact Text.caretFor_excerpt holds

theorem caret_under_a_stray_end_and_a_failing_move :
    (∃ fault, Program.ofSource "++\n+]\n--" "prog" = .error fault ∧ fault.place = ⟨2, 2⟩ ∧
      Text.CaretShort 0 fault.context "++\n+]\n--" fault.place ']') ∧
    ∃ program machine fault last, Program.ofSource "go+\n>>" "two" = .ok program ∧
      Machine.create .ample program 2 (.truth false) .eight = .ok machine ∧
      Session.runFor 3 ⟨machine, Exchange.ofBytes [], #[]⟩ = .failed (.head fault) last ∧
      fault.place = ⟨2, 2⟩ ∧ Text.CaretShort 0 fault.context "go+\n>>" fault.place '>' := by
  constructor
  · have failed : ∃ fault, Program.ofSource "++\n+]\n--" "prog" = .error fault ∧
        fault.place = ⟨2, 2⟩ ∧ fault.bracket = "]" := ⟨_, rfl, rfl, rfl⟩
    obtain ⟨fault, failed, place, bracket⟩ := failed
    obtain ⟨c, named, caret⟩ := (carets_are_right_up_to_four_digits _ _).1 fault failed
    have isEnd : c = ']' := by
      have same := congrArg String.toList (named.symm.trans bracket)
      simpa using same
    have under := caret.under_iff.mpr (by rw [place]; decide)
    rw [isEnd] at under
    exact ⟨fault, failed, place, under⟩
  · let program := Program.assemble (Instruction.scan "go+\n>>".toList) [] "two" "go+\n>>"
    have loaded : Program.ofSource "go+\n>>" "two" = .ok program := rfl
    let machine : Machine := ⟨program, .eight, .truth false, 2, Tape.blank 2, 0, 0⟩
    have made : Machine.create .ample program 2 (.truth false) .eight = .ok machine := rfl
    have failed : ∃ fault last,
        Session.runFor 3 ⟨machine, Exchange.ofBytes [], #[]⟩ = .failed (.head fault) last ∧
          fault.place = ⟨2, 2⟩ ∧ fault.command = some .right := ⟨_, _, rfl, rfl, rfl⟩
    obtain ⟨fault, last, failed, place, right⟩ := failed
    obtain ⟨command, named, caret⟩ := (carets_are_right_up_to_four_digits _ _).2 _ _ _ _ _ _ loaded
      made (Exchange.ofBytes []) #[] 3 fault last failed
    obtain rfl := Option.some.inj (right.symm.trans named)
    exact ⟨program, machine, fault, last, loaded, made, failed, place,
      caret.under_iff.mpr (by rw [place]; decide)⟩

/-! ## A caret beside its character -/

theorem Instruction.scanFrom_replicate_lineFeed (line : Int) (count : Nat) (text : List Char) :
    scanFrom ⟨line, 1⟩ (List.replicate count '\n' ++ text) = scanFrom ⟨line + count, 1⟩ text := by
  induction count generalizing line with
  | zero => simp
  | succ count ih =>
      have below : line + ((count + 1 : Nat) : Int) = line + 1 + count := by omega
      rw [List.replicate_succ, List.cons_append, scanFrom, Place.after_lineFeed, below]
      exact ih (line + 1)

/-- The end of a loop alone on the last line, with a given number of empty lines above it. -/
def lowEnd (count : Nat) : String := String.ofList (List.replicate count '\n' ++ [']'])

theorem ofSource_lowEnd (count : Nat) (name : String) :
    Program.ofSource (lowEnd count) name =
      .error ⟨"]", name, lowEnd count, ⟨1 + count, 1⟩⟩ := by
  have scanned : Instruction.scan (lowEnd count).toList = [⟨.loopEnd, ⟨1 + count, 1⟩⟩] := by
    rw [lowEnd, String.toList_ofList, Instruction.scan_eq]
    exact Instruction.scanFrom_replicate_lineFeed 1 count [']']
  rw [Program.ofSource, scanned]
  rfl

/-- On line ten thousand, the caret for a stray end does not stand under it. -/
theorem caret_beside_the_end_on_line_ten_thousand :
    ∃ fault, Program.ofSource (lowEnd 9999) Program.unnamed = .error fault ∧
      fault.place = ⟨10000, 1⟩ ∧
      ∀ c, ¬ Text.CaretShort 0 fault.context (lowEnd 9999) fault.place c := by
  have failed := ofSource_lowEnd 9999 Program.unnamed
  refine ⟨_, failed, rfl, ?_⟩
  intro c under
  obtain ⟨d, _, _, holds⟩ := UnmatchedBracket.holds_of_ofSource failed
  have short := (Text.caretFor_excerpt holds).short
  have five : Text.digits 10000 = 5 := rfl
  have none : (0 : Nat) = Text.digits 10000 - 4 := under.unique short
  omega

end TapeMachine
