import TapeMachine.Proofs.Machine.Location
import TapeMachine.Proofs.Text.Search

/-!
# Which advice a failure text ends with

Advice is found by a search for words in the sentence that says what is wrong, and this sentence
names the program.  The words for a start that is never closed and for a move below the first cell
are looked for first, and these failures say them themselves.  A stray end and a move past the last
cell say their own words, and nothing around the name of the program can be taken for the others;
but the name can.

Main statement: a failure text ends with the advice for what went wrong, unless it is about a stray
end or a move past the last cell and the name of the program holds the words for the other advice.
-/

set_option autoImplicit false

namespace TapeMachine

open Text (Mentions lowered lowered_append mentions_append_left mentions_append_right
  not_isInfix_of_notMem notMem_lowered_number)

/-! ## The closing line -/

def ClosesWith (message advice : String) : Prop := ("\nHint: " ++ advice).toList <:+ message.toList

/-- A failure text that ends with the fitting advice, unless it is misled to end with another
one. -/
structure Advised (message fitting other : String) (misled : Prop) : Prop where
  fitting_iff : ClosesWith message fitting ↔ ¬ misled
  other_iff : ClosesWith message other ↔ misled

theorem lastLine_unique {text line other : List Char} (plain : '\n' ∉ line) (plain' : '\n' ∉ other)
    (ends : '\n' :: line <:+ text) (ends' : '\n' :: other <:+ text) : line = other := by
  have shorter : ∀ {first second : List Char}, '\n' ∉ second →
      '\n' :: first <:+ '\n' :: second → first = second := by
    intro first second plain within
    rcases List.suffix_cons_iff.mp within with same | inside
    · exact (List.cons.inj same).2
    · exact absurd (inside.subset (List.mem_cons_self ..)) plain
  rcases List.suffix_or_suffix_of_suffix ends ends' with within | within
  · exact shorter plain' within
  · exact (shorter plain within).symm

theorem closesWith_append_iff (text : String) {advice other : String}
    (plain : '\n' ∉ advice.toList) (plain' : '\n' ∉ other.toList) :
    ClosesWith (text ++ ("\nHint: " ++ advice)) other ↔ other = advice := by
  have line : ∀ hint : String, ("\nHint: " ++ hint).toList =
      '\n' :: ("Hint: ".toList ++ hint.toList) := by
    intro hint
    rw [String.toList_append]
    rfl
  have unbroken : ∀ {hint : String}, '\n' ∉ hint.toList →
      '\n' ∉ "Hint: ".toList ++ hint.toList := by
    intro hint plain
    exact List.mem_append.not.mpr (not_or.mpr ⟨by decide, plain⟩)
  have whole : ClosesWith (text ++ ("\nHint: " ++ advice)) advice := by
    simp only [ClosesWith, String.toList_append]
    exact List.suffix_append ..
  constructor
  · intro ends
    rw [ClosesWith, line] at ends whole
    have same := lastLine_unique (unbroken plain') (unbroken plain) ends whole
    exact String.toList_inj.mp (List.append_cancel_left same)
  · rintro rfl
    exact whole

namespace Advice

variable {activity : Activity} {words hint laterWords laterHint : String}

/-! The table of an activity has two entries, and the first one wins. -/

theorem forMessage?_of_first (entries : table activity = [(words, hint), (laterWords, laterHint)])
    {message : String} (mentions : Mentions message words) :
    forMessage? activity message = some hint := by
  have found := (Text.occurs_iff _ _).mpr mentions
  simp only [lowered] at found
  simp [forMessage?, entries, found]

theorem forMessage?_of_later (entries : table activity = [(words, hint), (laterWords, laterHint)])
    {message : String} (silent : ¬ Mentions message words) (mentions : Mentions message laterWords) :
    forMessage? activity message = some laterHint := by
  have missed := mt (Text.occurs_iff _ _).mp silent
  have found := (Text.occurs_iff _ _).mpr mentions
  simp only [lowered] at found missed
  simp [forMessage?, entries, found, missed]

/-- Each advice is one line, and the two are different. -/
theorem different_lines (entries : table activity = [(words, hint), (laterWords, laterHint)]) :
    '\n' ∉ hint.toList ∧ '\n' ∉ laterHint.toList ∧ hint ≠ laterHint := by
  cases activity <;> cases entries <;> decide

theorem closesWith_of_first (entries : table activity = [(words, hint), (laterWords, laterHint)])
    {summary : String} (mentions : Mentions summary words) (text : String) :
    ClosesWith (text ++ block activity summary) hint := by
  obtain ⟨plain, _⟩ := different_lines entries
  rw [block, forMessage?_of_first entries mentions]
  exact (closesWith_append_iff text plain plain).mpr rfl

/-- A sentence with the later words calls for the later advice, unless it has the first words
too. -/
theorem advised_of_later (entries : table activity = [(words, hint), (laterWords, laterHint)])
    {summary : String} (mentions : Mentions summary laterWords) (text : String) :
    Advised (text ++ block activity summary) laterHint hint (Mentions summary words) := by
  obtain ⟨plain, plain', differ⟩ := different_lines entries
  by_cases misled : Mentions summary words
  · rw [block, forMessage?_of_first entries misled]
    simp only
    constructor
    · rw [closesWith_append_iff text plain plain']
      exact iff_of_false differ.symm (not_not.mpr misled)
    · rw [closesWith_append_iff text plain plain]
      exact iff_of_true rfl misled
  · rw [block, forMessage?_of_later entries misled mentions]
    simp only
    constructor
    · rw [closesWith_append_iff text plain' plain']
      exact iff_of_true rfl misled
    · rw [closesWith_append_iff text plain' plain]
      exact iff_of_false differ misled

end Advice

/-! ## What the sentences mention -/

namespace UnmatchedBracket

variable {fault : UnmatchedBracket}

theorem mentions_summary_of_opening {words : String}
    (opening : Mentions ("unmatched '" ++ fault.bracket ++ "' in ") words) :
    Mentions fault.summary words := by
  unfold summary
  iterate 5 apply mentions_append_left
  exact opening

/-- Behind the name, the sentence on a stray end has no quotation mark. -/
theorem exists_lowered_summary (stray : fault.bracket = "]") :
    ∃ back, '\'' ∉ back ∧ lowered fault.summary =
      lowered "unmatched '" ++ ']' :: ((lowered "' in " ++ lowered fault.name) ++ back) := by
  have line := notMem_lowered_number (c := '\'') (by decide) (by decide) fault.place.line
  have column := notMem_lowered_number (c := '\'') (by decide) (by decide) fault.place.column
  have fixed : '\'' ∉ lowered " at line " ∧ '\'' ∉ lowered ", column " := by decide
  refine ⟨lowered " at line " ++ lowered (toString fault.place.line) ++ lowered ", column "
    ++ lowered (toString fault.place.column), ?_, ?_⟩
  · simp only [List.mem_append, line, column, fixed, or_self, not_false_eq_true]
  · unfold summary
    rw [stray]
    simp only [lowered_append, List.append_assoc]
    rfl

/-- The sentence on a stray end has the words for an open start from the name only. -/
theorem mentions_summary_iff (stray : fault.bracket = "]") :
    Mentions fault.summary "unmatched '['" ↔ Mentions fault.name "unmatched '['" := by
  obtain ⟨back, quoteless, sentence⟩ := exists_lowered_summary stray
  have first : "unmatched '['".toList = 'u' :: "nmatched '['".toList := rfl
  have last : "unmatched '['".toList = "unmatched '[".toList ++ ['\''] := rfl
  have front : ¬ "unmatched '['".toList <:+: lowered "unmatched '" :=
    not_isInfix_of_notMem (c := '[') (by decide) (by decide)
  calc Mentions fault.summary "unmatched '['"
      ↔ "unmatched '['".toList <:+: lowered "unmatched '" ++ ']' ::
          ((lowered "' in " ++ lowered fault.name) ++ back) := by rw [Mentions, sentence]
    _ ↔ "unmatched '['".toList <:+: (lowered "' in " ++ lowered fault.name) ++ back := by
        rw [Text.isInfix_append_cons_iff (by decide), or_iff_right front]
    _ ↔ "unmatched '['".toList <:+: lowered "' in " ++ lowered fault.name := by
        rw [last, Text.isInfix_append_right_iff quoteless]
    _ ↔ "unmatched '['".toList <:+: lowered fault.name := by
        rw [first, Text.isInfix_append_left_iff (by decide)]

theorem closesWith_closeLoop (opens : fault.bracket = "[") :
    ClosesWith fault.message Advice.closeLoop := by
  have mentions : Mentions fault.summary "unmatched '['" :=
    mentions_summary_of_opening (by rw [opens]; decide)
  unfold message
  exact Advice.closesWith_of_first rfl mentions _

theorem advised_of_stray (stray : fault.bracket = "]") :
    Advised fault.message Advice.dropLoopEnd Advice.closeLoop
      (Mentions fault.name "unmatched '['") := by
  have mentions : Mentions fault.summary "unmatched ']'" :=
    mentions_summary_of_opening (by rw [stray]; decide)
  rw [← mentions_summary_iff stray]
  unfold message
  exact Advice.advised_of_later rfl mentions _

end UnmatchedBracket

namespace HeadFault

variable {fault : HeadFault}

theorem mentions_summary_of_deed {words : String} (mentions : Mentions fault.deed words) :
    Mentions fault.summary words := by
  unfold summary
  iterate 4 apply mentions_append_left
  exact mentions_append_right mentions _

/-- Behind the name, the sentence on a move past the last cell has one letter f only. -/
theorem exists_lowered_summary (past : fault.belowZero = false)
    (right : fault.command = some .right) :
    ∃ before behind, 'f' ∉ before ∧ 'f' ∉ behind ∧ lowered fault.summary =
      (lowered "In " ++ lowered fault.name) ++ ':' ::
        (before ++ 'd' :: (lowered " of t" ++ 'h' :: behind)) := by
  have number : ∀ number : Int, 'f' ∉ lowered (toString number) :=
    notMem_lowered_number (by decide) (by decide)
  have fixed : 'f' ∉ lowered " line " ∧ 'f' ∉ lowered ", column " ∧
    'f' ∉ lowered " the head is past the en" := by decide
  have fixed' : 'f' ∉ lowered "e tape at position " ∧
    'f' ∉ lowered (" by the command: " ++ Command.right.label) ∧
    'f' ∉ lowered ". The head should stay within 0 and " ∧ 'f' ∉ lowered "." := by decide
  refine ⟨lowered " line " ++ lowered (toString fault.place.line) ++ lowered ", column "
      ++ lowered (toString fault.place.column) ++ lowered " the head is past the en",
    lowered "e tape at position " ++ lowered (toString fault.position)
      ++ lowered (" by the command: " ++ Command.right.label)
      ++ lowered ". The head should stay within 0 and "
      ++ lowered (toString (fault.tapeLength - 1)) ++ lowered ".", ?_, ?_, ?_⟩
  · simp only [List.mem_append, number, fixed, or_self, not_false_eq_true]
  · simp only [List.mem_append, number, fixed', or_self, not_false_eq_true]
  · unfold summary
    rw [deed, past, right, if_neg Bool.false_ne_true]
    simp only [lowered_append, List.append_assoc]
    rfl

/-- The sentence on a move past the last cell has the words for a move below the first one from the
name only. -/
theorem mentions_summary_iff (past : fault.belowZero = false)
    (right : fault.command = some .right) :
    Mentions fault.summary "left of cell 0" ↔ Mentions fault.name "left of cell 0" := by
  obtain ⟨before, behind, absent, absent', sentence⟩ := exists_lowered_summary past right
  have first : "left of cell 0".toList = 'l' :: "eft of cell 0".toList := rfl
  have front : ¬ "left of cell 0".toList <:+: before := not_isInfix_of_notMem (by decide) absent
  have middle : ¬ "left of cell 0".toList <:+: lowered " of t" :=
    not_isInfix_of_notMem (c := 'c') (by decide) (by decide)
  have back : ¬ "left of cell 0".toList <:+: behind := not_isInfix_of_notMem (by decide) absent'
  -- The words have neither of the letters d and h, which stand around the letter f.
  have rest : ¬ "left of cell 0".toList <:+:
      before ++ 'd' :: (lowered " of t" ++ 'h' :: behind) := by
    rw [Text.isInfix_append_cons_iff (by decide), Text.isInfix_append_cons_iff (by decide)]
    exact not_or.mpr ⟨front, not_or.mpr ⟨middle, back⟩⟩
  calc Mentions fault.summary "left of cell 0"
      ↔ "left of cell 0".toList <:+: (lowered "In " ++ lowered fault.name) ++ ':' ::
          (before ++ 'd' :: (lowered " of t" ++ 'h' :: behind)) := by rw [Mentions, sentence]
    _ ↔ "left of cell 0".toList <:+: lowered "In " ++ lowered fault.name := by
        rw [Text.isInfix_append_cons_iff (by decide), or_iff_left rest]
    _ ↔ "left of cell 0".toList <:+: lowered fault.name := by
        rw [first, Text.isInfix_append_left_iff (by decide)]

theorem closesWith_balanceMoves (below : fault.belowZero = true) :
    ClosesWith fault.message Advice.balanceMoves := by
  have mentions : Mentions fault.summary "left of cell 0" :=
    mentions_summary_of_deed (by rw [deed, if_pos below]; decide)
  unfold message
  exact Advice.closesWith_of_first rfl mentions _

theorem advised_of_past (past : fault.belowZero = false) (right : fault.command = some .right) :
    Advised fault.message Advice.lengthenTape Advice.balanceMoves
      (Mentions fault.name "left of cell 0") := by
  have mentions : Mentions fault.summary "past the end of the tape" := by
    apply mentions_summary_of_deed
    rw [deed, past]
    exact mentions_append_left (by decide) _
  rw [← mentions_summary_iff past right]
  unfold message
  exact Advice.advised_of_later rfl mentions _

end HeadFault

/-! ## The failures of loading and of a run -/

theorem UnmatchedBracket.of_ofSource {source name : String} {fault : UnmatchedBracket}
    (failed : Program.ofSource source name = .error fault) :
    fault.name = name ∧ (fault.bracket = "[" ∧ fault.isOpen = true ∨
      fault.bracket = "]" ∧ fault.isOpen = false) := by
  rw [Program.ofSource] at failed
  cases paired : Brackets.pair (Instruction.scan source.toList) with
  | ok pairs =>
      rw [paired] at failed
      cases failed
  | error unpaired =>
      rw [paired] at failed
      cases failed
      cases unpaired with
      | start instruction => exact ⟨rfl, Or.inl ⟨rfl, rfl⟩⟩
      | finish instruction => exact ⟨rfl, Or.inr ⟨rfl, rfl⟩⟩

theorem Session.FailsAt.edge {session last : Session} {name : String} {instruction : Instruction}
    {fault : HeadFault} (failsAt : session.FailsAt name instruction)
    (failing : Session.step session = .error (.head fault) last) :
    fault.name = name ∧
      ((fault.command = some .left ∧ fault.position = 0 ∧ fault.belowZero = true) ∨
        (fault.command = some .right ∧ fault.position = fault.tapeLength ∧
          fault.belowZero = false)) := by
  obtain ⟨points, _, _, _, left, right⟩ := failsAt.head fault last failing
  have command := points.command
  refine ⟨points.named, ?_⟩
  rcases failsAt.head_iff.mp ⟨fault, last, failing⟩ with ⟨moves, _⟩ | ⟨moves, _⟩
  · rw [moves] at command
    exact Or.inl ⟨command, left moves⟩
  · rw [moves] at command
    exact Or.inr ⟨command, right moves⟩

/-- The advice at the end of a failure text fits what went wrong, with two exceptions: a stray end
is taken for a start that is never closed, and a move past the last cell for one below the first,
exactly when the name of the program holds the words for the other. -/
theorem advice_fits_unless_the_name_misleads (source name : String) :
    (∀ fault, Program.ofSource source name = .error fault →
      (fault.isOpen = true → ClosesWith fault.message Advice.closeLoop) ∧
      (fault.isOpen = false → Advised fault.message Advice.dropLoopEnd Advice.closeLoop
        (Mentions name "unmatched '['"))) ∧
    ∀ memory program cells growable width machine, Program.ofSource source name = .ok program →
      Machine.create memory program cells growable width = .ok machine →
      ∀ exchange events fuel fault last,
        Session.runFor fuel ⟨machine, exchange, events⟩ = .failed (.head fault) last →
        (fault.command = some .left ∧ fault.position = 0 ∧
          ClosesWith fault.message Advice.balanceMoves) ∨
        (fault.command = some .right ∧ fault.position = fault.tapeLength ∧
          Advised fault.message Advice.lengthenTape Advice.balanceMoves
            (Mentions name "left of cell 0")) := by
  constructor
  · intro fault failed
    obtain ⟨rfl, ⟨opens, isOpen⟩ | ⟨stray, isClosed⟩⟩ := UnmatchedBracket.of_ofSource failed
    · refine ⟨fun _ => UnmatchedBracket.closesWith_closeLoop opens, ?_⟩
      rw [isOpen]
      rintro ⟨⟩
    · refine ⟨?_, fun _ => UnmatchedBracket.advised_of_stray stray⟩
      rw [isClosed]
      rintro ⟨⟩
  · intro memory program cells growable width machine loaded made exchange events fuel fault last
      failed
    obtain ⟨_, reached, _, steps, going, failing⟩ := Session.steps_of_failed failed
    obtain ⟨instruction, _, _, failsAt⟩ := steps.exists_failsAt loaded made going
    obtain ⟨rfl, ⟨left, first, below⟩ | ⟨right, atEnd, past⟩⟩ := failsAt.edge failing
    · exact Or.inl ⟨left, first, HeadFault.closesWith_balanceMoves below⟩
    · exact Or.inr ⟨right, atEnd, HeadFault.advised_of_past past right⟩

theorem advice_for_a_stray_end_and_a_long_move :
    (∃ fault, Program.ofSource "]" "prog" = .error fault ∧ fault.isOpen = false ∧
      ClosesWith fault.message Advice.dropLoopEnd) ∧
    ∃ program machine fault last, Program.ofSource ">" "prog" = .ok program ∧
      Machine.create .ample program 1 (.truth false) .eight = .ok machine ∧
      Session.runFor 1 ⟨machine, Exchange.ofBytes [], #[]⟩ = .failed (.head fault) last ∧
      fault.command = some .right ∧ ClosesWith fault.message Advice.lengthenTape := by
  constructor
  · have failed : Program.ofSource "]" "prog" = .error ⟨"]", "prog", "]", ⟨1, 1⟩⟩ := rfl
    have advised := ((advice_fits_unless_the_name_misleads "]" "prog").1 _ failed).2 rfl
    exact ⟨_, failed, rfl, advised.fitting_iff.mpr (by decide)⟩
  · let program := Program.assemble (Instruction.scan ">".toList) [] "prog" ">"
    let machine : Machine := ⟨program, .eight, .truth false, 1, Tape.blank 1, 0, 0⟩
    have loaded : Program.ofSource ">" "prog" = .ok program := rfl
    have made : Machine.create .ample program 1 (.truth false) .eight = .ok machine := rfl
    have failed : ∃ fault last,
        Session.runFor 1 ⟨machine, Exchange.ofBytes [], #[]⟩ = .failed (.head fault) last ∧
          fault.command = some .right := ⟨_, _, rfl, rfl⟩
    obtain ⟨fault, last, failed, right⟩ := failed
    refine ⟨program, machine, fault, last, loaded, made, failed, right, ?_⟩
    rcases (advice_fits_unless_the_name_misleads ">" "prog").2 _ program 1 _ _ machine loaded made
      _ _ 1 fault last failed with ⟨left, _⟩ | ⟨_, _, advised⟩
    · rw [right] at left
      cases left
    · exact advised.fitting_iff.mpr (by decide)

/-- A stray end in a program named after the other failure is answered with the other advice, and
so is a move past the last cell. -/
theorem misleading_names :
    (∃ fault, Program.ofSource "]" "unmatched '['" = .error fault ∧ fault.isOpen = false ∧
      ¬ ClosesWith fault.message Advice.dropLoopEnd ∧
      ClosesWith fault.message Advice.closeLoop) ∧
    ∃ program machine fault last, Program.ofSource ">" "left of cell 0" = .ok program ∧
      Machine.create .ample program 1 (.truth false) .eight = .ok machine ∧
      Session.runFor 1 ⟨machine, Exchange.ofBytes [], #[]⟩ = .failed (.head fault) last ∧
      fault.belowZero = false ∧ ¬ ClosesWith fault.message Advice.lengthenTape ∧
      ClosesWith fault.message Advice.balanceMoves := by
  constructor
  · let fault : UnmatchedBracket := ⟨"]", "unmatched '['", "]", ⟨1, 1⟩⟩
    have stray : fault.bracket = "]" := rfl
    have misled : Mentions fault.name "unmatched '['" := by decide
    have advised := UnmatchedBracket.advised_of_stray stray
    exact ⟨fault, rfl, rfl, mt advised.fitting_iff.mp (not_not.mpr misled),
      advised.other_iff.mpr misled⟩
  · let program := Program.assemble (Instruction.scan ">".toList) [] "left of cell 0" ">"
    let machine : Machine := ⟨program, .eight, .truth false, 1, Tape.blank 1, 0, 0⟩
    have failed : ∃ fault last,
        Session.runFor 1 ⟨machine, Exchange.ofBytes [], #[]⟩ = .failed (.head fault) last ∧
          fault.belowZero = false ∧ fault.command = some .right ∧
          fault.name = "left of cell 0" := ⟨_, _, rfl, rfl, rfl, rfl⟩
    obtain ⟨fault, last, failed, past, right, named⟩ := failed
    have misled : Mentions fault.name "left of cell 0" := by
      rw [named]
      decide
    have advised := HeadFault.advised_of_past past right
    exact ⟨program, machine, fault, last, rfl, rfl, failed, past,
      mt advised.fitting_iff.mp (not_not.mpr misled), advised.other_iff.mpr misled⟩

end TapeMachine
