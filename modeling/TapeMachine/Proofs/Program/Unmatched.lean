import TapeMachine.Program.Source
import TapeMachine.Proofs.Program.Pairing

/-!
# Which loop mark is reported

Where the loop marks do not pair up, one of possibly many is reported.  If the loop ends ever
outnumber the loop starts, it is the end with which they first do so.  Otherwise it is the last one
of the starts that are never closed, behind which everything is balanced.

Main statement: the failure to pair up is about the mark so described, and its kind, its mark and
its text say the same.
-/

set_option autoImplicit false

namespace TapeMachine

/-! ## Counting loop marks -/

def MoreEnds (instructions : List Instruction) : Prop :=
  (instructions.map Instruction.command).count .loopStart <
    (instructions.map Instruction.command).count .loopEnd

instance (instructions : List Instruction) : Decidable (MoreEnds instructions) :=
  inferInstanceAs (Decidable (_ < _))

/-- The shortest beginning with more loop ends than loop starts. -/
structure FirstSurplus (instructions front : List Instruction) : Prop where
  begins : front <+: instructions
  surplus : MoreEnds front
  shortest : ∀ other, other <+: instructions → MoreEnds other → front.length ≤ other.length

namespace Brackets

/-- Every start that waits is one that no end has taken. -/
theorem length_waiting_of_visitAll (instructions : List Instruction) :
    ∀ {pairing result : Pairing} {position : Nat},
      visitAll pairing position instructions = .ok result →
        result.waiting.length + (instructions.map Instruction.command).count .loopEnd =
          pairing.waiting.length + (instructions.map Instruction.command).count .loopStart := by
  induction instructions with
  | nil =>
      intro pairing result position visited
      rw [visitAll_nil, Except.ok.injEq] at visited
      subst visited
      rfl
  | cons instruction rest ih =>
      intro pairing result position visited
      rw [visitAll_cons] at visited
      rw [List.map_cons]
      rcases instruction.command.mark_or_primitive with start | finish | ⟨primitive, acts⟩
      · rw [visit_start pairing position start] at visited
        have counted := ih visited
        rw [start, List.count_cons_self, List.count_cons_of_ne Command.noConfusion]
        simp only [List.length_cons] at counted
        omega
      · cases waits : pairing.waiting with
        | nil => simp [visit_end_alone position finish waits] at visited
        | cons entry others =>
            rw [visit_end_paired position finish waits] at visited
            have counted := ih visited
            rw [finish, List.count_cons_self, List.count_cons_of_ne Command.noConfusion]
            simp only [List.length_cons] at counted ⊢
            omega
      · rw [visit_primitive pairing position acts] at visited
        have counted := ih visited
        rwa [acts, List.count_cons_of_ne primitive.command_ne_loopStart,
          List.count_cons_of_ne primitive.command_ne_loopEnd]

/-- A pass breaks off at a loop end for which no start waits. -/
theorem exists_of_visitAll_error (instructions : List Instruction) :
    ∀ {pairing : Pairing} {position : Nat} {unpaired : Unpaired},
      visitAll pairing position instructions = .error unpaired →
        ∃ before last after middle, instructions = before ++ last :: after ∧
          visitAll pairing position before = .ok middle ∧ middle.waiting = [] ∧
          last.command = .loopEnd ∧ unpaired = .finish last := by
  induction instructions with
  | nil =>
      intro pairing position unpaired failed
      cases failed
  | cons instruction rest ih =>
      intro pairing position unpaired failed
      rw [visitAll_cons] at failed
      cases visited : visit pairing (instruction, position) with
      | ok next =>
          simp only [visited] at failed
          obtain ⟨before, last, after, middle, rfl, passed, alone, finish, rfl⟩ := ih failed
          refine ⟨instruction :: before, last, after, middle, rfl, ?_, alone, finish, rfl⟩
          rw [visitAll_cons, visited]
          exact passed
      | error unpaired' =>
          simp only [visited, Except.error.injEq] at failed
          subst failed
          rcases instruction.command.mark_or_primitive with start | finish | ⟨primitive, acts⟩
          · rw [visit_start pairing position start] at visited
            cases visited
          · cases waits : pairing.waiting with
            | nil =>
                rw [visit_end_alone position finish waits, Except.error.injEq] at visited
                exact ⟨[], instruction, rest, pairing, rfl, rfl, waits, finish, visited.symm⟩
            | cons entry others =>
                rw [visit_end_paired position finish waits] at visited
                cases visited
          · rw [visit_primitive pairing position acts] at visited
            cases visited

theorem not_moreEnds_of_visitAll {instructions front : List Instruction} {result : Pairing}
    (visited : visitAll ⟨[], []⟩ 0 instructions = .ok result) (begins : front <+: instructions) :
    ¬ MoreEnds front := by
  obtain ⟨rest, rfl⟩ := begins
  rw [visitAll_append] at visited
  cases passed : visitAll ⟨[], []⟩ 0 front with
  | error unpaired => simp [passed] at visited
  | ok middle =>
      have counted := length_waiting_of_visitAll front passed
      simp only [List.length_nil] at counted
      rw [MoreEnds]
      omega

theorem firstSurplus_of_broken {before after : List Instruction} {last : Instruction}
    {middle : Pairing} (passed : visitAll ⟨[], []⟩ 0 before = .ok middle)
    (alone : middle.waiting = []) (finish : last.command = .loopEnd) :
    FirstSurplus (before ++ last :: after) (before ++ [last]) := by
  have split : before ++ last :: after = (before ++ [last]) ++ after := List.append_cons ..
  refine ⟨split ▸ List.prefix_append .., ?_, ?_⟩
  · have counted := length_waiting_of_visitAll before passed
    rw [alone, List.length_nil] at counted
    have starts : [Command.loopEnd].count .loopStart = 0 := rfl
    have ends : [Command.loopEnd].count .loopEnd = 1 := rfl
    rw [MoreEnds, List.map_append, List.count_append, List.count_append, List.map_singleton,
      finish, starts, ends]
    omega
  · intro other begins surplus
    by_contra shorter
    have within : other.length ≤ before.length := by
      rw [List.length_append, List.length_singleton] at shorter
      omega
    have begins' := List.prefix_of_prefix_length_le begins (List.prefix_append ..) within
    exact not_moreEnds_of_visitAll passed begins' surplus

end Brackets

/-! ## Loop starts that are never closed -/

/-- A loop start from which no loop leads on. -/
structure Unclosed (commands : List Command) (position : Nat) : Prop where
  start : commands[position]? = some .loopStart
  alone : ∀ last, ¬ IsLoop commands (position, last)

theorem not_isLoop_of_balanced {commands : List Command} {position last : Nat}
    (balanced : Balanced (commands.drop (position + 1))) : ¬ IsLoop commands (position, last) := by
  rintro ⟨before, body, after, rfl, place, _, inner⟩
  have length : (before ++ [.loopStart] : List Command).length = position + 1 := by
    rw [List.length_append, List.length_singleton, place]
  have behind : (before ++ .loopStart :: body ++ .loopEnd :: after).drop (position + 1) =
      body ++ .loopEnd :: after := by
    rw [List.append_assoc, List.cons_append, List.append_cons, List.drop_left' length]
  rw [behind] at balanced
  obtain ⟨whole, same⟩ := (balanced_iff_exists_block _).mp balanced
  obtain ⟨part, rfl⟩ := (balanced_iff_exists_block _).mp inner
  rw [← List.append_nil whole.commands] at same
  have ends := (Block.commands_append_inj whole part Closes.nil (Closes.loopEnd after) same).2
  cases ends

theorem exists_isLoop_of_balanced {commands : List Command} {position later : Nat}
    (balanced : Balanced (commands.drop (position + 1))) (behind : position < later)
    (start : commands[later]? = some .loopStart) : ∃ last, IsLoop commands (later, last) := by
  obtain ⟨inside, _⟩ := List.getElem?_eq_some_iff.mp start
  obtain ⟨block, same⟩ := (balanced_iff_exists_block _).mp balanced
  have found : block.commands[later - (position + 1)]? = some .loopStart := by
    rw [same, List.getElem?_drop, Nat.add_sub_cancel' behind, start]
  obtain ⟨entry, member, first⟩ :=
    List.mem_map.mp ((block.isMatching_pairs.starts _).mpr found)
  have isLoop := Block.isLoop_of_mem_pairs_zero member
  have length : (commands.take (position + 1)).length = position + 1 := by
    rw [List.length_take]
    omega
  refine ⟨position + 1 + entry.2, isLoop.extend (commands.take (position + 1)) [] ?_ ?_ ?_⟩
  · rw [same, List.append_nil, List.take_append_drop]
  · rw [length, first]
    omega
  · rw [length]

/-- A start with balanced commands behind it is the last one that is never closed. -/
theorem last_unclosed_of_balanced {commands : List Command} {position : Nat}
    (start : commands[position]? = some .loopStart)
    (balanced : Balanced (commands.drop (position + 1))) :
    Unclosed commands position ∧ ∀ other, Unclosed commands other → other ≤ position := by
  refine ⟨⟨start, fun last => not_isLoop_of_balanced balanced⟩, ?_⟩
  intro other unclosed
  by_contra later
  obtain ⟨last, isLoop⟩ :=
    exists_isLoop_of_balanced balanced (Nat.lt_of_not_le later) unclosed.start
  exact unclosed.alone last isLoop

theorem eq_of_balanced {commands : List Command} {position other : Nat}
    (start : commands[position]? = some .loopStart)
    (balanced : Balanced (commands.drop (position + 1)))
    (start' : commands[other]? = some .loopStart)
    (balanced' : Balanced (commands.drop (other + 1))) : other = position := by
  obtain ⟨unclosed, greatest⟩ := last_unclosed_of_balanced start balanced
  obtain ⟨unclosed', greatest'⟩ := last_unclosed_of_balanced start' balanced'
  exact Nat.le_antisymm (greatest other unclosed') (greatest' position unclosed)

/-! ## The mark that is reported -/

namespace Brackets

/-- What pairing fails for: the end that breaks the pass off, or the start that waits when the pass
is done, behind which everything is balanced. -/
theorem unpaired_cases {instructions : List Instruction} {unpaired : Unpaired}
    (failed : pair instructions = .error unpaired) :
    (∃ before last after, instructions = before ++ last :: after ∧
        FirstSurplus instructions (before ++ [last]) ∧ last.command = .loopEnd ∧
        unpaired = .finish last) ∨
      ((∀ front, front <+: instructions → ¬ MoreEnds front) ∧
        ∃ before start after, instructions = before ++ start :: after ∧
          start.command = .loopStart ∧ Balanced (after.map Instruction.command) ∧
          unpaired = .start start) := by
  rw [pair_eq] at failed
  cases visited : visitAll ⟨[], []⟩ 0 instructions with
  | error unpaired' =>
      simp only [visited, Except.error.injEq] at failed
      subst failed
      obtain ⟨before, last, after, middle, rfl, passed, alone, finish, rfl⟩ :=
        exists_of_visitAll_error instructions visited
      exact Or.inl
        ⟨before, last, after, rfl, firstSurplus_of_broken passed alone finish, finish, rfl⟩
  | ok result =>
      have atStart : Splits (Pairing.mk [] []).waiting [] := Balanced.nil
      have splits : Splits result.waiting ([] ++ instructions) :=
        Splits.visitAll instructions atStart visited
      cases waits : result.waiting with
      | nil => simp [visited, waits] at failed
      | cons entry others =>
          simp only [visited, waits, Except.error.injEq] at failed
          rw [waits] at splits
          obtain ⟨before, after, whole, _, start, balanced, _⟩ := splits
          exact Or.inr ⟨fun front begins => not_moreEnds_of_visitAll visited begins,
            before, entry.2, after, whole, start, balanced, failed.symm⟩

end Brackets

/-- A failure about the specified mark of some instructions. -/
structure UnmatchedBracket.IsAbout (fault : UnmatchedBracket) (instructions : List Instruction) :
    Prop where
  /-- When the ends ever outnumber the starts, it is about the end with which they first do. -/
  surplus : (∃ front, front <+: instructions ∧ MoreEnds front) →
    fault.bracket = "]" ∧ ∃ front last, FirstSurplus instructions front ∧
      front.getLast? = some last ∧ last.command = .loopEnd ∧ fault.place = last.place
  /-- When they never do, it is about the last start that is never closed, which is the only one
  with balanced commands behind it. -/
  unclosed : (∀ front, front <+: instructions → ¬ MoreEnds front) →
    fault.bracket = "[" ∧ ∃ position start, instructions[position]? = some start ∧
      fault.place = start.place ∧
      Unclosed (instructions.map Instruction.command) position ∧
      (∀ other, Unclosed (instructions.map Instruction.command) other → other ≤ position) ∧
      ∀ other, (instructions.map Instruction.command)[other]? = some .loopStart →
        (Balanced ((instructions.map Instruction.command).drop (other + 1)) ↔ other = position)
  kind : fault.isOpen = true ∧ fault.bracket = "[" ∨ fault.isOpen = false ∧ fault.bracket = "]"
  message : ∃ rest, fault.message = "LoadError: unmatched '" ++ fault.bracket ++ "' in "
    ++ fault.name ++ " at line " ++ toString fault.place.line ++ ", column "
    ++ toString fault.place.column ++ "\n" ++ fault.context ++ rest

theorem UnmatchedBracket.message_eq (fault : UnmatchedBracket) :
    ∃ rest, fault.message = "LoadError: unmatched '" ++ fault.bracket ++ "' in " ++ fault.name
      ++ " at line " ++ toString fault.place.line ++ ", column " ++ toString fault.place.column
      ++ "\n" ++ fault.context ++ rest := by
  have opening : "LoadError: unmatched '" = "LoadError: " ++ "unmatched '" := rfl
  refine ⟨Advice.block .loading fault.summary, ?_⟩
  unfold message
  generalize Advice.block .loading fault.summary = advice
  unfold summary
  rw [opening]
  simp only [String.append_assoc]

theorem Brackets.isAbout_report {instructions : List Instruction} {unpaired : Unpaired}
    (failed : pair instructions = .error unpaired) (name source : String) :
    (unpaired.report name source).IsAbout instructions := by
  rcases unpaired_cases failed with ⟨before, last, after, rfl, first, finish, rfl⟩ |
    ⟨never, before, start, after, rfl, opens, balanced, rfl⟩
  · have surplus : ∃ front, front <+: before ++ last :: after ∧ MoreEnds front :=
      ⟨_, first.begins, first.surplus⟩
    refine ⟨fun _ => ⟨rfl, _, last, first, List.getLast?_concat, finish, rfl⟩, ?_,
      Or.inr ⟨rfl, rfl⟩, UnmatchedBracket.message_eq _⟩
    intro never
    obtain ⟨front, begins, more⟩ := surplus
    exact absurd more (never front begins)
  · have here : ((before ++ start :: after).map Instruction.command)[before.length]? =
        some .loopStart := by
      simp [opens]
    have behind : ((before ++ start :: after).map Instruction.command).drop (before.length + 1) =
        after.map Instruction.command := by
      rw [List.append_cons, List.map_append, List.drop_left' (by simp)]
    rw [← behind] at balanced
    obtain ⟨unclosed, greatest⟩ := last_unclosed_of_balanced here balanced
    refine ⟨?_, fun _ => ⟨rfl, before.length, start, by simp, rfl, unclosed, greatest, ?_⟩,
      Or.inl ⟨rfl, rfl⟩, UnmatchedBracket.message_eq _⟩
    · rintro ⟨front, begins, more⟩
      exact absurd more (never front begins)
    · intro other here'
      constructor
      · exact eq_of_balanced here balanced here'
      · rintro rfl
        exact balanced

/-- When the loop marks of some instructions, and so those of a source text, do not pair up, the
failure is about the end with which the ends first outnumber the starts, if they ever do, and else
about the last start that is never closed. -/
theorem reported_mark_is_the_specified_one :
    (∀ (instructions : List Instruction) (name source : String) (fault : UnmatchedBracket),
      (Brackets.pair instructions).mapError (Brackets.Unpaired.report name source) =
          .error fault →
        fault.IsAbout instructions) ∧
    ∀ (source name : String) (fault : UnmatchedBracket),
      Program.ofSource source name = .error fault →
        fault.IsAbout (Instruction.scan source.toList) := by
  constructor
  · intro instructions name source fault failed
    cases paired : Brackets.pair instructions with
    | ok pairs =>
        rw [paired] at failed
        cases failed
    | error unpaired =>
        rw [paired] at failed
        obtain rfl := Except.error.inj failed
        exact Brackets.isAbout_report paired name source
  · intro source name fault failed
    rw [Program.ofSource] at failed
    cases paired : Brackets.pair (Instruction.scan source.toList) with
    | ok pairs => simp [paired] at failed
    | error unpaired =>
        simp only [paired, Except.error.injEq] at failed
        subst failed
        exact Brackets.isAbout_report paired name source

/-- A text with a stray end and an open start, and one with two open starts. -/
theorem marks_of_two_unbalanced_texts :
    (∃ fault, Program.ofSource "[]\n][" "both" = .error fault ∧ fault.bracket = "]" ∧
      fault.place = ⟨2, 1⟩ ∧ fault.IsAbout (Instruction.scan "[]\n][".toList)) ∧
    (∃ fault, Program.ofSource "[\n [[]" "open" = .error fault ∧ fault.bracket = "[" ∧
      fault.place = ⟨2, 2⟩ ∧ fault.IsAbout (Instruction.scan "[\n [[]".toList)) ∧
    ∃ fault, (Brackets.pair [⟨.loopEnd, ⟨7, 3⟩⟩, ⟨.loopStart, ⟨0, 0⟩⟩]).mapError
        (Brackets.Unpaired.report "placed" "") = .error fault ∧ fault.place = ⟨7, 3⟩ ∧
      fault.IsAbout [⟨.loopEnd, ⟨7, 3⟩⟩, ⟨.loopStart, ⟨0, 0⟩⟩] :=
  ⟨⟨_, rfl, rfl, rfl, reported_mark_is_the_specified_one.2 _ "both" _ rfl⟩,
    ⟨_, rfl, rfl, rfl, reported_mark_is_the_specified_one.2 _ "open" _ rfl⟩,
    ⟨_, rfl, rfl, reported_mark_is_the_specified_one.1 _ "placed" "" _ rfl⟩⟩

end TapeMachine
