import Mathlib.Data.List.Forall2
import Mathlib.Data.List.Induction
import TapeMachine.CommandLine.Settings
import TapeMachine.Proofs.CommandLine.Spelling

/-!
# Choices in any order

Each switch makes one choice, whichever way it is spelled.  The arguments of a call are a row of
choices with the name of the file somewhere among them; the last choice of a kind stands, and the
place of the name does not matter.

Main statement: arguments of this form are always taken, and give the settings that their choices
say.
-/

set_option autoImplicit false

namespace TapeMachine.CommandLine

open Text (Writes)

inductive Choice where
  | cells (count : Nat)
  | extensible
  | cellBits (width : CellWidth)
  | debug
  deriving DecidableEq, Repr

namespace Choice

/-- The arguments that spell a choice. -/
inductive Spelled : Choice → List String → Prop where
  | letterNext {count : Nat} {text : String} (writes : Writes text count) :
      Spelled (.cells count) ["-c", text]
  | letterClose {count : Nat} {text : String} (writes : Writes text count) :
      Spelled (.cells count) ["-c" ++ text]
  | letterEquals {count : Nat} {text : String} (writes : Writes text count) :
      Spelled (.cells count) ["-c=" ++ text]
  | cellsNext {count : Nat} {text : String} (writes : Writes text count) :
      Spelled (.cells count) ["--cells", text]
  | cellsEquals {count : Nat} {text : String} (writes : Writes text count) :
      Spelled (.cells count) ["--cells" ++ "=" ++ text]
  | letterExtensible : Spelled .extensible ["-e"]
  | extensible {name : String} (shortens : Shortens name "--e" "--extensible") :
      Spelled .extensible [name]
  | bitsNext {width : CellWidth} {name text : String}
      (shortens : Shortens name "--cell-" "--cell-bits") (writes : Writes text width.bits) :
      Spelled (.cellBits width) [name, text]
  | bitsEquals {width : CellWidth} {name text : String}
      (shortens : Shortens name "--cell-" "--cell-bits") (writes : Writes text width.bits) :
      Spelled (.cellBits width) [name ++ "=" ++ text]
  | debug {name : String} (shortens : Shortens name "--d" "--debug") : Spelled .debug [name]

def count? : Choice → Option Nat
  | cells count => some count
  | _ => none

def bits? : Choice → Option Nat
  | cellBits width => some width.bits
  | _ => none

end Choice

/-! ## Single choices -/

theorem Item.ofArguments_cons {argument : String} {item : Item}
    (sorted : ofArgument argument = .ok item) (rest : List String) :
    ofArguments (argument :: rest) = (ofArguments rest).map (item :: ·) := by
  have other : argument ≠ markText := by
    rintro rfl
    cases sorted
  rw [ofArguments, if_neg other, sorted]

namespace Draft

def choose (draft : Draft) : Choice → Draft
  | .cells count => { draft with cells := some count }
  | .extensible => { draft with extensible := true }
  | .cellBits width => { draft with cellBits := some width.bits }
  | .debug => { draft with debug := true }

variable {text : String}

theorem number_of_writes {number : Nat} (writes : Writes text number) (switch : Switch) :
    Draft.number switch text = .ok (some number) := by
  have other : text ≠ Item.markText := by
    rintro rfl
    exact absurd (writes.digits '-' (by decide)) (by decide)
  rw [Draft.number, if_neg other, Text.Numeral.read_of_writes writes]

theorem apply_cells {count : Nat} (writes : Writes text count) (draft : Draft) :
    draft.apply .cells text = .ok (draft.choose (.cells count)) := by
  change (number .cells text).bind _ = _
  rw [number_of_writes writes]
  rfl

theorem apply_cellBits {width : CellWidth} (writes : Writes text width.bits) (draft : Draft) :
    draft.apply .cellBits text = .ok (draft.choose (.cellBits width)) := by
  change (number .cellBits text).bind _ = _
  rw [number_of_writes writes]
  cases width <;> rfl

theorem consume_next {switch : Switch} (takes : switch.takesValue = true) (isShort : Bool)
    (value : String) (rest : List Item) (draft : Draft) :
    consume (.known switch isShort none :: .word value :: rest) draft =
      (draft.apply switch value).bind (consume rest) := by
  rw [consume, Bundle.ofItem, if_pos takes]
  rfl

theorem consume_attached {switch : Switch} (takes : switch.takesValue = true) (isShort : Bool)
    {value : String} (nonempty : value.toList ≠ []) (rest : List Item) (draft : Draft) :
    consume (.known switch isShort (some value.toList) :: rest) draft =
      (draft.apply switch value).bind (consume rest) := by
  obtain ⟨c, more, whole⟩ := List.exists_cons_of_ne_nil nonempty
  have same : String.ofList (c :: more) = value := by
    rw [← whole, String.ofList_toList]
  have attached : Bundle.ofAttached switch isShort (c :: more) =
      .ok ⟨[], some (switch, some value)⟩ := by
    rw [Bundle.ofAttached.eq_def]
    simp only [takes, if_true, same]
  rw [consume, whole, Bundle.ofItem, attached]
  rfl

/-! ## Rows of arguments -/

/-- Arguments that change a draft in some way, whatever comes behind them. -/
def Takes (arguments : List String) (change : Draft → Draft) : Prop :=
  ∃ items : List Item, .mark ∉ items ∧
    (∀ rest, Item.ofArguments (arguments ++ rest) =
      (Item.ofArguments rest).map fun more => items ++ more) ∧
    ∀ rest draft, consume (items ++ rest) draft = consume rest (change draft)

namespace Takes

variable {first second : List String} {change change' : Draft → Draft}

theorem nil : Takes [] id := by
  refine ⟨[], List.not_mem_nil, ?_, fun _ _ => rfl⟩
  intro rest
  rw [List.nil_append]
  cases Item.ofArguments rest <;> rfl

theorem of_item {argument : String} {item : Item} (sorted : Item.ofArgument argument = .ok item)
    (plain : item ≠ .mark)
    (consumed : ∀ rest draft, consume (item :: rest) draft = consume rest (change draft)) :
    Takes [argument] change := by
  refine ⟨[item], ?_, Item.ofArguments_cons sorted, consumed⟩
  rw [List.mem_singleton]
  exact plain.symm

section Value

variable {switch : Switch} {isShort : Bool} {name value : String} {number : Nat}
  (takesValue : switch.takesValue = true) (writes : Writes value number)
  (applied : ∀ draft : Draft, draft.apply switch value = .ok (change draft))

include takesValue writes applied

theorem next (sorted : Item.ofArgument name = .ok (.known switch isShort none)) :
    Takes [name, value] change := by
  have word := Item.ofArgument_of_writes writes
  refine ⟨[.known switch isShort none, .word value], ?_, ?_, ?_⟩
  · simp
  · intro rest
    rw [List.cons_append, List.cons_append, List.nil_append, Item.ofArguments_cons sorted,
      Item.ofArguments_cons word]
    cases Item.ofArguments rest <;> rfl
  · intro rest draft
    rw [List.cons_append, List.cons_append, List.nil_append, consume_next takesValue, applied]
    rfl

theorem attached
    (sorted : Item.ofArgument name = .ok (.known switch isShort (some value.toList))) :
    Takes [name] change := by
  refine of_item sorted nofun fun rest draft => ?_
  rw [consume_attached takesValue _ writes.nonempty, applied]
  rfl

end Value

theorem append (takes : Takes first change) (takes' : Takes second change') :
    Takes (first ++ second) (change' ∘ change) := by
  obtain ⟨items, plain, sorted, consumed⟩ := takes
  obtain ⟨items', plain', sorted', consumed'⟩ := takes'
  refine ⟨items ++ items', ?_, ?_, ?_⟩
  · rw [List.mem_append]
    exact not_or.mpr ⟨plain, plain'⟩
  · intro rest
    rw [List.append_assoc, sorted, sorted']
    cases Item.ofArguments rest with
    | error fault => rfl
    | ok more => simp [Except.map]
  · intro rest draft
    rw [List.append_assoc, consumed, consumed']
    rfl

end Takes

theorem takes_of_spelled {choice : Choice} {arguments : List String}
    (spelled : choice.Spelled arguments) : Takes arguments fun draft => draft.choose choice := by
  cases spelled with
  | letterNext writes =>
      have sorted : Item.ofArgument "-c" = .ok (.known .cells true none) := rfl
      exact .next rfl writes (apply_cells writes) sorted
  | letterClose writes =>
      exact .attached rfl writes (apply_cells writes) (Item.ofArgument_letter_append writes)
  | letterEquals writes =>
      exact .attached rfl writes (apply_cells writes) (Item.ofArgument_letter_equals _)
  | cellsNext writes =>
      have sorted : Item.ofArgument "--cells" = .ok (.known .cells false none) := rfl
      exact .next rfl writes (apply_cells writes) sorted
  | cellsEquals writes =>
      have full : Shortens "--cells" "--cells" "--cells" := ⟨List.prefix_rfl, List.prefix_rfl⟩
      exact .attached rfl writes (apply_cells writes)
        (Item.ofArgument_of_shortens_append rfl rfl full _)
  | letterExtensible =>
      have sorted : Item.ofArgument "-e" = .ok (.known .extensible true none) := rfl
      exact .of_item sorted nofun fun _ _ => rfl
  | extensible shortens =>
      exact .of_item (Item.ofArgument_of_shortens rfl rfl shortens) nofun fun _ _ => rfl
  | bitsNext shortens writes =>
      exact .next rfl writes (apply_cellBits writes) (Item.ofArgument_of_shortens rfl rfl shortens)
  | bitsEquals shortens writes =>
      exact .attached rfl writes (apply_cellBits writes)
        (Item.ofArgument_of_shortens_append rfl rfl shortens _)
  | debug shortens =>
      exact .of_item (Item.ofArgument_of_shortens rfl rfl shortens) nofun fun _ _ => rfl

/-- A row of choices, each spelled in its own way. -/
theorem takes_flatten {choices : List Choice} {groups : List (List String)}
    (spelled : List.Forall₂ Choice.Spelled choices groups) :
    Takes groups.flatten fun draft => choices.foldl choose draft := by
  induction spelled with
  | nil => exact .nil
  | cons first _ ih => exact (takes_of_spelled first).append ih

/-! ## The draft after all choices -/

def named (draft : Draft) (filename : String) : Draft := { draft with filename := some filename }

theorem choose_named (draft : Draft) (filename : String) (choice : Choice) :
    (draft.named filename).choose choice = (draft.choose choice).named filename := by
  cases choice <;> rfl

theorem foldl_choose_named (choices : List Choice) (draft : Draft) (filename : String) :
    choices.foldl choose (draft.named filename) = (choices.foldl choose draft).named filename := by
  induction choices generalizing draft with
  | nil => rfl
  | cons choice rest ih => rw [List.foldl_cons, choose_named, ih, List.foldl_cons]

/-- A word where no mark comes next is the name of the file if there is none yet. -/
theorem consume_filename {items : List Item} (plain : .mark ∉ items) {draft : Draft}
    (unnamed : draft.filename = none) (filename : String) :
    consume (.word filename :: items) draft = consume items (draft.named filename) := by
  have unmarked : ∀ more, items = .mark :: more → False := by
    rintro more rfl
    exact plain (List.mem_cons_self ..)
  rw [consume, unnamed]
  · rfl
  · exact unmarked

end Draft

namespace Settings

/-- The settings that choices say.  The last one of a kind stands, and what is not chosen is as
usual. -/
def ofChoices (filename : String) (choices : List Choice) : Settings where
  filename := filename
  cells := some ((choices.filterMap Choice.count?).getLast?.getD 30000 : Nat)
  extensible := decide (.extensible ∈ choices)
  cellBits := some ((choices.filterMap Choice.bits?).getLast?.getD 8 : Nat)
  debug := decide (.debug ∈ choices)

/-- What the choices leave in a draft.  The induction is on the choices from their end, where the
ones that stand are. -/
theorem foldl_choose_initial (filename : String) (choices : List Choice) :
    choices.foldl Draft.choose Draft.initial =
      ⟨none, (ofChoices filename choices).cells, (ofChoices filename choices).extensible,
        (ofChoices filename choices).cellBits, (ofChoices filename choices).debug, []⟩ := by
  induction choices using List.reverseRecOn with
  | nil => rfl
  | append_singleton choices last ih =>
      rw [List.foldl_append, ih]
      cases last <;> simp [Draft.choose, ofChoices, Choice.count?, Choice.bits?]

/-- Switches that choose something, each spelled in one of its ways, are taken in any order, with
the name of the file before them, between them or behind them. -/
theorem choices_are_taken_in_any_order {before after : List Choice}
    {groups groups' : List (List String)} (spelled : List.Forall₂ Choice.Spelled before groups)
    (spelled' : List.Forall₂ Choice.Spelled after groups') {filename : String}
    (plain : filename.toList.head? ≠ some '-') :
    parse (groups.flatten ++ filename :: groups'.flatten) =
      .ok (ofChoices filename (before ++ after)) := by
  obtain ⟨items, _, sorted, consumed⟩ := Draft.takes_flatten spelled
  obtain ⟨items', unmarked, sorted', consumed'⟩ := Draft.takes_flatten spelled'
  have whole : Item.ofArguments (groups.flatten ++ filename :: groups'.flatten) =
      .ok (items ++ .word filename :: items') := by
    have last := sorted' []
    rw [List.append_nil, Item.ofArguments] at last
    rw [sorted, Item.ofArguments_cons (Item.ofArgument_of_head?_ne plain), last]
    simp [Except.map]
  have unnamed : (before.foldl Draft.choose Draft.initial).filename = none := by
    rw [foldl_choose_initial filename]
  have drafted : Draft.consume (items ++ .word filename :: items') Draft.initial =
      .ok (((before ++ after).foldl Draft.choose Draft.initial).named filename) := by
    have last (draft : Draft) :
        Draft.consume items' draft = .ok (after.foldl Draft.choose draft) := by
      rw [← List.append_nil items', consumed', Draft.consume]
    rw [consumed, Draft.consume_filename unmarked unnamed, last, Draft.foldl_choose_named,
      List.foldl_append]
  change ((Item.ofArguments _).mapError Stop.fault).bind _ = _
  rw [whole]
  change (Draft.consume _ Draft.initial).bind Draft.finish = _
  rw [drafted, foldl_choose_initial filename]
  rfl

/-- Of two numbers of cells, the one behind the name of the file stands. -/
theorem choices_on_both_sides_of_a_name :
    parse ["-c7", "--cell-b=16", "prog.bf", "--ext", "-c", "12"] =
      .ok ⟨"prog.bf", some 12, true, some 16, false⟩ := by
  have seven : Writes "7" 7 := @Text.writes_toString 7 (by decide)
  have sixteen : Writes "16" 16 := @Text.writes_toString 16 (by decide)
  have twelve : Writes "12" 12 := @Text.writes_toString 12 (by decide)
  have bits : Shortens "--cell-b" "--cell-" "--cell-bits" := ⟨by decide, by decide⟩
  have grow : Shortens "--ext" "--e" "--extensible" := ⟨by decide, by decide⟩
  have attached : Choice.Spelled (.cellBits .sixteen) ["--cell-b" ++ "=" ++ "16"] :=
    .bitsEquals bits sixteen
  have before : List.Forall₂ Choice.Spelled [.cells 7, .cellBits .sixteen]
      [["-c7"], ["--cell-b=16"]] :=
    .cons (.letterClose seven) (.cons attached .nil)
  have after : List.Forall₂ Choice.Spelled [.extensible, .cells 12] [["--ext"], ["-c", "12"]] :=
    .cons (.extensible grow) (.cons (.letterNext twelve) .nil)
  exact choices_are_taken_in_any_order before after (by decide)

end Settings

end TapeMachine.CommandLine
