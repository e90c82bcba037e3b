import TapeMachine.Cell.Width
import TapeMachine.CommandLine.Item
import TapeMachine.Machine.Basic
import TapeMachine.Text.Numeral

/-!
# Settings

The arguments are gone through once.  The first word is the name of the file, further words and
unknown switches are left over, and switches change the settings in the order they come in; of
several values for one switch the last one stays.
-/

set_option autoImplicit false

namespace TapeMachine.CommandLine

structure Settings where
  filename : String
  /-- The number of cells; a value of two dashes attached to the switch leaves no number. -/
  cells : Option Int
  extensible : Bool
  cellBits : Option Int
  debug : Bool
  deriving DecidableEq, Repr

inductive Stop where
  | help
  | fault (fault : UsageFault)
  deriving DecidableEq, Repr

structure Draft where
  filename : Option String
  cells : Option Int
  extensible : Bool
  cellBits : Option Int
  debug : Bool
  unused : List String
  deriving DecidableEq, Repr

namespace Draft

def initial : Draft := ⟨none, some usualLength, false, some 8, false, []⟩

def setAside (draft : Draft) (argument : String) : Draft :=
  { draft with unused := draft.unused ++ [argument] }

def number (switch : Switch) (value : String) : Except Stop (Option Int) :=
  if value = Item.markText then .ok none
  else
    match Text.Numeral.read value.toList with
    | .ok n => .ok (some n)
    | .error _ => .error (.fault (.noNumber switch value))

def checkBits : Option Int → Except Stop (Option Int)
  | none => .ok none
  | some bits =>
    match CellWidth.ofBits? bits with
    | some _ => .ok (some bits)
    | none => .error (.fault (.noChoice bits))

def apply (draft : Draft) (switch : Switch) (value : String) : Except Stop Draft :=
  match switch with
  | .help => .error .help
  | .extensible => .ok { draft with extensible := true }
  | .debug => .ok { draft with debug := true }
  | .cells => do
    let cells ← number .cells value
    return { draft with cells := cells }
  | .cellBits => do
    let bits ← checkBits (← number .cellBits value)
    return { draft with cellBits := bits }

def applyFlags (draft : Draft) (flags : List Switch) : Except Stop Draft :=
  flags.foldlM (fun draft switch => draft.apply switch "") draft

end Draft

/-- A group of switches in one argument: flags, and perhaps a last switch that takes a value, which
is attached or not. -/
structure Bundle where
  flags : List Switch
  last : Option (Switch × Option String)
  deriving DecidableEq, Repr

namespace Bundle

def push (flag : Switch) (bundle : Bundle) : Bundle := { bundle with flags := flag :: bundle.flags }

/-- The switches in one argument.  What is attached to a flag of a single dash is read as further
letters of such flags, up to a switch that takes the rest as its value. -/
def ofAttached (switch : Switch) (isShort : Bool) : List Char → Except UsageFault Bundle
  | [] =>
    if switch.takesValue then .ok ⟨[], some (switch, some "")⟩
    else .error (.needlessValue switch "")
  | letter :: rest =>
    let value := String.ofList (letter :: rest)
    if switch.takesValue then .ok ⟨[], some (switch, some value)⟩
    else
      match isShort, Switch.ofLetter? letter with
      | true, some next =>
        if rest.isEmpty then
          if next.takesValue then .ok ⟨[switch], some (next, none)⟩ else .ok ⟨[switch, next], none⟩
        else (ofAttached next true rest).map (push switch)
      | _, _ => .error (.needlessValue switch value)

def ofItem (switch : Switch) (isShort : Bool) : Option (List Char) → Except UsageFault Bundle
  | some attached => ofAttached switch isShort attached
  | none => .ok (if switch.takesValue then ⟨[], some (switch, none)⟩ else ⟨[switch], none⟩)

def applyTo (draft : Draft) (bundle : Bundle) (value : String) : Except Stop Draft := do
  let draft ← draft.applyFlags bundle.flags
  match bundle.last with
  | some (switch, attached) => draft.apply switch (attached.getD value)
  | none => return draft

def waiting? (bundle : Bundle) : Option Switch :=
  match bundle.last with
  | some (switch, none) => some switch
  | _ => none

end Bundle

namespace Draft

/-- Goes through sorted arguments.  The mark of two dashes next to the file name is dropped; at any
other place it is left over. -/
def consume : List Item → Draft → Except Stop Draft
  | [], draft => .ok draft
  | .unknown text :: rest, draft => consume rest (draft.setAside text)
  | .known switch isShort attached :: rest, draft =>
    match Bundle.ofItem switch isShort attached with
    | .error fault => .error (.fault fault)
    | .ok bundle =>
      match bundle.waiting?, rest with
      | none, rest => (bundle.applyTo draft "").bind (consume rest)
      | some _, .word value :: rest => (bundle.applyTo draft value).bind (consume rest)
      | some switch, _ => .error (.fault (.missingValue switch))
  | .word text :: .mark :: rest, draft =>
    if draft.filename.isSome then consume (.mark :: rest) (draft.setAside text)
    else consume rest { draft with filename := some text }
  | .word text :: rest, draft =>
    if draft.filename.isSome then consume rest (draft.setAside text)
    else consume rest { draft with filename := some text }
  | .mark :: .word text :: rest, draft =>
    if draft.filename.isSome then
      consume (.word text :: rest) (draft.setAside Item.markText)
    else consume rest { draft with filename := some text }
  | .mark :: rest, draft => consume rest (draft.setAside Item.markText)

def finish (draft : Draft) : Except Stop Settings :=
  match draft.filename with
  | none => .error (.fault .noFilename)
  | some filename =>
    if draft.unused.isEmpty then
      .ok ⟨filename, draft.cells, draft.extensible, draft.cellBits, draft.debug⟩
    else .error (.fault (.unrecognized draft.unused))

end Draft

namespace Settings

def parse (arguments : List String) : Except Stop Settings := do
  let items ← (Item.ofArguments arguments).mapError Stop.fault
  let draft ← Draft.consume items Draft.initial
  draft.finish

end Settings

end TapeMachine.CommandLine
