import TapeMachine.CommandLine.Switch
import TapeMachine.Text.Digit

/-!
# Sorting arguments

Before anything is acted on, every argument is sorted: it is a word, a switch, something that looks
like a switch but is none, or the mark of two dashes behind which all arguments are words.  A switch
may be shortened as long as it stays the only one meant, and may have its value attached.
-/

set_option autoImplicit false

namespace TapeMachine.CommandLine

inductive Item where
  | word (text : String)
  /-- A switch, whether it was spelled with a single dash, and the value attached to it. -/
  | known (switch : Switch) (isShort : Bool) (attached : Option (List Char))
  | unknown (text : String)
  | mark
  deriving DecidableEq, Repr

namespace Item

def markText : String := "--"

/-- Whether a text is a number below zero, whole or with a point; a line feed behind it does not
matter. -/
def isNegativeNumber (text : List Char) : Bool :=
  match text with
  | '-' :: rest =>
    let body := if rest.getLast? = some '\n' then rest.dropLast else rest
    match body.dropWhile Text.isDigit with
    | [] => !body.isEmpty
    | '.' :: places => !places.isEmpty && places.all Text.isDigit
    | _ => false
  | _ => false

def splitAtEquals (text : List Char) : List Char × Option (List Char) :=
  match text.span (· ≠ '=') with
  | (name, _ :: value) => (name, some value)
  | (name, []) => (name, none)

/-- The switches that a text may mean, each with its spelling and the value attached to it.  Behind
two dashes the text up to an equals sign is the beginning of a spelling; behind one dash the first
letter is a spelling and all that follows is its value. -/
def readings (text : List Char) : List (String × Item) :=
  match text with
  | '-' :: '-' :: _ =>
    let (beginning, attached) := splitAtEquals text
    (Switch.startingWith beginning).map fun entry => (entry.1, .known entry.2 false attached)
  | '-' :: letter :: value =>
    match Switch.ofLetter? letter with
    | some switch => [(String.ofList ['-', letter], .known switch true (some value))]
    | none => []
  | _ => []

def hasSingleDash (name : List Char) : Bool :=
  match name with
  | '-' :: '-' :: _ => false
  | _ => true

def spelledOut? (text : List Char) : Option Item :=
  match Switch.ofName? (String.ofList text) with
  | some switch => some (.known switch (hasSingleDash text) none)
  | none =>
    match splitAtEquals text with
    | (_, none) => none
    | (name, some value) =>
      (Switch.ofName? (String.ofList name)).map fun switch =>
        .known switch (hasSingleDash name) (some value)

def ofArgument (argument : String) : Except UsageFault Item :=
  let text := argument.toList
  if text.head? ≠ some '-' ∨ text.length = 1 then .ok (.word argument)
  else
    match spelledOut? text with
    | some item => .ok item
    | none =>
      match readings text with
      | [(_, item)] => .ok item
      | [] =>
        if isNegativeNumber text || text.contains ' ' then .ok (.word argument)
        else .ok (.unknown argument)
      | several => .error (.ambiguous argument (several.map Prod.fst))

def ofArguments : List String → Except UsageFault (List Item)
  | [] => .ok []
  | argument :: rest =>
    if argument = markText then .ok (.mark :: rest.map .word)
    else
      match ofArgument argument with
      | .error fault => .error fault
      | .ok item => (ofArguments rest).map (item :: ·)

end Item

end TapeMachine.CommandLine
