import TapeMachine.Proofs.Machine.History

/-!
# A machine with a plain list of cells

This machine has no buffer: its tape is the list of its cells, and a tape that may grow gets one
zero at its end where a check finds the head past it.  Otherwise it is made of the same commands.
-/

set_option autoImplicit false

namespace TapeMachine

/-- A machine whose tape is a list, with its streams. -/
structure Plain where
  program : Program
  width : CellWidth
  growable : Bool
  initialLength : Nat
  cells : List Nat
  head : Int
  position : Int
  exchange : Exchange

namespace Plain

abbrev Action := EStateM Fault Plain

def blank (program : Program) (length : Nat) (growable : Bool) (width : CellWidth)
    (exchange : Exchange) : Plain :=
  ⟨program, width, growable, length, List.replicate length 0, 0, 0, exchange⟩

/-! ## What failures say -/

def currentInstruction? (plain : Plain) : Option Instruction :=
  plain.program.instructionFromStart? plain.position

def currentPlace (plain : Plain) : Place :=
  match plain.currentInstruction? with
  | some instruction => instruction.place
  | none => Place.unknown

def headFault (plain : Plain) (belowZero : Bool) : Fault :=
  .head
    { belowZero := belowZero
      name := plain.program.name
      source := plain.program.source
      place := plain.currentPlace
      command := plain.currentInstruction?.map Instruction.command
      position := plain.head
      tapeLength := plain.cells.length }

def transferFault (plain : Plain) (cause : StreamFault) : Fault :=
  .transfer
    { name := plain.program.name
      place := plain.currentPlace
      command := plain.currentInstruction?.map Instruction.command
      cause := cause }

/-! ## Commands -/

def slot? (plain : Plain) (index : Int) : Option Nat :=
  let counted := if index < 0 then index + plain.cells.length else index
  if 0 ≤ counted ∧ counted < plain.cells.length then some counted.toNat else none

def check : Action Int := do
  let plain ← get
  if plain.head < plain.cells.length then
    return plain.position
  if !plain.growable then
    throw (plain.headFault false)
  set { plain with cells := plain.cells ++ [0] }
  return plain.position

theorem check_eq (plain : Plain) :
    check plain =
      if plain.head < plain.cells.length then .ok plain.position plain
      else if plain.growable then .ok plain.position { plain with cells := plain.cells ++ [0] }
      else .error (plain.headFault false) plain := by
  obtain ⟨program, width, growable, length, cells, head, position, exchange⟩ := plain
  change (if head < cells.length then (pure position : Action Int) else _) _ =
    if head < cells.length then _ else _
  split
  · rfl
  · cases growable with
    | false => rfl
    | true => rfl

def placeHead (move : Int → Int) : Action Unit :=
  modify fun plain => { plain with head := move plain.head }

def moveRight : Action Int := do
  let _ ← check
  placeHead fun head => head + 1
  let position ← check
  return position + 1

def moveLeft : Action Int := do
  let _ ← check
  let plain ← get
  if plain.head = 0 then
    throw (plain.headFault true)
  placeHead fun head => head - 1
  let position ← check
  return position + 1

def changeCell (index : Int) (change : Nat → Nat) : Action Unit := do
  let plain ← get
  match plain.slot? index with
  | none => throw (.cellIndex index plain.cells.length)
  | some slot => set { plain with cells := plain.cells.modify slot change }

theorem changeCell_of_missing {plain : Plain} {index : Int} (missing : plain.slot? index = none)
    (change : Nat → Nat) :
    changeCell index change plain = .error (.cellIndex index plain.cells.length) plain := by
  rw [changeCell, Session.bind_eq]
  change EStateM.run _ plain = _
  rw [missing]
  rfl

theorem changeCell_of_found {plain : Plain} {index : Int} {slot : Nat}
    (found : plain.slot? index = some slot) (change : Nat → Nat) :
    changeCell index change plain = .ok () { plain with cells := plain.cells.modify slot change } := by
  rw [changeCell, Session.bind_eq]
  change EStateM.run _ plain = _
  rw [found]
  rfl

def changeCurrent (change : CellWidth → Nat → Nat) : Action Int := do
  let plain ← get
  changeCell plain.head (change plain.width)
  return plain.position + 1

def store (index value : Int) : Action Unit := do
  let plain ← get
  changeCell index fun _ => plain.width.wrap value

def currentCell : Action Nat := do
  let plain ← get
  match (plain.slot? plain.head).bind fun slot => plain.cells[slot]? with
  | some value => return value
  | none => throw (.cellIndex plain.head plain.cells.length)

def ask : Action ReadAnswer :=
  modifyGet fun plain => (plain.exchange.read.1, { plain with exchange := plain.exchange.read.2 })

def offer (byte : UInt8) : Action WriteAnswer :=
  modifyGet fun plain =>
    ((plain.exchange.write byte).1, { plain with exchange := (plain.exchange.write byte).2 })

def breakOff (cause : StreamFault) : Action Int := do
  let plain ← get
  throw (plain.transferFault cause)

def passOn (fault : StreamFault) : Action Int :=
  if fault.isSystem then breakOff fault else throw (.stream fault)

def following : Action Int := do
  let plain ← get
  return plain.position + 1

def input : Action Int := do
  match ← ask with
  | .fault fault => passOn fault
  | .nothing | .data [] => breakOff .noMoreInput
  | .data (byte :: _) => changeCurrent fun _ _ => byte.toNat

def output : Action Int := do
  let value ← currentCell
  match ← offer (Cell.toByte value) with
  | .fault fault => passOn fault
  | .nothing => following
  | .count written => if written = 1 then following else breakOff (.shortWrite written)

def loopStart : Action Int := do
  let plain ← get
  match plain.program.ends[plain.position]? with
  | some position => return position
  | none => throw (.unresolved plain.program.name plain.position)

def loopEnd : Action Int := do
  let value ← currentCell
  let plain ← get
  if value = 0 then
    return plain.position + 1
  match plain.program.starts[plain.position]? with
  | some position => return position + 1
  | none => throw (.unresolved plain.program.name plain.position)

def perform : Command → Action Int
  | .right => moveRight
  | .left => moveLeft
  | .increment => changeCurrent fun width value => width.increment value
  | .decrement => changeCurrent fun width value => width.decrement value
  | .output => output
  | .input => input
  | .loopStart => loopStart
  | .loopEnd => loopEnd

def step : Action Unit := do
  let plain ← get
  match plain.program.instruction? plain.position with
  | none => throw (.instructionIndex plain.position)
  | some instruction =>
    let position ← perform instruction.command
    modify fun plain => { plain with position := position }

/-! ## Runs and histories -/

def runFor : Nat → Plain → Answer × Plain
  | fuel, plain =>
    if (plain.program.size : Int) ≤ plain.position then (.done, plain)
    else
      match fuel with
      | 0 => (.unfinished, plain)
      | fuel + 1 =>
        match step plain with
        | .ok _ next => runFor fuel next
        | .error fault next => (.failed fault, next)

def reset (plain : Plain) : Plain :=
  { plain with cells := List.replicate plain.initialLength 0, head := 0, position := 0 }

def carryOut (plain : Plain) : Operation → Answer × Plain
  | .handle command => Answer.ofResult .position (perform command plain)
  | .check => Answer.ofResult .position (check plain)
  | .store index value => Answer.ofResult (fun _ => .done) (store index value plain)
  | .reset => (.done, plain.reset)
  | .placeHead head => (.done, { plain with head := head })
  | .jump position => (.done, { plain with position := position })
  | .connect reads writes =>
    (.done, { plain with exchange := ⟨reads, writes, plain.exchange.transcript⟩ })
  | .run steps => runFor steps plain

def replay (plain : Plain) : List Operation → List Answer × Plain
  | [] => ([], plain)
  | operation :: rest =>
    let first := plain.carryOut operation
    let later := first.2.replay rest
    (first.1 :: later.1, later.2)

end Plain

end TapeMachine
