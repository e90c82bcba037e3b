import TapeMachine.Machine.Basic

/-!
# Commands at work

A session is a machine with its streams and its activity log.  Every command is an action on a
session: it leaves the position alone and answers with the next one, or it fails and leaves the
session as it then is.
-/

set_option autoImplicit false

namespace TapeMachine

structure Session where
  machine : Machine
  exchange : Exchange
  events : Array Event

/-- Something done in a session that may fail; a failure keeps the session it left behind. -/
abbrev Action := EStateM Fault Session

namespace Session

@[inline] def alter (change : Machine → Machine) : Action Unit :=
  modify fun session => { session with machine := change session.machine }

def record (session : Session) (event : Event) : Session :=
  { session with events := session.events.push event }

def following (session : Session) : Int := session.machine.position + 1

def grow (session : Session) : Session :=
  let grown := { session with machine.tape := session.machine.tape.grow }
  grown.record (.grown grown.machine.tape.length)

/-- Sees to it that the head is not past the end of the tape: a tape that may grow gets one more
cell, and with any other the machine fails.  The answer is the position. -/
def check : Action Int := do
  let session ← get
  if session.machine.head < session.machine.tape.length then
    return session.machine.position
  if !session.machine.growable.isOn then
    throw (session.machine.headFault false)
  let position := session.machine.position
  set session.grow
  return position

def moveRight : Action Int := do
  let _ ← check
  alter fun machine => { machine with head := machine.head + 1 }
  let position ← check
  return position + 1

/-- Moves the head one cell to the left, with a check before and after; there is nothing left of
the first cell. -/
def moveLeft : Action Int := do
  let _ ← check
  let session ← get
  if session.machine.head = 0 then
    throw (session.machine.headFault true)
  alter fun machine => { machine with head := machine.head - 1 }
  let position ← check
  return position + 1

def changeCell (index : Int) (change : Nat → Nat) : Action Unit := do
  let session ← get
  match session.machine.tape.slot? index with
  | none => throw (session.machine.cellFault index)
  | some slot => alter fun machine => { machine with tape := machine.tape.update slot change }

def changeCurrent (change : CellWidth → Nat → Nat) : Action Int := do
  let session ← get
  let following := session.following
  changeCell session.machine.head (change session.machine.width)
  return following

def increment : Action Int := changeCurrent fun width value => width.increment value

def decrement : Action Int := changeCurrent fun width value => width.decrement value

def store (index value : Int) : Action Unit := do
  let session ← get
  let wrapped := session.machine.width.wrap value
  changeCell index fun _ => wrapped

def currentCell : Action Nat := do
  let session ← get
  match session.machine.currentCell? with
  | some value => return value
  | none => throw (session.machine.cellFault session.machine.head)

def ask : Action ReadAnswer :=
  modifyGet fun session =>
    let (answer, exchange) := session.exchange.read
    (answer, { session with exchange := exchange })

def offer (byte : UInt8) : Action WriteAnswer :=
  modifyGet fun session =>
    let (answer, exchange) := session.exchange.write byte
    (answer, { session with exchange := exchange })

def breakOff (cause : StreamFault) : Action Int := do
  let session ← get
  throw (session.machine.transferFault cause)

/-- Gives up a transfer because a stream reports trouble.  Trouble in the system below the stream
is explained by the machine; other trouble is passed on as it is. -/
def passOn (fault : StreamFault) : Action Int :=
  if fault.isSystem then breakOff fault else throw (.stream fault)

/-- Asks the input for a byte and stores it under the head.  The byte is gone from the input even
if there is no cell to store it in. -/
def input : Action Int := do
  match ← ask with
  | .fault fault => passOn fault
  | .nothing | .data [] => breakOff .noMoreInput
  | .data (byte :: _) => changeCurrent fun _ _ => byte.toNat

/-- Offers the lowest eight bits of the value under the head to the output, which has to take one
byte, no less and no more. -/
def output : Action Int := do
  let value ← currentCell
  match ← offer (Cell.toByte value) with
  | .fault fault => passOn fault
  | .nothing => return (← get).following
  | .count written =>
    if written = 1 then return (← get).following else breakOff (.shortWrite written)

/-- Goes to the end of the loop, which decides whether its body is run. -/
def loopStart : Action Int := do
  let session ← get
  match session.machine.program.ends[session.machine.position]? with
  | some position => return position
  | none => throw session.machine.unresolved

/-- Leaves the loop when the value under the head is zero, and else goes back to the first
instruction of its body. -/
def loopEnd : Action Int := do
  let value ← currentCell
  let session ← get
  if value = 0 then
    return session.following
  match session.machine.program.starts[session.machine.position]? with
  | some position => return position + 1
  | none => throw session.machine.unresolved

def perform : Command → Action Int
  | .right => moveRight
  | .left => moveLeft
  | .increment => increment
  | .decrement => decrement
  | .output => output
  | .input => input
  | .loopStart => loopStart
  | .loopEnd => loopEnd

def step : Action Unit := do
  let session ← get
  match session.machine.program.instruction? session.machine.position with
  | none => throw (.instructionIndex session.machine.position)
  | some instruction =>
    let position ← perform instruction.command
    alter fun machine => { machine with position := position }

/-- Whether the next step asks the input for a byte and no answer is at hand. -/
def isStarved (session : Session) : Bool :=
  match session.machine.program.instruction? session.machine.position with
  | some instruction => instruction.command = .input && session.exchange.reads.isEmpty
  | none => false

theorem check_eq (session : Session) :
    check session =
      if session.machine.head < session.machine.tape.length then
        .ok session.machine.position session
      else if session.machine.growable.isOn then .ok session.machine.position session.grow
      else .error (session.machine.headFault false) session := by
  change (if session.machine.head < session.machine.tape.length then
    (pure session.machine.position : Action Int) else _) session = _
  split
  · rfl
  · cases session.machine.growable.isOn <;> rfl

theorem ask_eq (session : Session) :
    ask session = .ok session.exchange.read.1 { session with exchange := session.exchange.read.2 } :=
  rfl

theorem offer_eq (session : Session) (byte : UInt8) :
    offer byte session =
      .ok (session.exchange.write byte).1
        { session with exchange := (session.exchange.write byte).2 } :=
  rfl

end Session

end TapeMachine
