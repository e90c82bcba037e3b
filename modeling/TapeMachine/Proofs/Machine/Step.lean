import TapeMachine.Machine.Session
import TapeMachine.Proofs.Tape

/-!
# What a step does

Every command as an equation on the session it is carried out in, without the monad.  While the
head stands on the tape, `act` says what a step does: it is the whole of the step relation that the
modules on runs are built on.
-/

set_option autoImplicit false

namespace TapeMachine

namespace Session

def jump (session : Session) (position : Int) : Session :=
  { session with machine.position := position }

def advance (session : Session) : Session := session.jump session.following

/-- The session with its head moved by some cells, checked or not. -/
def shift (session : Session) (cells : Int) : Session :=
  { session with machine.head := session.machine.head + cells }

def change (session : Session) (update : Nat → Nat) : Session :=
  { session with machine.tape := session.machine.tape.update session.machine.head.toNat update }

/-- The value under a head that stands on the tape. -/
def value (session : Session) : Nat := session.machine.tape.valueAt session.machine.head.toNat

def asked (session : Session) : Session := { session with exchange := session.exchange.read.2 }

def offered (session : Session) : Session :=
  { session with exchange := (session.exchange.write (Cell.toByte session.value)).2 }

def streamFault (session : Session) (fault : StreamFault) : Fault :=
  if fault.isSystem then session.machine.transferFault fault else .stream fault

abbrev Result := EStateM.Result Fault Session Unit

/-- What a step does that finds a command while the head stands on the tape. -/
def act (session : Session) : Command → Result
  | .right =>
    let moved := session.shift 1
    if moved.machine.head < moved.machine.tape.length then .ok () moved.advance
    else if moved.machine.growable.isOn then .ok () moved.grow.advance
    else .error (moved.machine.headFault false) moved
  | .left =>
    if session.machine.head = 0 then .error (session.machine.headFault true) session
    else .ok () (session.shift (-1)).advance
  | .increment => .ok () (session.change fun cell => session.machine.width.increment cell).advance
  | .decrement => .ok () (session.change fun cell => session.machine.width.decrement cell).advance
  | .output =>
    match (session.exchange.write (Cell.toByte session.value)).1 with
    | .fault fault => .error (session.streamFault fault) session.offered
    | .nothing => .ok () session.offered.advance
    | .count written =>
      if written = 1 then .ok () session.offered.advance
      else .error (session.machine.transferFault (.shortWrite written)) session.offered
  | .input =>
    match session.exchange.read.1 with
    | .fault fault => .error (session.streamFault fault) session.asked
    | .nothing | .data [] => .error (session.machine.transferFault .noMoreInput) session.asked
    | .data (byte :: _) => .ok () (session.asked.change fun _ => byte.toNat).advance
  | .loopStart =>
    match session.machine.program.ends[session.machine.position]? with
    | some position => .ok () (session.jump position)
    | none => .error session.machine.unresolved session
  | .loopEnd =>
    if session.value = 0 then .ok () session.advance
    else
      match session.machine.program.starts[session.machine.position]? with
      | some position => .ok () (session.jump (position + 1))
      | none => .error session.machine.unresolved session

/-! ## The commands as equations -/

theorem bind_eq {σ α β : Type} (first : EStateM Fault σ α) (next : α → EStateM Fault σ β)
    (session : σ) :
    (first >>= next) session =
      match first session with
      | .ok answer after => next answer after
      | .error fault after => .error fault after := by
  change EStateM.bind first next session = _
  delta EStateM.bind
  cases first session with
  | ok answer after => rfl
  | error fault after => rfl

theorem moveRight_eq (session : Session) :
    moveRight session =
      match check session with
      | .ok _ checked =>
        match check (checked.shift 1) with
        | .ok position moved => .ok (position + 1) moved
        | .error fault moved => .error fault moved
      | .error fault checked => .error fault checked := by
  rw [moveRight, bind_eq]
  cases check session with
  | error fault checked => rfl
  | ok position checked =>
      simp only
      change (check >>= fun position => pure (position + 1)) (checked.shift 1) = _
      rw [bind_eq]
      cases check (checked.shift 1) with
      | error fault moved => rfl
      | ok position moved => rfl

theorem moveLeft_eq (session : Session) :
    moveLeft session =
      match check session with
      | .ok _ checked =>
        if checked.machine.head = 0 then .error (checked.machine.headFault true) checked
        else
          match check (checked.shift (-1)) with
          | .ok position moved => .ok (position + 1) moved
          | .error fault moved => .error fault moved
      | .error fault checked => .error fault checked := by
  rw [moveLeft, bind_eq]
  cases check session with
  | error fault checked => rfl
  | ok position checked =>
      simp only
      rw [bind_eq]
      change (if checked.machine.head = 0 then _ else _ : Action Int) checked = _
      split
      · rfl
      · change (check >>= fun position => pure (position + 1)) (checked.shift (-1)) = _
        rw [bind_eq]
        cases check (checked.shift (-1)) with
        | error fault moved => rfl
        | ok position moved => rfl

theorem changeCell_eq (session : Session) (index : Int) (update : Nat → Nat) :
    changeCell index update session =
      match session.machine.tape.slot? index with
      | none => .error (session.machine.cellFault index) session
      | some slot =>
        .ok () { session with machine.tape := session.machine.tape.update slot update } := by
  have opened : changeCell index update session =
      (match session.machine.tape.slot? index with
        | none => throw (session.machine.cellFault index)
        | some slot => alter fun machine =>
          { machine with tape := machine.tape.update slot update } : Action Unit) session := rfl
  rw [opened]
  cases session.machine.tape.slot? index with
  | none => rfl
  | some slot => rfl

theorem changeCurrent_eq (session : Session) (update : CellWidth → Nat → Nat) :
    changeCurrent update session =
      match session.machine.tape.slot? session.machine.head with
      | none => .error (session.machine.cellFault session.machine.head) session
      | some slot =>
        .ok session.following
          { session with
            machine.tape := session.machine.tape.update slot (update session.machine.width) } := by
  change (changeCell session.machine.head (update session.machine.width) >>=
    fun _ => pure session.following) session = _
  rw [bind_eq, changeCell_eq]
  cases session.machine.tape.slot? session.machine.head with
  | none => rfl
  | some slot => rfl

theorem store_eq (session : Session) (index value : Int) :
    store index value session =
      match session.machine.tape.slot? index with
      | none => .error (session.machine.cellFault index) session
      | some slot =>
        .ok ()
          { session with
            machine.tape :=
              session.machine.tape.update slot fun _ => session.machine.width.wrap value } :=
  changeCell_eq session index fun _ => session.machine.width.wrap value

theorem currentCell_eq (session : Session) :
    currentCell session =
      match session.machine.tape.get? session.machine.head with
      | some value => .ok value session
      | none => .error (session.machine.cellFault session.machine.head) session := by
  have read : currentCell session =
      (match session.machine.tape.get? session.machine.head with
        | some value => pure value
        | none => throw (session.machine.cellFault session.machine.head) : Action Nat) session :=
    rfl
  rw [read]
  cases session.machine.tape.get? session.machine.head with
  | none => rfl
  | some value => rfl

theorem passOn_eq (session : Session) (fault : StreamFault) :
    passOn fault session = .error (session.streamFault fault) session := by
  rw [passOn, streamFault]
  cases fault.isSystem with
  | false => rfl
  | true => rfl

theorem input_eq (session : Session) :
    input session =
      match session.exchange.read.1 with
      | .fault fault => .error (session.streamFault fault) session.asked
      | .nothing | .data [] => .error (session.machine.transferFault .noMoreInput) session.asked
      | .data (byte :: _) => changeCurrent (fun _ _ => byte.toNat) session.asked := by
  rw [input, bind_eq, ask_eq]
  simp only
  cases session.exchange.read.1 with
  | fault fault => exact passOn_eq session.asked fault
  | nothing => rfl
  | data bytes =>
      cases bytes with
      | nil => rfl
      | cons byte rest => rfl

theorem output_eq (session : Session) :
    output session =
      match session.machine.tape.get? session.machine.head with
      | none => .error (session.machine.cellFault session.machine.head) session
      | some value =>
        let offered :=
          { session with exchange := (session.exchange.write (Cell.toByte value)).2 }
        match (session.exchange.write (Cell.toByte value)).1 with
        | .fault fault => .error (offered.streamFault fault) offered
        | .nothing => .ok offered.following offered
        | .count written =>
          if written = 1 then .ok offered.following offered
          else .error (offered.machine.transferFault (.shortWrite written)) offered := by
  rw [output, bind_eq, currentCell_eq]
  cases session.machine.tape.get? session.machine.head with
  | none => rfl
  | some value =>
      simp only
      rw [bind_eq, offer_eq]
      simp only
      cases (session.exchange.write (Cell.toByte value)).1 with
      | fault fault => exact passOn_eq _ fault
      | nothing => rfl
      | count written =>
          simp only
          split
          · rfl
          · rfl

theorem loopStart_eq (session : Session) :
    loopStart session =
      match session.machine.program.ends[session.machine.position]? with
      | some position => .ok position session
      | none => .error session.machine.unresolved session := by
  have opened : loopStart session =
      (match session.machine.program.ends[session.machine.position]? with
        | some position => pure position
        | none => throw session.machine.unresolved : Action Int) session := rfl
  rw [opened]
  cases session.machine.program.ends[session.machine.position]? with
  | none => rfl
  | some position => rfl

theorem loopEnd_eq (session : Session) :
    loopEnd session =
      match session.machine.tape.get? session.machine.head with
      | none => .error (session.machine.cellFault session.machine.head) session
      | some value =>
        if value = 0 then .ok session.following session
        else
          match session.machine.program.starts[session.machine.position]? with
          | some position => .ok (position + 1) session
          | none => .error session.machine.unresolved session := by
  rw [loopEnd, bind_eq, currentCell_eq]
  cases session.machine.tape.get? session.machine.head with
  | none => rfl
  | some value =>
      simp only
      change (if value = 0 then _ else _ : Action Int) session = _
      split
      · rfl
      · cases session.machine.program.starts[session.machine.position]? with
        | none => rfl
        | some position => rfl

theorem step_opened (session : Session) :
    step session =
      (match session.machine.program.instruction? session.machine.position with
        | none => throw (.instructionIndex session.machine.position)
        | some instruction => do
          let position ← perform instruction.command
          alter fun machine => { machine with position := position } : Action Unit) session := rfl

theorem step_of_missing {session : Session}
    (missing : session.machine.program.instruction? session.machine.position = none) :
    step session = .error (.instructionIndex session.machine.position) session := by
  rw [step_opened, missing]
  rfl

theorem step_eq {session : Session} {instruction : Instruction}
    (found : session.machine.program.instruction? session.machine.position = some instruction) :
    step session =
      match perform instruction.command session with
      | .ok position next => .ok () (next.jump position)
      | .error fault next => .error fault next := by
  rw [step_opened, found]
  simp only
  rw [bind_eq]
  cases perform instruction.command session with
  | error fault next => rfl
  | ok position next => rfl

theorem step_eq_act {session : Session} {instruction : Instruction}
    (found : session.machine.program.instruction? session.machine.position = some instruction)
    (lower : 0 ≤ session.machine.head)
    (upper : session.machine.head < session.machine.tape.length) :
    step session = session.act instruction.command := by
  have slot := Tape.slot?_of_inside lower upper
  have cell := Tape.get?_of_inside lower upper
  rw [step_eq found]
  cases instruction.command with
  | right =>
      rw [perform, moveRight_eq, check_eq, if_pos upper]
      simp only
      rw [check_eq, act]
      by_cases inside :
          (session.shift 1).machine.head < (session.shift 1).machine.tape.length
      · rw [if_pos inside, if_pos inside]
        rfl
      · rw [if_neg inside, if_neg inside]
        by_cases grows : (session.shift 1).machine.growable.isOn = true
        · rw [if_pos grows, if_pos grows]
          rfl
        · rw [if_neg grows, if_neg grows]
  | left =>
      rw [perform, moveLeft_eq, check_eq, if_pos upper, act]
      simp only
      by_cases first : session.machine.head = 0
      · rw [if_pos first, if_pos first]
      · have below : (session.shift (-1)).machine.head < (session.shift (-1)).machine.tape.length :=
          Int.lt_of_le_of_lt (Int.sub_le_self _ (by decide)) upper
        rw [if_neg first, if_neg first, check_eq, if_pos below]
        rfl
  | increment =>
      rw [perform, increment, changeCurrent_eq, slot]
      rfl
  | decrement =>
      rw [perform, decrement, changeCurrent_eq, slot]
      rfl
  | output =>
      rw [perform, output_eq, cell, act, ← value]
      simp only
      cases (session.exchange.write (Cell.toByte session.value)).1 with
      | fault fault => rfl
      | nothing => rfl
      | count written =>
          simp only
          by_cases once : written = 1
          · rw [if_pos once, if_pos once]
            rfl
          · rw [if_neg once, if_neg once]
            rfl
  | input =>
      rw [perform, input_eq, act]
      cases session.exchange.read.1 with
      | fault fault => rfl
      | nothing => rfl
      | data bytes =>
          cases bytes with
          | nil => rfl
          | cons byte rest =>
              have slot : session.asked.machine.tape.slot? session.asked.machine.head =
                some session.machine.head.toNat := slot
              simp only
              rw [changeCurrent_eq, slot]
              rfl
  | loopStart =>
      rw [perform, loopStart_eq, act]
      cases session.machine.program.ends[session.machine.position]? with
      | none => rfl
      | some position => rfl
  | loopEnd =>
      rw [perform, loopEnd_eq, cell, act, ← value]
      simp only
      by_cases zero : session.value = 0
      · rw [if_pos zero, if_pos zero]
        rfl
      · rw [if_neg zero, if_neg zero]
        cases session.machine.program.starts[session.machine.position]? with
        | none => rfl
        | some position => rfl

/-! ## What an action leaves behind -/

def after {α : Type} : EStateM.Result Fault Session α → Session
  | .ok _ session => session
  | .error _ session => session

/-- A step makes at most one call to the streams. -/
theorem exchange_act (session : Session) (command : Command) :
    (after (session.act command)).exchange = session.exchange ∨
      (command = .input ∧ (after (session.act command)).exchange = session.exchange.read.2) ∨
      (command = .output ∧ (after (session.act command)).exchange =
        (session.exchange.write (Cell.toByte session.value)).2) := by
  cases command with
  | right =>
      refine Or.inl ?_
      rw [act]
      split
      · rfl
      · split
        · rfl
        · rfl
  | left =>
      refine Or.inl ?_
      rw [act]
      split
      · rfl
      · rfl
  | increment => exact Or.inl rfl
  | decrement => exact Or.inl rfl
  | output =>
      refine Or.inr (Or.inr ⟨rfl, ?_⟩)
      rw [act]
      cases (session.exchange.write (Cell.toByte session.value)).1 with
      | fault fault => rfl
      | nothing => rfl
      | count written =>
          simp only
          split
          · rfl
          · rfl
  | input =>
      refine Or.inr (Or.inl ⟨rfl, ?_⟩)
      rw [act]
      cases session.exchange.read.1 with
      | fault fault => rfl
      | nothing => rfl
      | data bytes =>
          cases bytes with
          | nil => rfl
          | cons byte rest => rfl
  | loopStart =>
      refine Or.inl ?_
      rw [act]
      cases session.machine.program.ends[session.machine.position]? with
      | none => rfl
      | some position => rfl
  | loopEnd =>
      refine Or.inl ?_
      rw [act]
      split
      · rfl
      · cases session.machine.program.starts[session.machine.position]? with
        | none => rfl
        | some position => rfl

end Session

end TapeMachine
