import Mathlib.Logic.ExistsUnique
import TapeMachine.Proofs.Machine.Bounds
import TapeMachine.Proofs.Structured.Semantics

/-!
# Sessions at a place in a tree

Where a parse tree stands in a program, and when a session stands at such a place in the state that
the tree is run in.  A step there does what the primitive command of the tree does to the state.
-/

set_option autoImplicit false

namespace TapeMachine

/-! ## Where a tree stands in a program -/

/-- A part of the program from some position on is a tree: its commands stand there, and the tables
lead from the start of each of its loops to the end and back. -/
def Program.Holds (program : Program) : Block → Nat → Prop
  | .done, _ => True
  | .act primitive rest, position =>
    program.commands[position]? = some primitive.command ∧ program.Holds rest (position + 1)
  | .loop body rest, position =>
    program.commands[position]? = some .loopStart ∧
      program.ends[(position : Int)]? = some ((position + body.size + 1 : Nat) : Int) ∧
      program.Holds body (position + 1) ∧
      program.commands[position + body.size + 1]? = some .loopEnd ∧
      program.starts[((position + body.size + 1 : Nat) : Int)]? = some (position : Int) ∧
      program.Holds rest (position + body.size + 2)

theorem Program.holds_of_part {program : Program} :
    ∀ (part : Block) (position : Nat),
      (∀ index command, part.commands[index]? = some command →
        program.commands[position + index]? = some command) →
      (∀ entry ∈ part.pairs position,
        program.ends[(entry.1 : Int)]? = some (entry.2 : Int) ∧
          program.starts[(entry.2 : Int)]? = some (entry.1 : Int)) →
      program.Holds part position := by
  intro part
  induction part with
  | done =>
      intro position _ _
      trivial
  | act primitive rest ih =>
      intro position commands tables
      refine ⟨commands 0 _ rfl, ih (position + 1) ?_ tables⟩
      intro index command found
      have here := commands (index + 1) command found
      rwa [Nat.add_right_comm]
  | loop body rest bodyIh restIh =>
      intro position commands tables
      have own := tables (position, position + body.size + 1)
        (List.mem_append_right _ (List.mem_cons_self ..))
      refine ⟨commands 0 _ rfl, own.1, bodyIh (position + 1) ?_ ?_, ?_, own.2,
        restIh (position + body.size + 2) ?_ ?_⟩
      · intro index command found
        have inside : index < body.size := (List.getElem?_eq_some_iff.mp found).1
        have same := Block.getElem?_loop_body body rest inside
        have here := commands (index + 1) command (same.trans found)
        rwa [Nat.add_right_comm]
      · exact fun entry member => tables entry (List.mem_append_left _ member)
      · exact commands (body.size + 1) _ (Block.getElem?_loop_end body rest)
      · intro index command found
        have same := Block.getElem?_loop_rest body rest index
        have here := commands (index + (body.size + 2)) command (same.trans found)
        rwa [show position + body.size + 2 + index = position + (index + (body.size + 2)) by omega]
      · exact fun entry member =>
          tables entry (List.mem_append_right _ (List.mem_cons_of_mem _ member))

theorem Program.Parsed.holds {program : Program} {block : Block} (parsed : program.Parsed block) :
    program.Holds block 0 := by
  refine Program.holds_of_part block 0 ?_ ?_
  · intro index command found
    rwa [Nat.zero_add, ← parsed.commands]
  · intro entry member
    exact ⟨(parsed.ends _ _).mpr ⟨entry, member, rfl, rfl⟩,
      (parsed.starts _ _).mpr ⟨entry, member, rfl, rfl⟩⟩

/-! ## Sessions and states -/

/-- A session shows a state: the visible cells, the head, the bytes written and the bytes that are
still to be read. -/
structure Session.Shows (session : Session) (state : Structured.State) : Prop where
  cells : session.machine.tape.cells = state.cells
  head : session.machine.head = state.head
  output : session.exchange.output = state.output
  input : session.exchange.unread = state.input

theorem Session.Shows.unique {session : Session} {state other : Structured.State}
    (shows : session.Shows state) (shows' : session.Shows other) : state = other := by
  obtain ⟨cells, head, input, output⟩ := state
  obtain ⟨cells', head', input', output'⟩ := other
  obtain rfl : cells = cells' := shows.cells.symm.trans shows'.cells
  obtain rfl : head = head' := Int.ofNat.inj (shows.head.symm.trans shows'.head)
  obtain rfl : output = output' := shows.output.symm.trans shows'.output
  obtain rfl : input = input' := shows.input.symm.trans shows'.input
  rfl

theorem Session.Shows.record {session : Session} {state : Structured.State}
    (shows : session.Shows state) (event : Event) : (session.record event).Shows state :=
  ⟨shows.cells, shows.head, shows.output, shows.input⟩

namespace Structured

/-- A session at some position of a program, in a state, with its streams in memory. -/
structure At (program : Program) (tree : Block) (policy : Policy) (position : Nat)
    (session : Session) (state : State) : Prop where
  loaded : Session.Loaded tree session
  program_eq : session.machine.program = program
  modulus_eq : session.machine.width.modulus = policy.modulus
  growable_eq : session.machine.growable.isOn = policy.growable
  position_eq : session.machine.position = position
  cells : session.machine.tape.cells = state.cells
  head : session.machine.head = state.head
  output : session.exchange.output = state.output
  reads : session.exchange.reads = Exchange.answersOf state.input
  writes : session.exchange.writes = []

def Abort.Names : Abort → Fault → Prop
  | .head, .head _ => True
  | .transfer, .transfer _ => True
  | _, _ => False

namespace At

variable {program : Program} {tree : Block} {policy : Policy} {position : Nat}
variable {session : Session} {state : State} {command : Command} {primitive : Primitive}

theorem shows (place : At program tree policy position session state) : session.Shows state :=
  ⟨place.cells, place.head, place.output, Exchange.unread_of_answersOf place.reads⟩

theorem head_toNat (place : At program tree policy position session state) :
    session.machine.head.toNat = state.head := by
  rw [place.head, Int.toNat_natCast]

theorem length_eq (place : At program tree policy position session state) :
    session.machine.tape.length = state.cells.length := by
  rw [← place.cells, Tape.length_cells place.loaded.inBounds.sound]

theorem value_eq (place : At program tree policy position session state) :
    session.value = state.current := by
  have upper := place.loaded.inBounds.head_lt
  have inside : state.head < session.machine.tape.length := by
    rw [place.head] at upper
    exact Int.ofNat_lt.mp upper
  have found := Tape.getElem?_cells place.loaded.inBounds.sound inside
  rw [Session.value, place.head_toNat, State.current, List.getD_eq_getElem?_getD, ← place.cells,
    found, Option.getD_some]

theorem step_eq (place : At program tree policy position session state)
    (found : program.commands[position]? = some command) :
    session.machine.finished = false ∧ Session.step session = session.act command := by
  have inside : position < program.size := by
    rw [← program.length_commands]
    exact (List.getElem?_eq_some_iff.mp found).1
  have going : session.machine.finished = false := by
    rw [Machine.finished_eq_false_iff, place.position_eq, place.program_eq]
    exact Int.ofNat_lt.mpr inside
  obtain ⟨command', here, acted⟩ := place.loaded.exists_act going
  rw [place.position_eq, place.program_eq, Int.toNat_natCast, found, Option.some.injEq] at here
  exact ⟨going, here ▸ acted⟩

theorem next (place : At program tree policy position session state)
    (found : program.commands[position]? = some command) {after : Session}
    (acted : session.act command = .ok () after) {later : Nat} {state' : State}
    (position_eq : after.machine.position = later)
    (cells : after.machine.tape.cells = state'.cells) (head : after.machine.head = state'.head)
    (output : after.exchange.output = state'.output)
    (reads : after.exchange.reads = Exchange.answersOf state'.input)
    (writes : after.exchange.writes = []) :
    Session.step session = .ok () after ∧ At program tree policy later after state' := by
  obtain ⟨going, stepped⟩ := place.step_eq found
  have made : Session.step session = .ok () after := stepped.trans acted
  have kept := (Session.evolves_of_made made).reset_eq
  obtain ⟨sameProgram, sameWidth, sameGrowable, _⟩ :
      after.machine.program = session.machine.program ∧
        after.machine.width = session.machine.width ∧
        after.machine.growable = session.machine.growable ∧ _ :=
    Machine.setup_of_reset_eq kept
  exact ⟨made,
    { loaded := place.loaded.step going made
      program_eq := sameProgram.trans place.program_eq
      modulus_eq := sameWidth ▸ place.modulus_eq
      growable_eq := sameGrowable ▸ place.growable_eq
      position_eq := position_eq
      cells := cells
      head := head
      output := output
      reads := reads
      writes := writes }⟩

end At

/-- A step of a session does what a primitive command makes of a state. -/
def StepsAs (program : Program) (tree : Block) (policy : Policy) (later : Nat) (session : Session)
    (state : State) : Except Abort State → Prop
  | .ok next =>
    ∃ after, Session.step session = .ok () after ∧ At program tree policy later after next
  | .error abort =>
    ∃ fault after, Session.step session = .error fault after ∧ abort.Names fault ∧
      after.exchange.output = state.output

namespace At

variable {program : Program} {tree : Block} {policy : Policy} {position : Nat}
variable {session : Session} {state : State}

theorem following_eq (place : At program tree policy position session state) :
    session.following = ((position + 1 : Nat) : Int) := by
  rw [Session.following, place.position_eq]
  rfl

theorem cells_change (place : At program tree policy position session state)
    {update update' : Nat → Nat} (same : ∀ value, update value = update' value) :
    (session.change update).machine.tape.cells = (state.change update').cells := by
  have equal : update = update' := funext same
  rw [Session.change, Tape.cells_update, place.cells, place.head_toNat, equal]
  rfl

theorem right (place : At program tree policy position session state)
    (found : program.commands[position]? = some .right) :
    StepsAs program tree policy (position + 1) session state (perform policy state .right) := by
  have moved : session.machine.head + 1 = ((state.head + 1 : Nat) : Int) := by
    rw [place.head]
    rfl
  have length := place.length_eq
  have stepped := (place.step_eq found).2
  by_cases inside : state.head + 1 < state.cells.length
  · have onTape : session.machine.head + 1 < session.machine.tape.length := by
      rw [moved, length]
      exact Int.ofNat_lt.mpr inside
    have acted : session.act .right = .ok () (session.shift 1).advance := if_pos onTape
    rw [perform, if_pos inside]
    exact ⟨_, place.next found acted place.following_eq place.cells moved place.output place.reads
      place.writes⟩
  · have offTape : ¬ session.machine.head + 1 < session.machine.tape.length := by
      rw [moved, length]
      exact fun less => inside (Int.ofNat_lt.mp less)
    rw [perform, if_neg inside]
    cases grows : policy.growable with
    | true =>
        have acted : session.act .right = .ok () (session.shift 1).grow.advance :=
          (if_neg offTape).trans (if_pos (place.growable_eq.trans grows))
        have cells : (session.shift 1).grow.machine.tape.cells = state.cells ++ [0] :=
          (Tape.cells_grow place.loaded.inBounds.sound).trans (by rw [place.cells])
        exact ⟨_, place.next found acted place.following_eq cells moved place.output place.reads
          place.writes⟩
    | false =>
        have off : ¬ session.machine.growable.isOn = true := by
          rw [place.growable_eq, grows]
          exact Bool.false_ne_true
        have acted : session.act .right =
            .error ((session.shift 1).machine.headFault false) (session.shift 1) :=
          (if_neg offTape).trans (if_neg off)
        exact ⟨_, _, stepped.trans acted, trivial, place.output⟩

theorem left (place : At program tree policy position session state)
    (found : program.commands[position]? = some .left) :
    StepsAs program tree policy (position + 1) session state (perform policy state .left) := by
  have head := place.head
  by_cases first : state.head = 0
  · have atStart : session.machine.head = 0 := by
      rw [head, first]
      rfl
    have acted : session.act .left = .error (session.machine.headFault true) session :=
      if_pos atStart
    rw [perform, if_pos first]
    exact ⟨_, _, (place.step_eq found).2.trans acted, trivial, place.output⟩
  · have behind : ¬ session.machine.head = 0 := by
      rw [head]
      omega
    have acted : session.act .left = .ok () (session.shift (-1)).advance := if_neg behind
    have moved : session.machine.head + -1 = ((state.head - 1 : Nat) : Int) := by
      rw [head]
      omega
    rw [perform, if_neg first]
    exact ⟨_, place.next found acted place.following_eq place.cells moved place.output place.reads
      place.writes⟩

theorem output_step (place : At program tree policy position session state)
    (found : program.commands[position]? = some .output) :
    StepsAs program tree policy (position + 1) session state (perform policy state .output) := by
  obtain ⟨answer, reads, writes⟩ :=
    Exchange.write_of_nil (Cell.toByte session.value) place.writes
  have acted : session.act .output = .ok () session.offered.advance := by
    rw [Session.act, answer]
    rfl
  have output : session.offered.exchange.output =
      state.output ++ [UInt8.ofNat (state.current % 256)] := by
    rw [Session.offered, Exchange.output_write, answer, place.output, place.value_eq,
      Cell.toByte_mod]
    rfl
  exact ⟨_, place.next found acted place.following_eq place.cells place.head output
    (reads.trans place.reads) writes⟩

theorem input_step (place : At program tree policy position session state)
    (found : program.commands[position]? = some .input) :
    StepsAs program tree policy (position + 1) session state (perform policy state .input) := by
  have output : session.asked.exchange.output = state.output := by
    rw [Session.asked, Exchange.output_read, place.output]
  have reads := place.reads
  rw [perform]
  cases bytes : state.input with
  | nil =>
      rw [bytes] at reads
      have acted : session.act .input =
          .error (session.machine.transferFault .noMoreInput) session.asked := by
        rw [Session.act, (Exchange.read_of_nil reads).1]
      exact ⟨_, _, (place.step_eq found).2.trans acted, trivial, output⟩
  | cons byte rest =>
      rw [bytes] at reads
      obtain ⟨answer, later, writes⟩ := Exchange.read_of_answersOf_cons reads
      have acted : session.act .input =
          .ok () (session.asked.change fun _ => byte.toNat).advance := by
        rw [Session.act, answer]
      have cells : (session.asked.change fun _ => byte.toNat).machine.tape.cells =
          (state.change fun _ => byte.toNat).cells :=
        place.cells_change fun _ => rfl
      exact ⟨_, place.next found acted place.following_eq cells place.head output later
        (writes.trans place.writes)⟩

theorem perform_step (place : At program tree policy position session state)
    {primitive : Primitive} (found : program.commands[position]? = some primitive.command) :
    StepsAs program tree policy (position + 1) session state
      (perform policy state primitive) := by
  cases primitive with
  | right => exact place.right found
  | left => exact place.left found
  | increment =>
      have cells : (session.change fun cell =>
            session.machine.width.increment cell).machine.tape.cells =
          (state.change fun value => (value + 1) % policy.modulus).cells :=
        place.cells_change fun value => by
          rw [CellWidth.increment_natCast, place.modulus_eq]
      exact ⟨_, place.next found rfl place.following_eq cells place.head place.output place.reads
        place.writes⟩
  | decrement =>
      have cells : (session.change fun cell =>
            session.machine.width.decrement cell).machine.tape.cells =
          (state.change fun value => (value + (policy.modulus - 1)) % policy.modulus).cells :=
        place.cells_change fun value => by
          rw [CellWidth.decrement_natCast, place.modulus_eq]
      exact ⟨_, place.next found rfl place.following_eq cells place.head place.output place.reads
        place.writes⟩
  | output => exact place.output_step found
  | input => exact place.input_step found

end At

end Structured

end TapeMachine
