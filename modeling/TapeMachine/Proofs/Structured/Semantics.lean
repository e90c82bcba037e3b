import TapeMachine.Proofs.Program.Balanced

/-!
# Running a parse tree

What a program means without jumps: a state is a plain list of cells, a head, the bytes still to be
read and the bytes written, and a parse tree runs along its structure.  A loop does nothing on a
zero cell; on any other it runs its body and then itself again.  A parse tree that runs forever has
no outcome.
-/

set_option autoImplicit false

namespace TapeMachine.Structured

/-- How wide a cell is, and whether the cells may become more. -/
structure Policy where
  bits : Nat
  growable : Bool
  deriving DecidableEq, Repr

def Policy.modulus (policy : Policy) : Nat := Nat.pow 2 policy.bits

structure State where
  cells : List Nat
  head : Nat
  input : List UInt8
  output : List UInt8
  deriving DecidableEq, Repr

namespace State

def blank (length : Nat) (input : List UInt8) : State :=
  ⟨List.replicate length 0, 0, input, []⟩

def current (state : State) : Nat := state.cells.getD state.head 0

def change (state : State) (update : Nat → Nat) : State :=
  { state with cells := state.cells.modify state.head update }

end State

/-- Why a program is broken off: the head would leave the cells, or there is nothing to read. -/
inductive Abort where
  | head
  | transfer
  deriving DecidableEq, Repr

def perform (policy : Policy) (state : State) : Primitive → Except Abort State
  | .right =>
    if state.head + 1 < state.cells.length then .ok { state with head := state.head + 1 }
    else if policy.growable then
      .ok { state with cells := state.cells ++ [0], head := state.head + 1 }
    else .error .head
  | .left => if state.head = 0 then .error .head else .ok { state with head := state.head - 1 }
  | .increment => .ok (state.change fun value => (value + 1) % policy.modulus)
  | .decrement =>
    .ok (state.change fun value => (value + (policy.modulus - 1)) % policy.modulus)
  | .output =>
    .ok { state with output := state.output ++ [UInt8.ofNat (state.current % 256)] }
  | .input =>
    match state.input with
    | [] => .error .transfer
    | byte :: rest => .ok { state.change (fun _ => byte.toNat) with input := rest }

inductive Outcome where
  | stopped (state : State)
  | aborted (abort : Abort) (output : List UInt8)
  deriving DecidableEq, Repr

inductive Runs (policy : Policy) : Block → State → Outcome → Prop where
  | done (state : State) : Runs policy .done state (.stopped state)
  | act {primitive : Primitive} {rest : Block} {state next : State} {outcome : Outcome}
      (performed : perform policy state primitive = .ok next)
      (tail : Runs policy rest next outcome) : Runs policy (.act primitive rest) state outcome
  | abort {primitive : Primitive} {rest : Block} {state : State} {abort : Abort}
      (performed : perform policy state primitive = .error abort) :
      Runs policy (.act primitive rest) state (.aborted abort state.output)
  | skip {body rest : Block} {state : State} {outcome : Outcome} (zero : state.current = 0)
      (tail : Runs policy rest state outcome) : Runs policy (.loop body rest) state outcome
  | again {body rest : Block} {state next : State} {outcome : Outcome}
      (nonzero : state.current ≠ 0) (inner : Runs policy body state (.stopped next))
      (whole : Runs policy (.loop body rest) next outcome) :
      Runs policy (.loop body rest) state outcome
  | inside {body rest : Block} {state : State} {abort : Abort} {output : List UInt8}
      (nonzero : state.current ≠ 0) (inner : Runs policy body state (.aborted abort output)) :
      Runs policy (.loop body rest) state (.aborted abort output)

end TapeMachine.Structured
