import TapeMachine.Proofs.Machine.Transfers

/-!
# Loops taken back

A step moves the position forward unless it takes a loop back, and no position is past the end of
the program.  Between two loop-backs a run therefore takes up every instruction once at most.

Main statement: a run of a program of `n` instructions that takes a loop back `k` times at most has
taken up `(k + 1) * n` instructions at most.
-/

set_option autoImplicit false

namespace TapeMachine

theorem Program.Parsed.lt_of_ends {program : Program} {block : Block}
    (parsed : program.Parsed block) {start finish : Int}
    (found : program.ends[start]? = some finish) : start < finish := by
  obtain ⟨entry, member, rfl, rfl⟩ := (parsed.ends _ _).mp found
  exact Int.ofNat_lt.mpr (Block.isLoop_of_mem_pairs_zero member).ordered

/-- Whether the instruction at the position takes a loop back to its start: it is the end of a loop,
and the value under the head is not zero. -/
def Machine.loopsBack (machine : Machine) : Bool :=
  match machine.currentCommand?, machine.currentCell? with
  | some .loopEnd, some value => value != 0
  | _, _ => false

namespace Session

variable {block : Block} {session next : Session}

theorem loopsBack_eq (inBounds : session.machine.InBounds)
    (here : session.machine.program.commands[session.machine.position.toNat]? = some .loopEnd) :
    session.machine.loopsBack = (session.value != 0) := by
  have current := Machine.currentCommand?_eq inBounds.position_nonneg here
  have cell : session.machine.currentCell? = some session.value :=
    Tape.get?_of_inside inBounds.head_nonneg inBounds.head_lt
  rw [Machine.loopsBack, current, cell]

/-! ## One step -/

theorem position_act {command : Command} (noStart : command ≠ .loopStart)
    (noEnd : command ≠ .loopEnd) (acted : session.act command = .ok () next) :
    next.machine.position = session.machine.position + 1 := by
  cases command with
  | loopStart => exact (noStart rfl).elim
  | loopEnd => exact (noEnd rfl).elim
  | increment | decrement =>
      cases acted
      rfl
  | left =>
      rw [act] at acted
      split at acted
      · cases acted
      · cases acted
        rfl
  | right =>
      rw [act] at acted
      split at acted
      · cases acted
        rfl
      · split at acted
        · cases acted
          rfl
        · cases acted
  | output =>
      rw [act] at acted
      split at acted
      · cases acted
      · cases acted
        rfl
      · split at acted
        · cases acted
          rfl
        · cases acted
  | input =>
      rw [act] at acted
      split at acted
      · cases acted
      · cases acted
      · cases acted
      · cases acted
        rfl

theorem Loaded.position_lt (loaded : Loaded block session)
    (going : session.machine.finished = false) (onward : session.machine.loopsBack = false)
    (made : Session.step session = .ok () next) :
    session.machine.position < next.machine.position := by
  obtain ⟨command, here, acted⟩ := loaded.exists_act going
  rw [acted] at made
  by_cases start : command = .loopStart
  · subst start
    rw [act] at made
    split at made
    · next position found =>
        cases made
        exact loaded.parsed.lt_of_ends found
    · cases made
  by_cases finish : command = .loopEnd
  · subst finish
    rw [loopsBack_eq loaded.inBounds here, bne_eq_false_iff_eq] at onward
    rw [act, if_pos onward] at made
    cases made
    exact Int.lt_succ _
  · rw [position_act start finish made]
    exact Int.lt_succ _

/-! ## Whole runs -/

section Executed

variable (fuel : Nat)

theorem executed_of_finished (done : session.machine.finished = true) :
    executed fuel session = [] := by
  cases fuel with
  | zero => rfl
  | succ fuel => rw [executed, if_pos done]

theorem executed_of_failing {fault : Fault} (going : session.machine.finished = false)
    (failing : step session = .error fault next) :
    executed (fuel + 1) session = [session.machine] := by
  rw [executed, if_neg (Bool.eq_false_iff.mp going), failing]

theorem executed_of_made (going : session.machine.finished = false)
    (made : step session = .ok () next) :
    executed (fuel + 1) session = session.machine :: executed fuel next := by
  rw [executed, if_neg (Bool.eq_false_iff.mp going), made]

end Executed

def loopBacks (fuel : Nat) (session : Session) : Nat :=
  (executed fuel session).countP Machine.loopsBack

theorem loopBacks_of_made (fuel : Nat) (going : session.machine.finished = false)
    (made : step session = .ok () next) :
    loopBacks (fuel + 1) session =
      loopBacks fuel next + if session.machine.loopsBack then 1 else 0 := by
  rw [loopBacks, executed_of_made fuel going made, List.countP_cons, loopBacks]

/-- A run takes up no more instructions than there are from its position on, and all instructions
once more for each loop-back. -/
theorem Loaded.length_executed_le (fuel : Nat) :
    ∀ {session : Session}, Loaded block session →
      ((executed fuel session).length : Int) + session.machine.position ≤
        loopBacks fuel session * session.machine.program.size + session.machine.program.size := by
  induction fuel with
  | zero =>
      intro session loaded
      have upper := loaded.inBounds.position_le
      simpa [executed, loopBacks] using upper
  | succ fuel ih =>
      intro session loaded
      cases going : session.machine.finished with
      | true =>
          have upper := loaded.inBounds.position_le
          simpa [executed_of_finished _ going, loopBacks] using upper
      | false =>
          have before := (Machine.finished_eq_false_iff _).mp going
          cases made : Session.step session with
          | error fault last =>
              have nonneg : (0 : Int) ≤
                  loopBacks (fuel + 1) session * session.machine.program.size :=
                Int.mul_nonneg (Int.natCast_nonneg _) (Int.natCast_nonneg _)
              rw [executed_of_failing fuel going made, List.length_singleton]
              omega
          | ok _ next =>
              have loaded' := loaded.step going made
              have rest := ih loaded'
              rw [(evolves_of_made made).program_eq] at rest
              have backs := loopBacks_of_made fuel going made
              rw [executed_of_made fuel going made, List.length_cons]
              cases back : session.machine.loopsBack with
              | true =>
                  -- The next position may be any: the loop-back pays for the whole program.
                  have lower := loaded'.inBounds.position_nonneg
                  rw [back, if_pos rfl] at backs
                  have paid : (loopBacks (fuel + 1) session : Int) * session.machine.program.size =
                      loopBacks fuel next * session.machine.program.size +
                        session.machine.program.size := by
                    rw [backs, Int.natCast_succ, Int.add_mul, Int.one_mul]
                  omega
              | false =>
                  have onward := loaded.position_lt going back made
                  have unpaid : loopBacks (fuel + 1) session = loopBacks fuel next := by
                    simpa [back] using backs
                  rw [unpaid]
                  omega

theorem length_executed_of_unfinished (fuel : Nat) :
    ∀ {session : Session}, ¬ (runFor fuel session).HasStopped →
      (executed (fuel + 1) session).length = fuel + 1 := by
  induction fuel with
  | zero =>
      intro session unfinished
      cases going : session.machine.finished with
      | true =>
          rw [runFor_of_finished _ going] at unfinished
          exact (unfinished trivial).elim
      | false =>
          cases made : step session with
          | error fault last => rw [executed_of_failing 0 going made, List.length_singleton]
          | ok _ next =>
              rw [executed_of_made 0 going made, List.length_cons]
              rfl
  | succ fuel ih =>
      intro session unfinished
      cases going : session.machine.finished with
      | true =>
          rw [runFor_of_finished _ going] at unfinished
          exact (unfinished trivial).elim
      | false =>
          rw [runFor_succ fuel going] at unfinished
          cases made : step session with
          | error fault last =>
              rw [made] at unfinished
              exact (unfinished trivial).elim
          | ok _ next =>
              rw [made] at unfinished
              rw [executed_of_made (fuel + 1) going made, List.length_cons, ih unfinished]

end Session

/-- A run of a loaded program cannot stall but in loops that it takes back.  As long as it has taken
a loop back `most` times at most, it has taken up `(most + 1) * n` instructions at most, where `n`
is the number of instructions of the program.  A run that takes no loop back stops within `n` steps,
and one that never stops takes loops back without end. -/
theorem runs_stall_in_loops_only {memory : Memory} {source name : String} {program : Program}
    {cells : Int} {growable : Flag} {width : CellWidth} {machine : Machine}
    (loaded : Program.ofSource source name = .ok program)
    (made : Machine.create memory program cells growable width = .ok machine) (exchange : Exchange)
    (events : Array Event) :
    let session : Session := ⟨machine, exchange, events⟩
    (∀ fuel most, session.loopBacks fuel ≤ most →
      (session.executed fuel).length ≤ (most + 1) * program.size) ∧
    ((∀ fuel, session.loopBacks fuel = 0) → (session.runFor program.size).HasStopped) ∧
    ((∀ fuel, ¬ (session.runFor fuel).HasStopped) →
      ∀ most, ∃ fuel, most < session.loopBacks fuel) := by
  intro session
  have bound : ∀ fuel most, session.loopBacks fuel ≤ most →
      (session.executed fuel).length ≤ (most + 1) * program.size := by
    intro fuel most few
    obtain ⟨block, start⟩ := Session.loaded_of_create loaded made exchange events
    obtain ⟨rfl, _⟩ := Machine.create_eq_ok made
    have taken := start.length_executed_le fuel
    have paid := Nat.mul_le_mul_right program.size few
    have fresh : session.machine.position = 0 := rfl
    have same : session.machine.program = program := rfl
    rw [fresh, same, Int.add_zero] at taken
    rw [Nat.add_mul, Nat.one_mul]
    exact Nat.le_trans (Int.ofNat_le.mp taken) (Nat.add_le_add_right paid _)
  have stops : ∀ most, (∀ fuel, session.loopBacks fuel ≤ most) →
      (session.runFor ((most + 1) * program.size)).HasStopped := by
    intro most few
    by_contra unfinished
    have longer := Session.length_executed_of_unfinished _ unfinished
    have shorter := bound ((most + 1) * program.size + 1) most (few _)
    omega
  refine ⟨bound, ?_, ?_⟩
  · intro none
    have stopped := stops 0 fun fuel => Nat.le_of_eq (none fuel)
    rwa [Nat.zero_add, Nat.one_mul] at stopped
  · intro endless most
    by_contra few
    exact endless _ (stops most fun fuel => Nat.not_lt.mp fun more => few ⟨fuel, more⟩)

/-- A loop that is taken back twice, in a program of four instructions. -/
theorem count_down_takes_seven_steps :
    ∃ program machine, Program.ofSource ",[-]" "down" = .ok program ∧
      Machine.create .ample program 1 (.truth false) .eight = .ok machine ∧
      let session : Session := ⟨machine, Exchange.ofBytes [2], #[]⟩
      session.loopBacks 9 = 2 ∧ (session.executed 9).length = 7 ∧
      (session.executed 9).length ≤ (2 + 1) * program.size := by
  let program := Program.assemble (Instruction.scan ",[-]".toList) [(1, 3)] "down" ",[-]"
  have loaded : Program.ofSource ",[-]" "down" = .ok program := rfl
  -- The machine keeps a name of its own, lest its run be unfolded where it is mentioned.
  obtain ⟨machine, same⟩ : ∃ machine : Machine,
    machine = ⟨program, .eight, .truth false, 1, Tape.blank 1, 0, 0⟩ := ⟨_, rfl⟩
  have made : Machine.create .ample program 1 (.truth false) .eight = .ok machine := by
    rw [same]
    rfl
  have backs : Session.loopBacks 9 ⟨machine, Exchange.ofBytes [2], #[]⟩ = 2 := by
    rw [same]
    decide +kernel
  have taken : (Session.executed 9 ⟨machine, Exchange.ofBytes [2], #[]⟩).length = 7 := by
    rw [same]
    decide +kernel
  obtain ⟨bound, _⟩ := runs_stall_in_loops_only loaded made (Exchange.ofBytes [2]) #[]
  exact ⟨program, machine, loaded, made, backs, taken, bound 9 2 (Nat.le_of_eq backs)⟩

end TapeMachine
