import TapeMachine.Stream

/-!
# Calls to streams

What a read and a write do to the answers to come and to the bytes written.
-/

set_option autoImplicit false

namespace TapeMachine.Exchange

theorem taken_push (transcript : Array StreamCall) (call : StreamCall) :
    taken (transcript.push call).toList = taken transcript.toList ++ taken [call] := by
  rw [Array.toList_push, taken_append]

theorem output_read (exchange : Exchange) : exchange.read.2.output = exchange.output := by
  obtain ⟨reads, writes, transcript⟩ := exchange
  cases reads with
  | nil => exact (taken_push transcript _).trans (List.append_nil _)
  | cons answer rest => exact (taken_push transcript _).trans (List.append_nil _)

theorem output_write (exchange : Exchange) (byte : UInt8) :
    (exchange.write byte).2.output =
      exchange.output ++ if (exchange.write byte).1.takes then [byte] else [] := by
  have offered : ∀ answer, taken [.write byte answer] =
      if WriteAnswer.takes answer then [byte] else [] := by
    intro answer
    simp only [taken, List.filterMap_cons, List.filterMap_nil]
    cases answer.takes with
    | false => rfl
    | true => rfl
  obtain ⟨reads, writes, transcript⟩ := exchange
  cases writes with
  | nil =>
      rw [← offered]
      exact taken_push transcript _
  | cons answer rest =>
      rw [← offered]
      exact taken_push transcript _

/-! ## The answers to come -/

section ToCome
variable (exchange : Exchange) (byte : UInt8)

theorem reads_read : exchange.read.2.reads = exchange.reads.drop 1 := by
  obtain ⟨reads, writes, transcript⟩ := exchange
  cases reads with
  | nil => rfl
  | cons answer rest => rfl

theorem writes_read : exchange.read.2.writes = exchange.writes := by
  obtain ⟨reads, writes, transcript⟩ := exchange
  cases reads with
  | nil => rfl
  | cons answer rest => rfl

theorem reads_write : (exchange.write byte).2.reads = exchange.reads := by
  obtain ⟨reads, writes, transcript⟩ := exchange
  cases writes with
  | nil => rfl
  | cons answer rest => rfl

theorem writes_write : (exchange.write byte).2.writes = exchange.writes.drop 1 := by
  obtain ⟨reads, writes, transcript⟩ := exchange
  cases writes with
  | nil => rfl
  | cons answer rest => rfl

end ToCome

/-! ## Streams in memory -/

theorem read_of_answersOf_cons {exchange : Exchange} {byte : UInt8} {rest : List UInt8}
    (reads : exchange.reads = answersOf (byte :: rest)) :
    exchange.read.1 = .data [byte] ∧ exchange.read.2.reads = answersOf rest ∧
      exchange.read.2.writes = exchange.writes := by
  obtain ⟨answers, writes, transcript⟩ := exchange
  have same : answers = answersOf (byte :: rest) := reads
  subst same
  exact ⟨rfl, rfl, rfl⟩

theorem read_of_nil {exchange : Exchange} (dry : exchange.reads = []) :
    exchange.read.1 = .data [] ∧ exchange.read.2.reads = [] ∧
      exchange.read.2.writes = exchange.writes ∧
      exchange.read.2.transcript = exchange.transcript.push (.read (.data [])) := by
  obtain ⟨reads, writes, transcript⟩ := exchange
  have dry : reads = [] := dry
  subst dry
  exact ⟨rfl, rfl, rfl, rfl⟩

theorem write_of_nil {exchange : Exchange} (byte : UInt8) (writes : exchange.writes = []) :
    (exchange.write byte).1 = .count 1 ∧ (exchange.write byte).2.reads = exchange.reads ∧
      (exchange.write byte).2.writes = [] := by
  obtain ⟨reads, answers, transcript⟩ := exchange
  have same : answers = [] := writes
  subst same
  exact ⟨rfl, rfl, rfl⟩

theorem unread_of_answersOf {exchange : Exchange} {bytes : List UInt8}
    (reads : exchange.reads = answersOf bytes) : exchange.unread = bytes := by
  have inMemory := unread_ofBytes bytes
  rw [unread] at inMemory ⊢
  rwa [reads]

/-! ## More to read, and earlier calls -/

/-- The streams with some bytes behind those still to be read. -/
def supply (more : List UInt8) (exchange : Exchange) : Exchange :=
  { exchange with reads := exchange.reads ++ answersOf more }

/-- The streams with some calls made before those of the transcript. -/
def preceded (calls : Array StreamCall) (exchange : Exchange) : Exchange :=
  { exchange with transcript := calls ++ exchange.transcript }

theorem answersOf_append (bytes more : List UInt8) :
    answersOf (bytes ++ more) = answersOf bytes ++ answersOf more :=
  List.map_append

theorem unread_supply (exchange : Exchange) (more : List UInt8) :
    (exchange.supply more).unread = exchange.unread ++ more := by
  have behind := unread_ofBytes more
  simp only [unread, ofBytes] at behind
  simp [unread, supply, behind]

theorem write_supply (exchange : Exchange) (more : List UInt8) (byte : UInt8) :
    (exchange.supply more).write byte =
      ((exchange.write byte).1, (exchange.write byte).2.supply more) := by
  obtain ⟨reads, writes, transcript⟩ := exchange
  cases writes with
  | nil => rfl
  | cons answer rest => rfl

theorem read_supply {exchange : Exchange} (left : exchange.reads ≠ []) (more : List UInt8) :
    (exchange.supply more).read = (exchange.read.1, exchange.read.2.supply more) := by
  obtain ⟨reads, writes, transcript⟩ := exchange
  cases reads with
  | nil => exact (left rfl).elim
  | cons answer rest => rfl

section Preceded
variable (exchange : Exchange) (calls : Array StreamCall)

theorem write_preceded (byte : UInt8) :
    (exchange.preceded calls).write byte =
      ((exchange.write byte).1, (exchange.write byte).2.preceded calls) := by
  obtain ⟨reads, writes, transcript⟩ := exchange
  cases writes with
  | nil => simp [preceded, write]
  | cons answer rest => simp [preceded, write]

theorem read_preceded :
    (exchange.preceded calls).read = (exchange.read.1, exchange.read.2.preceded calls) := by
  obtain ⟨reads, writes, transcript⟩ := exchange
  cases reads with
  | nil => simp [preceded, read]
  | cons answer rest => simp [preceded, read]

theorem output_preceded :
    (exchange.preceded calls).output = taken calls.toList ++ exchange.output := by
  simp [output, preceded, taken_append]

end Preceded

/-! ## Streams whose trouble comes from the system -/

/-- All trouble of the streams comes from the system below them. -/
structure FromSystem (exchange : Exchange) : Prop where
  reads : ∀ fault, .fault fault ∈ exchange.reads → fault.isSystem = true
  writes : ∀ fault, .fault fault ∈ exchange.writes → fault.isSystem = true

theorem FromSystem.drop {exchange last : Exchange} (fromSystem : exchange.FromSystem)
    {asked offered : Nat} (reads : last.reads = exchange.reads.drop asked)
    (writes : last.writes = exchange.writes.drop offered) : last.FromSystem where
  reads := by
    intro fault member
    rw [reads] at member
    exact fromSystem.reads fault (List.mem_of_mem_drop member)
  writes := by
    intro fault member
    rw [writes] at member
    exact fromSystem.writes fault (List.mem_of_mem_drop member)

theorem FromSystem.read {exchange : Exchange} (fromSystem : exchange.FromSystem) :
    exchange.read.2.FromSystem ∧
      ∀ fault, exchange.read.1 = .fault fault → fault.isSystem = true := by
  obtain ⟨reads, writes, transcript⟩ := exchange
  cases reads with
  | nil =>
      refine ⟨⟨fun _ member => (List.not_mem_nil member).elim, fromSystem.writes⟩, ?_⟩
      intro fault answer
      cases answer
  | cons answer rest =>
      refine ⟨⟨fun fault member => fromSystem.reads fault (List.mem_cons_of_mem _ member),
        fromSystem.writes⟩, ?_⟩
      intro fault same
      have same : answer = .fault fault := same
      exact fromSystem.reads fault (same ▸ List.mem_cons_self ..)

theorem FromSystem.write {exchange : Exchange} (fromSystem : exchange.FromSystem)
    (byte : UInt8) :
    (exchange.write byte).2.FromSystem ∧
      ∀ fault, (exchange.write byte).1 = .fault fault → fault.isSystem = true := by
  obtain ⟨reads, writes, transcript⟩ := exchange
  cases writes with
  | nil =>
      refine ⟨⟨fromSystem.reads, fun _ member => (List.not_mem_nil member).elim⟩, ?_⟩
      intro fault answer
      cases answer
  | cons answer rest =>
      refine ⟨⟨fromSystem.reads,
        fun fault member => fromSystem.writes fault (List.mem_cons_of_mem _ member)⟩, ?_⟩
      intro fault same
      have same : answer = .fault fault := same
      exact fromSystem.writes fault (same ▸ List.mem_cons_self ..)

end TapeMachine.Exchange
