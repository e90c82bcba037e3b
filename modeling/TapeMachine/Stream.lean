/-!
# Streams

A running program asks one stream for bytes and offers bytes to another.  How the two answer is a
script given in advance.  An `Exchange` holds what is left of both scripts and a transcript of
every call made so far, from which the output is read off.
-/

set_option autoImplicit false

namespace TapeMachine

inductive StreamFaultKind where
  | system
  | brokenPipe
  | timedOut
  | numbered (code : Int)
  | misuse
  | exhausted
  deriving DecidableEq, Repr

structure StreamFault where
  kind : StreamFaultKind
  text : String
  deriving DecidableEq, Repr

namespace StreamFault

def isSystem (fault : StreamFault) : Bool :=
  match fault.kind with
  | .system | .brokenPipe | .timedOut | .numbered _ => true
  | .misuse | .exhausted => false

/-- The trouble in words; a number is given first. -/
def message (fault : StreamFault) : String :=
  match fault.kind with
  | .numbered code => "[Errno " ++ toString code ++ "] " ++ fault.text
  | _ => fault.text

/-- What a program meets that asks for a byte when none is left. -/
def noMoreInput : StreamFault := ⟨.exhausted, "failed to fill whole buffer: no more input"⟩

/-- What a program meets whose byte was not taken exactly once. -/
def shortWrite (written : Int) : StreamFault :=
  ⟨.system, "short write: " ++ toString written ++ " of 1 byte written"⟩

end StreamFault

/-- How a stream answers a request for one byte.  Of several bytes only the first one counts. -/
inductive ReadAnswer where
  | data (bytes : List UInt8)
  | nothing
  | fault (fault : StreamFault)
  deriving DecidableEq, Repr

/-- How a stream answers the offer of one byte: with the number of bytes it took, or without one. -/
inductive WriteAnswer where
  | count (written : Int)
  | nothing
  | fault (fault : StreamFault)
  deriving DecidableEq, Repr

namespace WriteAnswer

def takes : WriteAnswer → Bool
  | count written => 0 < written
  | nothing => true
  | fault _ => false

end WriteAnswer

inductive StreamCall where
  | read (answer : ReadAnswer)
  | write (byte : UInt8) (answer : WriteAnswer)
  deriving DecidableEq, Repr

structure Exchange where
  reads : List ReadAnswer
  writes : List WriteAnswer
  transcript : Array StreamCall
  deriving DecidableEq, Repr

namespace Exchange

def answersOf (bytes : List UInt8) : List ReadAnswer :=
  bytes.map fun byte => ReadAnswer.data [byte]

def ofBytes (bytes : List UInt8) : Exchange := ⟨answersOf bytes, [], #[]⟩

/-- Asks for a byte.  After the script nothing comes any more. -/
def read (exchange : Exchange) : ReadAnswer × Exchange :=
  match exchange.reads with
  | [] => (.data [], { exchange with transcript := exchange.transcript.push (.read (.data [])) })
  | answer :: rest =>
    (answer,
      { exchange with reads := rest, transcript := exchange.transcript.push (.read answer) })

/-- Offers a byte.  After the script every byte is taken. -/
def write (exchange : Exchange) (byte : UInt8) : WriteAnswer × Exchange :=
  match exchange.writes with
  | [] =>
    (.count 1,
      { exchange with transcript := exchange.transcript.push (.write byte (.count 1)) })
  | answer :: rest =>
    (answer,
      { exchange with writes := rest, transcript := exchange.transcript.push (.write byte answer) })

def taken (calls : List StreamCall) : List UInt8 :=
  calls.filterMap fun call =>
    match call with
    | .read _ => none
    | .write byte answer => if answer.takes then some byte else none

def output (exchange : Exchange) : List UInt8 := taken exchange.transcript.toList

/-- The bytes in memory that no read has taken. -/
def unread (exchange : Exchange) : List UInt8 :=
  exchange.reads.flatMap fun answer =>
    match answer with
    | .data bytes => bytes
    | _ => []

theorem taken_append (calls more : List StreamCall) :
    taken (calls ++ more) = taken calls ++ taken more := List.filterMap_append

theorem unread_ofBytes (bytes : List UInt8) : (ofBytes bytes).unread = bytes := by
  simp [ofBytes, unread, answersOf, List.flatMap_map]

end Exchange

end TapeMachine
