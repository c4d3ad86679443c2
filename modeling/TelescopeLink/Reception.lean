import TelescopeLink.Inbox
import TelescopeLink.Message.Datagram

/-!
# Reception

The receiver asks the link for datagrams, one after another into the same buffer, and puts the
messages in them into the inbox. It goes on until it is told to stop, which it sees before it asks
again, or until a message finds no taker. Nothing that arrives stops it: a call that gives nothing
or fails is followed by the next, and a datagram without a whole header is dropped.
-/

namespace TelescopeLink

/-- What one call for a datagram gives. -/
inductive Arrival
  | datagram (bytes : Datagram)
  /-- The wait was in vain. -/
  | nothing
  | failed (error : Error)
deriving DecidableEq

/-- The datagram that arrives, if one does. -/
def Arrival.datagram? : Arrival → Option Datagram
  | .datagram bytes => some bytes
  | _ => none

/-- One call for a datagram, with what happens beside it while it lasts. -/
structure Call where
  arrival : Arrival
  /-- The receiver is told to stop. -/
  stops : Bool := false
  /-- The taker of the inbox goes away. -/
  takerLeaves : Bool := false

/-- The state of the receiver. -/
structure Reception where
  /-- The size of the buffer. -/
  capacity : Nat
  /-- The bytes of the buffer as far as datagrams have reached; the others were never written. -/
  buffer : List UInt8 := []
  inbox : Inbox := {}
  /-- Not told to stop. -/
  running : Bool := true
  /-- Gave up because a message found no taker. -/
  abandoned : Bool := false
  /-- How many calls were made. -/
  calls : Nat := 0

namespace Reception

/-- How many bytes a buffer can have at most. -/
def maxCapacity : Nat := 1 <<< 63 - 1

/-- The receiver makes no more calls. -/
def hasStopped (reception : Reception) : Bool := !reception.running || reception.abandoned

/-- Writes a datagram into the buffer, as much of it as there is room for; how much that was. -/
def store (reception : Reception) (bytes : Datagram) : Nat × Reception :=
  let kept := bytes.take reception.capacity
  (kept.length, { reception with buffer := kept ++ reception.buffer.drop kept.length })

/-- Hands on the message in the first `length` bytes of the buffer, if they hold one. -/
def handOn (reception : Reception) (length : Nat) : Reception :=
  match Datagram.message (reception.buffer.take length) with
  -- No whole header: the datagram is dropped.
  | .error _ => reception
  | .ok message =>
    let (accepted, inbox) := reception.inbox.push message
    { reception with inbox := inbox, abandoned := !accepted }

/-- What happens beside a call. -/
def witness (reception : Reception) (call : Call) : Reception :=
  { reception with
    calls := reception.calls + 1
    running := reception.running && !call.stops
    inbox := if call.takerLeaves then reception.inbox.dropTaker else reception.inbox }

/-- One call and what the receiver makes of it. -/
def step (reception : Reception) (call : Call) : Reception :=
  if reception.hasStopped then reception
  else
    let reception := reception.witness call
    match call.arrival with
    | .datagram bytes =>
      let (length, reception) := reception.store bytes
      reception.handOn length
    | .nothing => reception
    | .failed _ => reception

/-- The calls one after another. -/
def run (reception : Reception) (calls : List Call) : Reception := calls.foldl step reception

end Reception

end TelescopeLink
