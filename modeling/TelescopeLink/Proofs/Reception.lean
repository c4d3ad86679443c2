import Mathlib.Data.List.Basic
import TelescopeLink.Reception

/-!
# What a receiver makes of arrivals

The receiver writes one datagram after another into the same buffer, each as far as there is room,
and reads only as much of the buffer as the last one filled. So what an earlier datagram left behind
it is never read (`take_store`), and each call puts behind the messages in the inbox what its own
datagram says, if that still has a whole header, and nothing else.

What one call does is said once, by `step_made`; what whole runs do follows from it.
-/

namespace TelescopeLink

namespace Datagram

/-- A whole header is all that a message needs. -/
theorem message_of_headerLength_le {bytes : Datagram} (h : headerLength ≤ bytes.length) :
    ∃ result, message bytes = .ok result := by
  unfold message read
  rw [if_neg (Nat.not_lt.mpr h)]
  exact ⟨_, rfl⟩

/-- Without a whole header nothing is read. -/
theorem message_of_lt_headerLength {bytes : Datagram} (h : bytes.length < headerLength) :
    message bytes = .error (.shortDatagram bytes.length) := by
  unfold message read
  rw [if_pos h]
  rfl

/-- What is read from datagrams that are received with so much room: each is cut off, and those that
still have a whole header are read. -/
def heard (room : Nat) (datagrams : List Datagram) : List (Except Error Message) :=
  ((datagrams.map (·.take room)).filter (headerLength ≤ ·.length)).map message

@[simp] theorem heard_nil (room : Nat) : heard room [] = [] := rfl

theorem heard_append (room : Nat) (datagrams later : List Datagram) :
    heard room (datagrams ++ later) = heard room datagrams ++ heard room later := by
  simp [heard]

theorem heard_of_headerLength_le {room : Nat} {bytes : Datagram}
    (h : headerLength ≤ (bytes.take room).length) :
    heard room [bytes] = [message (bytes.take room)] := by
  simp only [heard, List.map_singleton, List.filter_cons, List.filter_nil, decide_eq_true_eq]
  rw [if_pos h, List.map_singleton]

/-- Too little of a datagram is as good as none. -/
theorem heard_of_lt_headerLength {room : Nat} {bytes : Datagram}
    (h : (bytes.take room).length < headerLength) : heard room [bytes] = [] := by
  simp only [heard, List.map_singleton, List.filter_cons, List.filter_nil, decide_eq_true_eq]
  rw [if_neg (Nat.not_le.mpr h), List.map_nil]

end Datagram

/-- The call gives a datagram with a whole header, as far as there is room for it. -/
def Call.isReadable (room : Nat) (call : Call) : Bool :=
  call.arrival.datagram?.any fun bytes => Datagram.headerLength ≤ (bytes.take room).length

namespace Reception

/-- What the receiver reads of its buffer is the datagram that it has just stored. -/
@[simp] theorem take_store (reception : Reception) (bytes : Datagram) :
    (reception.store bytes).2.buffer.take (reception.store bytes).1 =
      bytes.take reception.capacity := by
  simp [store]

/-! ### One call -/

section Step

variable {reception : Reception} (h : reception.hasStopped = false) {call : Call}
include h

/-- A call that gives no datagram is counted, and that is all the receiver makes of it. -/
theorem step_of_none (harrival : call.arrival.datagram? = none) :
    reception.step call = reception.witness call := by
  rw [step, if_neg (by simp [h])]
  cases hcall : call.arrival with
  | datagram bytes => simp [Arrival.datagram?, hcall] at harrival
  | nothing => rfl
  | failed error => rfl

/-- What comes of a datagram depends on it and on the inbox, and not on what the buffer held. -/
theorem step_of_datagram {bytes : Datagram} (harrival : call.arrival.datagram? = some bytes) :
    reception.step call =
      match Datagram.message (bytes.take reception.capacity) with
      | .error _ => ((reception.witness call).store bytes).2
      | .ok message =>
        { ((reception.witness call).store bytes).2 with
          inbox := ((reception.witness call).inbox.push message).2
          abandoned := !((reception.witness call).inbox.push message).1 } := by
  have hcall : call.arrival = .datagram bytes := by
    cases hcall : call.arrival <;> simp_all [Arrival.datagram?]
  rw [step, if_neg (by simp [h]), hcall]
  show ((reception.witness call).store bytes).2.handOn ((reception.witness call).store bytes).1 = _
  rw [handOn, take_store]
  rfl

theorem step_of_short {bytes : Datagram} (harrival : call.arrival.datagram? = some bytes)
    (hshort : (bytes.take reception.capacity).length < Datagram.headerLength) :
    reception.step call = ((reception.witness call).store bytes).2 := by
  rw [step_of_datagram h harrival, Datagram.message_of_lt_headerLength hshort]

theorem step_of_message {bytes : Datagram} {message : Message}
    (harrival : call.arrival.datagram? = some bytes)
    (hmessage : Datagram.message (bytes.take reception.capacity) = .ok message) :
    reception.step call =
      { ((reception.witness call).store bytes).2 with
        inbox := ((reception.witness call).inbox.push message).2
        abandoned := !((reception.witness call).inbox.push message).1 } := by
  rw [step_of_datagram h harrival, hmessage]

end Step

/-- A receiver that had not stopped has made a call. -/
structure Made (reception : Reception) (call : Call) (after : Reception) : Prop where
  capacity : after.capacity = reception.capacity
  calls : after.calls = reception.calls + 1
  running : after.running = (reception.running && !call.stops)
  giver : after.inbox.giverGone = reception.inbox.giverGone
  taker : after.inbox.takerGone = (reception.inbox.takerGone || call.takerLeaves)
  /-- It gives up if there is a message and nobody to take it. -/
  abandoned : after.abandoned = (call.isReadable reception.capacity && after.inbox.takerGone)
  /-- What is heard goes behind the messages in the inbox. -/
  messages : after.inbox.takerGone = false →
    after.inbox.messages.map Except.ok =
      reception.inbox.messages.map Except.ok ++
        Datagram.heard reception.capacity call.arrival.datagram?.toList

theorem takerGone_witness (reception : Reception) (call : Call) :
    (reception.witness call).inbox.takerGone =
      (reception.inbox.takerGone || call.takerLeaves) := by
  cases hcall : call.takerLeaves <;> simp [witness, hcall, Inbox.dropTaker]

theorem giverGone_witness (reception : Reception) (call : Call) :
    (reception.witness call).inbox.giverGone = reception.inbox.giverGone := by
  cases hcall : call.takerLeaves <;> simp [witness, hcall, Inbox.dropTaker]

theorem messages_witness {reception : Reception} {call : Call}
    (h : (reception.witness call).inbox.takerGone = false) :
    (reception.witness call).inbox.messages = reception.inbox.messages := by
  rw [takerGone_witness, Bool.or_eq_false_iff] at h
  simp [witness, h.2]

/-- **What one call does.** -/
theorem step_made {reception : Reception} (h : reception.hasStopped = false) (call : Call) :
    reception.Made call (reception.step call) := by
  have hkept : reception.abandoned = false := by
    simp only [hasStopped, Bool.or_eq_false_iff] at h
    exact h.2
  -- Of the three kinds of call only one with a message puts anything into the inbox.
  cases harrival : call.arrival.datagram? with
  | none =>
      have hunread : call.isReadable reception.capacity = false := by
        simp [Call.isReadable, harrival]
      rw [step_of_none h harrival]
      exact ⟨rfl, rfl, rfl, giverGone_witness .., takerGone_witness ..,
        by simp [witness, hkept, hunread], fun htaker => by simp [messages_witness htaker, harrival]⟩
  | some bytes =>
      by_cases hheader : Datagram.headerLength ≤ (bytes.take reception.capacity).length
      · have hread : call.isReadable reception.capacity = true := by
          rw [Call.isReadable, harrival]
          exact decide_eq_true hheader
        obtain ⟨message, hmessage⟩ := Datagram.message_of_headerLength_le hheader
        rw [step_of_message h harrival hmessage]
        refine ⟨rfl, rfl, rfl, ?_, ?_, ?_, ?_⟩
        · exact (Inbox.giverGone_push ..).trans (giverGone_witness ..)
        · exact (Inbox.takerGone_push ..).trans (takerGone_witness ..)
        · simp [hread]
        · intro htaker
          have hbeside : (reception.witness call).inbox.takerGone = false :=
            (Inbox.takerGone_push ..).symm.trans htaker
          rw [Inbox.messages_push hbeside, messages_witness hbeside, harrival, Option.toList_some,
            Datagram.heard_of_headerLength_le hheader, hmessage, List.map_append,
            List.map_singleton]
      · have hshort := Nat.not_le.mp hheader
        have hunread : call.isReadable reception.capacity = false := by
          rw [Call.isReadable, harrival]
          exact decide_eq_false hheader
        rw [step_of_short h harrival hshort]
        refine ⟨rfl, rfl, rfl, giverGone_witness .., takerGone_witness .., ?_, ?_⟩
        · simp [store, witness, hkept, hunread]
        · intro htaker
          rw [harrival, Option.toList_some, Datagram.heard_of_lt_headerLength hshort,
            List.append_nil]
          exact congrArg (List.map _) (messages_witness htaker)

/-- The receiver is at work: it has not stopped, and somebody takes what it hands on. -/
structure AtWork (reception : Reception) : Prop where
  running : reception.running = true
  notAbandoned : reception.abandoned = false
  taker : reception.inbox.takerGone = false

namespace AtWork

variable {reception : Reception} (h : reception.AtWork)
include h

theorem notStopped : reception.hasStopped = false := by
  simp [hasStopped, h.running, h.notAbandoned]

/-- **One call**, if the receiver is not told to stop and its taker stays: what the datagram says goes
behind the messages in the inbox. -/
theorem step (arrival : Arrival) :
    (reception.step { arrival }).AtWork ∧
      (reception.step { arrival }).capacity = reception.capacity ∧
      (reception.step { arrival }).inbox.giverGone = reception.inbox.giverGone ∧
      (reception.step { arrival }).inbox.messages.map Except.ok =
        reception.inbox.messages.map Except.ok ++
          Datagram.heard reception.capacity arrival.datagram?.toList := by
  have hmade := step_made h.notStopped { arrival }
  have htaker : (reception.step { arrival }).inbox.takerGone = false := by
    rw [hmade.taker, h.taker]
    rfl
  refine ⟨⟨?_, ?_, htaker⟩, hmade.capacity, hmade.giver, hmade.messages htaker⟩
  · rw [hmade.running, h.running]
    rfl
  · rw [hmade.abandoned, htaker, Bool.and_false]

end AtWork

end Reception

end TelescopeLink
