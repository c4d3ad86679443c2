import TelescopeLink.Message

/-!
# The inbox

Messages that have been received and not been looked at, oldest first. One side puts them in and the
other takes them out, and either side may go away: without a taker nothing more is accepted and what
is left is lost, and without a giver the taker still gets everything that is left.
-/

namespace TelescopeLink

/-- Messages on their way from the receiver to the dispatcher. -/
structure Inbox where
  messages : List Message := []
  /-- No more messages will come. -/
  giverGone : Bool := false
  /-- Nobody will take any more messages. -/
  takerGone : Bool := false

namespace Inbox

/-- What taking from an inbox gives. -/
inductive Taken
  | message (message : Message)
  /-- There is none yet. -/
  | nothing
  /-- There will be none. -/
  | closed
deriving DecidableEq

/-- Puts a message behind the others; false if nobody will take it. -/
def push (inbox : Inbox) (message : Message) : Bool × Inbox :=
  if inbox.takerGone then (false, inbox)
  else (true, { inbox with messages := inbox.messages ++ [message] })

/-- Takes the oldest message. -/
def pop (inbox : Inbox) : Taken × Inbox :=
  match inbox.messages with
  | message :: rest => (.message message, { inbox with messages := rest })
  | [] => (if inbox.giverGone then .closed else .nothing, inbox)

/-- The giver goes away. -/
def dropGiver (inbox : Inbox) : Inbox := { inbox with giverGone := true }

/-- The taker goes away. -/
def dropTaker (inbox : Inbox) : Inbox := { inbox with messages := [], takerGone := true }

/-! ## First in, first out -/

/-- A message is accepted as long as somebody may take it. -/
@[simp] theorem accepted_push (inbox : Inbox) (message : Message) :
    (inbox.push message).1 = !inbox.takerGone := by
  cases h : inbox.takerGone <;> simp [push, h]

@[simp] theorem takerGone_push (inbox : Inbox) (message : Message) :
    (inbox.push message).2.takerGone = inbox.takerGone := by
  cases h : inbox.takerGone <;> simp [push, h]

@[simp] theorem giverGone_push (inbox : Inbox) (message : Message) :
    (inbox.push message).2.giverGone = inbox.giverGone := by
  cases h : inbox.takerGone <;> simp [push, h]

theorem messages_push {inbox : Inbox} (h : inbox.takerGone = false) (message : Message) :
    (inbox.push message).2.messages = inbox.messages ++ [message] := by
  simp [push, h]

theorem pop_of_messages_eq_cons {inbox : Inbox} {message : Message} {rest : List Message}
    (h : inbox.messages = message :: rest) :
    inbox.pop = (.message message, { inbox with messages := rest }) := by
  simp [pop, h]

/-- The taker hears that there will be no more messages only when it has taken them all. -/
theorem pop_eq_closed_iff {inbox : Inbox} :
    inbox.pop.1 = .closed ↔ inbox.messages = [] ∧ inbox.giverGone = true := by
  cases h : inbox.messages <;> cases hg : inbox.giverGone <;> simp [pop, h, hg]

end Inbox

end TelescopeLink
