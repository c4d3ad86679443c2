import TelescopeLink.Message.Datagram

/-!
# Links

A link carries datagrams to and from the far end until it is closed. A link in memory takes every
datagram; one over a network takes those that fit a packet. Either may refuse all of them for as
long as something is wrong.

A receiver offers room for so many bytes, and what is longer loses its end.
-/

namespace TelescopeLink

/-- What carries the datagrams. -/
inductive Medium
  | memory
  | network
deriving DecidableEq

/-- How many bytes of a datagram a packet can state. -/
def Medium.maxPacket : Nat := 65535

/-- How many bytes of a datagram fit a packet beside its own headers. -/
def Medium.maxPayload : Nat := 65507

/-- One end of a link, with the datagrams that wait to be received and those that were sent. -/
structure Link where
  medium : Medium := .memory
  /-- Not closed. -/
  bound : Bool := true
  inbound : List Datagram := []
  sent : List Datagram := []
  /-- What every sending fails with at present. -/
  refusal : Option IoFault := none
  /-- How many receptions were told to fail. -/
  receiveFaults : Nat := 0

namespace Link

/-- What a link that is not closed has against a datagram. A network looks at a statement of the
length first, then for a way, and then at what fits. -/
def objection? (link : Link) (bytes : Datagram) : Option IoFault :=
  match link.medium with
  | .memory => link.refusal
  | .network =>
    if Medium.maxPacket < bytes.length then some .messageTooLong
    else
      match link.refusal with
      | some fault => some fault
      | none => if Medium.maxPayload < bytes.length then some .messageTooLong else none

/-- Sends a datagram. -/
def send (link : Link) (bytes : Datagram) : Except Error Link :=
  if !link.bound then .error .notBound
  else
    match link.objection? bytes with
    | some fault => .error (.io fault)
    | none => .ok { link with sent := link.sent ++ [bytes] }

/-- Receives the oldest datagram, or as much of it as there is room for. -/
def receive (link : Link) (room : Nat) : Except Error (Option Datagram) × Link :=
  if !link.bound then (.error .notBound, link)
  else
    match link.receiveFaults with
    | faults + 1 => (.error (.io .receiveFailure), { link with receiveFaults := faults })
    | 0 =>
      match link.inbound with
      | bytes :: rest => (.ok (some (bytes.take room)), { link with inbound := rest })
      | [] => (.ok none, link)

/-- A datagram arrives. -/
def inject (link : Link) (bytes : Datagram) : Link :=
  { link with inbound := link.inbound ++ [bytes] }

/-- Makes all sending fail, or no longer. -/
def refuse (link : Link) (on : Bool) : Link :=
  { link with refusal := if on then some .sendFailure else none }

/-- Closes the link. -/
def close (link : Link) : Link := { link with bound := false }

end Link

end TelescopeLink
