import TelescopeLink.Service

/-!
# Callers over a wire

Over a wire a datagram may not get away, and an answer takes its time. So the command that is
submitted is the one that the wire has been asked about (`posted?`, `submitUnder`), and whoever
submitted it hears datagrams and looks again and again, until there is an outcome or its time is up
(`Caller.look`, `Caller.hear`). To carry the datagrams and to read the clock is all that is left to
the owner of the wire.
-/

namespace TelescopeLink

namespace Service

/-- Submits a command at a time, over a link that refuses every datagram with this fault or takes
them. The caller waits for the outcome and does nothing else. -/
def submitUnder (service : Service) (clock : Timestamp) (refusal : Option IoFault)
    (command : Command) : Option (Nat × Service) :=
  let link := { service.bridge.link with refusal }
  { service with bridge := { service.bridge with link, clock } }.submit command (.single {})

/-- The datagram that a command puts on a link that takes it. -/
def posted? (service : Service) (clock : Timestamp) (command : Command) : Option Datagram :=
  (service.submitUnder clock none command).bind fun (_, submitted) =>
    (submitted.bridge.link.sent.drop service.bridge.link.sent.length).head?

end Service

/-- Whoever waits for the outcome of a request, with the service that it hears datagrams for. -/
structure Caller where
  service : Service
  place : Nat
  slot : Slot
  /-- How many of the visits at its place are in the slot. -/
  seen : Nat := 0

namespace Caller

/-- A caller that begins to wait at a moment. -/
def new (service : Service) (place moment : Nat) : Caller :=
  { service, place, slot := ({} : Slot).extendTo (moment + (service.allowedTime place).nanos) }

/-- What was told since the caller looked last goes into its slot. -/
def refresh (caller : Caller) (moment : Nat) : Caller :=
  let visits := caller.service.visits caller.place
  { caller with
    slot := caller.slot.visitAll moment (visits.drop caller.seen)
    seen := visits.length }

/-- Looks at a moment: the outcome that the caller goes on with, or for how long it may hear
datagrams before it has to look again. -/
def look (caller : Caller) (moment : Nat) : Caller × Except Nat Outcome :=
  let caller := caller.refresh moment
  (caller, caller.slot.look moment)

/-- Hears a datagram. -/
def hear (caller : Caller) (bytes : Datagram) : Caller :=
  { caller with service := caller.service.hear bytes }

end Caller

end TelescopeLink
