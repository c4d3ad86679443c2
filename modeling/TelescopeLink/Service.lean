import TelescopeLink.Bridge
import TelescopeLink.Reception
import TelescopeLink.Waiting

/-!
# The service

A bridge at work: a receiver takes datagrams from the link and puts the messages in them into the
inbox, a dispatcher takes them out and leads them to their requests, and callers submit commands.
The two work one turn at a time, in any order, and share nothing but the inbox and whether the
service is running.

The far end is whatever answers datagrams; what it sends may depend on all it got before. `execute`
is one exchange with it as a caller sees it.
-/

namespace TelescopeLink

/-- The datagrams that the far end sends when it has got these, the newest last. -/
abbrev FarEnd := List Datagram → List Datagram

/-- A bridge with its receiver. -/
structure Service where
  bridge : Bridge
  reception : Reception
  /-- The receiver died. -/
  receiverLost : Bool := false
  /-- The dispatcher has not found the inbox closed. -/
  dispatching : Bool := true
  /-- The service was shut down. -/
  isShut : Bool := false

namespace Service

/-- The dialect to speak. The settings are looked at before it. -/
def dialectFor (settings : Settings) : Except Error Dialect := do
  settings.validate
  match Dialect.ofName? settings.proxy.dialect with
  | some dialect => return dialect
  | none => throw (.unknownDialect settings.proxy.dialect)

/-- The receiver dies, and nothing more reaches the inbox. -/
def loseReceiver (service : Service) : Service :=
  { service with
    receiverLost := true
    reception := { service.reception with inbox := service.reception.inbox.dropGiver } }

/-- A service in a dialect over a link. Its receiver dies at once if no buffer can be as large as
the settings want it. -/
def new (settings : Settings) (dialect : Dialect) (link : Link) : Service :=
  let service : Service :=
    { bridge := .new dialect settings link
      reception := { capacity := settings.network.receiveBuffer.toNat } }
  if Reception.maxCapacity < service.reception.capacity then service.loseReceiver else service

/-- A service over a link that is opened once the settings are found good. -/
def start (settings : Settings) (openLink : NetworkSettings → Except Error Link) :
    Except Error Service := do
  let dialect ← dialectFor settings
  let link ← openLink settings.network
  return new settings dialect link

/-- The service has not been told to stop. -/
def isRunning (service : Service) : Bool := service.bridge.running

/-- A link over a network, unless the name of the far end cannot be one or the port is taken. -/
def openNetwork (portTaken : Bool) (refusal : Option IoFault) (settings : NetworkSettings) :
    Except Error Link :=
  if settings.remoteHost.toList.contains '\x00' then .error (.io .nulInName)
  else if portTaken then .error (.io .addressInUse)
  else .ok { medium := .network, refusal }

/-! ## Turns -/

/-- The receiver makes one call, which gives what it gives. -/
def receive (service : Service) (arrival : Arrival) : Service :=
  if service.receiverLost then service
  else { service with reception := service.reception.step { arrival } }

/-- The receiver asks the link once. -/
def receiveOnce (service : Service) : Service :=
  if service.receiverLost || service.reception.hasStopped then service
  else
    let (result, link) := service.bridge.link.receive service.reception.capacity
    let service := { service with bridge := { service.bridge with link } }
    service.receive (match result with
      | .ok (some bytes) => .datagram bytes
      | .ok none => .nothing
      | .error error => .failed error)

/-- The dispatcher takes the oldest message and leads it to its request; the message, if there was
one. -/
def dispatchOnce (service : Service) : Service × Option Message :=
  if service.isRunning && service.dispatching then
    match service.reception.inbox.pop with
    | (.message message, inbox) =>
      ({ service with
          reception := { service.reception with inbox }
          bridge := (service.bridge.dispatch message).1 }, some message)
    | (.nothing, _) => (service, none)
    | (.closed, _) => ({ service with dispatching := false }, none)
  else (service, none)

/-- So many turns of the receiver. -/
def receiveTimes (service : Service) : Nat → Service
  | 0 => service
  | n + 1 => service.receiveOnce.receiveTimes n

/-- So many turns of the dispatcher. -/
def dispatchTimes (service : Service) : Nat → Service
  | 0 => service
  | n + 1 => service.dispatchOnce.1.dispatchTimes n

/-- A datagram arrives, and the message in it is led to its request. -/
def hear (service : Service) (bytes : Datagram) : Service :=
  let service := service.receive (.datagram bytes)
  service.dispatchTimes service.reception.inbox.messages.length

/-- Works until nothing is left to receive and to dispatch. -/
def settle (service : Service) : Service :=
  let link := service.bridge.link
  let service := service.receiveTimes (link.receiveFaults + link.inbound.length)
  service.dispatchTimes service.reception.inbox.messages.length

/-! ## Callers -/

/-- Submits a command and gives the place of its request. -/
def submit (service : Service) (command : Command) (session : Session) : Option (Nat × Service) :=
  (service.bridge.submit command session).map fun (place, bridge, _) =>
    (place, { service with bridge })

/-- The far end gets what was sent since there were `before` datagrams, and its answers arrive. -/
def exchange (service : Service) (farEnd : FarEnd) (before : Nat) : Service :=
  let link := service.bridge.link
  let answers := (List.range' before (link.sent.length - before)).flatMap fun i =>
    farEnd (link.sent.take (i + 1))
  { service with bridge := { service.bridge with link := answers.foldl Link.inject link } }.settle

/-- What a request's caller was told, as visits at the place where it waits. -/
def visits (service : Service) (place : Nat) : List Slot.Visit :=
  (service.bridge.log.filter (·.request = place)).map fun callback =>
    match callback.notice with
    | .keepAlive timeToComplete => .keepAlive timeToComplete
    | .done outcome => .done outcome

/-- How long the caller of a request should wait from now on. -/
def allowedTime (service : Service) (place : Nat) : Span :=
  (service.bridge.requests[place]?.bind Request.handlingTime?).getD ⟨0⟩

/-- Submits a command, lets the far end answer, and gives what the caller gets that waited: the
outcome, or that of a wait in vain. -/
def execute (service : Service) (farEnd : FarEnd) (command : Command) :
    Option (Outcome × Service) :=
  (service.submit command (.single {})).map fun (place, submitted) =>
    let service := submitted.exchange farEnd service.bridge.link.sent.length
    let slot := ({} : Slot).visitAll 0 (service.visits place)
    ((slot.wait 0 (service.allowedTime place) []).outcome, service)

/-- Stops the service and closes its link; a worker that died is reported once. -/
def shutdown (service : Service) : Except Error Unit × Service :=
  if service.isShut then (.ok (), service)
  else
    (if service.receiverLost then .error .workerDied else .ok (),
      { service with
        bridge := { service.bridge with running := false, link := service.bridge.link.close }
        reception := { service.reception with running := false }
        isShut := true })

end Service

end TelescopeLink
