import TelescopeLink.Dialect
import TelescopeLink.Link
import TelescopeLink.Registry
import TelescopeLink.Request
import TelescopeLink.Settings

/-!
# The bridge

The bridge takes commands, sends them to the far end, and leads every reply to the request it
belongs to. It holds all requests ever made, in order, and the registry maps each number in use to
the place of its request.

* `create` registers a request, `send` translates and transmits it, and `submit` does both.
* `complete` applies an event to a request: a keep-alive is relayed, anything else ends the request.
* `dispatch` leads a message to the request that owns its number.

A request ends once. Whatever ends it releases its number and takes its session away before the
caller is told, so nothing that the caller does can end it again, and nothing is told to it later.
All this happens before a callback may fail, and a failed callback leaves nothing undone: each
operation gives the bridge after it and whether a callback failed.

Everything that reaches a caller is in `log`, in order.
-/

namespace TelescopeLink

/-- The addresses and the class of service of outgoing messages. -/
structure Endpoint where
  localId : Int32
  remoteId : Int32
  serviceClass : Int32
deriving DecidableEq

/-- The endpoint that the settings of a link describe. -/
def NetworkSettings.endpoint (settings : NetworkSettings) : Endpoint :=
  ⟨settings.localId, settings.remoteId, settings.serviceClass⟩

/-- Requests between callers and the far end. -/
structure Bridge where
  dialect : Dialect
  endpoint : Endpoint
  settings : ProxySettings
  /-- The places of requests by their numbers. -/
  registry : Registry Nat
  /-- All requests, in order of their creation. -/
  requests : List Request := []
  link : Link := {}
  /-- Messages are to be dispatched. -/
  running : Bool := true
  /-- The time that outgoing messages are stamped with. -/
  clock : Timestamp := ⟨0, 0⟩
  /-- What callers were told, in order. -/
  log : List Callback := []

/-- What became of a message. -/
inductive Dispatched
  | delivered
  /-- No request has its number. -/
  | noRequest
  /-- It means nothing to any request. -/
  | ignored
  /-- Its request was told, and a callback failed. -/
  | faulted
deriving DecidableEq

namespace Bridge

/-- A bridge without requests. -/
def new (dialect : Dialect) (settings : Settings) (link : Link) : Bridge :=
  { dialect
    endpoint := settings.network.endpoint
    settings := settings.proxy
    registry := .startingAt settings.proxy.startSequence
    link }

/-- How many requests have numbers. -/
def outstanding (bridge : Bridge) : Nat := bridge.registry.size

/-- Changes the request at a place. -/
def modifyRequest (bridge : Bridge) (place : Nat) (change : Request → Request) : Bridge :=
  { bridge with requests := bridge.requests.modify place change }

/-- Records that the caller of a request is told something. -/
def tell (bridge : Bridge) (place : Nat) (request : Request) (notice : Notice) : Bridge :=
  { bridge with
    log := bridge.log ++
      [{ request := place
         sequence := request.sequence
         typeName := request.command.typeName
         notice
         registered := bridge.registry.contains request.sequence }] }

/-! ## Creating and sending -/

/-- Registers a new request under the next free number and gives its place; nothing if every number
is in use. -/
def create (bridge : Bridge) (command : Command) (session : Session) : Option (Nat × Bridge) :=
  (bridge.registry.allocate? fun _ => bridge.requests.length).map fun (sequence, registry) =>
    (bridge.requests.length,
      { bridge with
        registry
        requests := bridge.requests ++
          [{ sequence
             command
             estimate := bridge.settings.handlingTime command.typeName
             session := some session }] })

/-- The message that asks the far end to do what a request wants. -/
def commandMessage (bridge : Bridge) (request : Request) (text : String) : Message :=
  { sender := bridge.endpoint.localId
    receiver := bridge.endpoint.remoteId
    classCode := MessageClass.command.code
    serviceClass := bridge.endpoint.serviceClass
    sequence := request.sequence
    text }

/-- Sends the text of a request. The text is recorded before it is sent. -/
def transmit (bridge : Bridge) (place : Nat) (request : Request) (text : String) :
    Bridge × Option Outcome :=
  let datagram := Datagram.ofMessage (bridge.commandMessage request text) bridge.clock
  let bridge := bridge.modifyRequest place ({ · with wireText := some text })
  match bridge.link.send datagram with
  | .ok link => ({ bridge with link }, none)
  | .error error => (bridge, some (Outcome.failed Outcome.transmitFailed error.message))

/-- Translates and sends a request. If it does not reach the wire, this is its outcome: that of a
command without words is a success. -/
def attempt (bridge : Bridge) (place : Nat) (request : Request) : Bridge × Option Outcome :=
  match bridge.dialect.render request.command with
  | .ok (some text) => bridge.transmit place request text
  | .ok none => (bridge, some (Outcome.ok []))
  | .error refusal =>
    (bridge, some (Outcome.failed Outcome.translationFailed (Error.translation refusal).message))

/-! ## Ending a request -/

/-- Marks a request as completed, releases its number and lets go of its session. -/
def retire (bridge : Bridge) (place : Nat) (request : Request) : Bridge :=
  { bridge.modifyRequest place Request.complete with
    registry := bridge.registry.release request.sequence }

/-- Ends a request whose session this is, and tells it the outcome. A further command of the session
is submitted from its callback. -/
def conclude : Session → Bridge → (place : Nat) → Request → Outcome → Bridge × Bool
  | session, bridge, place, request, outcome =>
    let bridge := (bridge.retire place request).tell place request (.done outcome)
    -- From here on the caller acts, on a bridge in which its own request is over.
    let bridge := { bridge with running := bridge.running && !session.conduct.halts }
    match session with
    | .single conduct => (bridge, conduct.failsDone)
    | .chain conduct command next =>
      match bridge.create command next with
      | none => (bridge, true)
      | some (place, bridge) =>
        match bridge.requests[place]? with
        | none => (bridge, true)
        | some request =>
          match bridge.attempt place request with
          | (bridge, none) => (bridge, conduct.failsDone)
          | (bridge, some outcome) =>
            let (bridge, failed) := conclude next bridge place request outcome
            (bridge, failed || conduct.failsDone)

/-- Ends a request with an outcome, unless it has ended. -/
def finish (bridge : Bridge) (place : Nat) (outcome : Outcome) : Bridge × Bool :=
  match bridge.requests[place]? with
  | none => (bridge, false)
  | some request =>
    if request.completed then (bridge, false)
    else
      match request.session with
      | some session => conclude session bridge place request outcome
      | none => (bridge.retire place request, false)

/-- Translates and sends a request, and ends it if it does not reach the wire. -/
def send (bridge : Bridge) (place : Nat) : Bridge × Bool :=
  match bridge.requests[place]? with
  | none => (bridge, false)
  | some request =>
    match bridge.attempt place request with
    | (bridge, none) => (bridge, false)
    | (bridge, some outcome) => bridge.finish place outcome

/-- Creates a request and sends it. -/
def submit (bridge : Bridge) (command : Command) (session : Session) :
    Option (Nat × Bridge × Bool) :=
  (bridge.create command session).map fun (place, bridge) => (place, bridge.send place)

/-! ## Events -/

/-- Ends a request with the outcome that a reply tells. -/
def answer (bridge : Bridge) (place : Nat) (text : String) : Bridge × Bool :=
  bridge.finish place (bridge.dialect.reply text)

/-- Relays a keep-alive to a session. The session may complete the request that has its number. -/
def relay (bridge : Bridge) (place : Nat) (request : Request) (session : Session)
    (timeToComplete : Span) : Bridge × Bool :=
  let bridge := (bridge.modifyRequest place ({ · with keepAlives := request.keepAlives + 1 })).tell
    place request (.keepAlive timeToComplete)
  let (bridge, failed) :=
    match session.conduct.conclusion with
    | none => (bridge, false)
    | some text =>
      match bridge.registry.lookup request.sequence with
      | none => (bridge, false)
      -- The number may have passed to another request since; then it is that one that ends.
      | some owner => bridge.answer owner text
  (bridge, failed || session.conduct.failsKeepAlive request.keepAlives)

/-- Tells a request how long its work should still take, if that is a span; the relay fails if it is
none. -/
def relayWithin (bridge : Bridge) (place : Nat) (request : Request) : Option Span → Bridge × Bool
  | none => (bridge, true)
  | some timeToComplete =>
    match request.session with
    | none => (bridge, false)
    | some session => bridge.relay place request session timeToComplete

/-- Takes note of a keep-alive and relays it with the stretched estimate. -/
def keepAlive (bridge : Bridge) (place : Nat) (request : Request) (text : String) : Bridge × Bool :=
  -- The estimate is kept whether or not the relay comes to anything.
  (bridge.modifyRequest place (·.hear text)).relayWithin place (request.hear text)
    (request.hear text).estimate.stretch?

/-- Applies an event to a request. One that has ended hears nothing more. -/
def complete (bridge : Bridge) (place : Nat) (event : Event) : Bridge × Bool :=
  match bridge.requests[place]? with
  | none => (bridge, false)
  | some request =>
    if request.completed then (bridge, false)
    else
      match event with
      | .ack text | .action text => bridge.keepAlive place request text
      | .done text | .response text => bridge.answer place text
      | .error text => bridge.finish place (bridge.dialect.errorReply text)

/-! ## Messages -/

/-- Leads a message to the request that owns its number. -/
def dispatch (bridge : Bridge) (message : Message) : Bridge × Dispatched :=
  match Event.ofMessage? message with
  | none => (bridge, .ignored)
  | some event =>
    match bridge.registry.lookup message.sequence with
    | none => (bridge, .noRequest)
    | some place =>
      let (bridge, failed) := bridge.complete place event
      (bridge, if failed then .faulted else .delivered)

/-- Dispatches messages in order for as long as the bridge is running. -/
def pump (bridge : Bridge) : List Message → Bridge
  | [] => bridge
  | message :: rest => if bridge.running then (bridge.dispatch message).1.pump rest else bridge

end Bridge

end TelescopeLink
