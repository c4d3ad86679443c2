import TelescopeLink.Command
import TelescopeLink.Message
import TelescopeLink.Outcome
import TelescopeLink.Span

/-!
# Requests and their sessions

A request is a command on its way: created, then sent, then completed, and never back. Until it is
completed it holds the session of its caller, which is told of every keep-alive and, once, of the
outcome.

What a caller does inside these callbacks is part of the session: a callback may fail, and it may
reach back into the bridge that called it. It can complete its own request, end the dispatching, or
submit another command with a session of its own; these nest as deep as the session says and no
deeper.
-/

namespace TelescopeLink

/-- What a message means to the request it belongs to. -/
inductive Event
  | ack (text : String)
  | action (text : String)
  | done (text : String)
  | response (text : String)
  | error (text : String)
deriving DecidableEq

namespace Event

/-- The event of a class with a text; a command is none. -/
def ofClass? (cls : MessageClass) (text : String) : Option Event :=
  match cls with
  | .ack => some (.ack text)
  | .action => some (.action text)
  | .done => some (.done text)
  | .response => some (.response text)
  | .error => some (.error text)
  | .command => none

/-- The event that a message is. -/
def ofMessage? (message : Message) : Option Event :=
  message.class?.bind fun cls => ofClass? cls message.text

/-- The text of an event. -/
def text : Event → String
  | .ack text => text
  | .action text => text
  | .done text => text
  | .response text => text
  | .error text => text

/-- The event completes its request. -/
def isTerminal : Event → Bool
  | .ack _ | .action _ => false
  | .done _ | .response _ | .error _ => true

end Event

/-- What a caller does in its callbacks. -/
structure Conduct where
  /-- The callback of the keep-alive with this count fails, the first being 0. -/
  failsKeepAlive : Nat → Bool := fun _ => false
  /-- The callback of the outcome fails. -/
  failsDone : Bool := false
  /-- On a keep-alive, the caller completes whichever request has its number, with this reply. -/
  conclusion : Option String := none
  /-- On the outcome, the caller ends the dispatching. -/
  halts : Bool := false

/-- The one who is told about a request. -/
inductive Session
  /-- A caller that submits nothing from its callbacks. -/
  | single (conduct : Conduct)
  /-- A caller that submits a command, with its session, when it is told the outcome. -/
  | chain (conduct : Conduct) (command : Command) (next : Session)

/-- What a caller does in its callbacks, further commands apart. -/
def Session.conduct : Session → Conduct
  | .single conduct => conduct
  | .chain conduct _ _ => conduct

/-- How far a request has come. -/
inductive RequestState
  | created
  | sent
  | completed
deriving DecidableEq

/-- One command on its way. -/
structure Request where
  /-- The number under which it is registered. -/
  sequence : Int32
  command : Command
  /-- How long the work should take: configured at first, then as the far end said last. -/
  estimate : Span
  /-- What was put on the wire. -/
  wireText : Option String := none
  completed : Bool := false
  /-- The caller, until it has been told the outcome. -/
  session : Option Session
  /-- How many keep-alives the caller was told of. -/
  keepAlives : Nat := 0

namespace Request

/-- How far the request has come. -/
def state (request : Request) : RequestState :=
  if request.completed then .completed
  else if request.wireText.isSome then .sent
  else .created

/-- What is allowed for relaying on top of every estimate. -/
def margin : Span := .ofSeconds 10

/-- How long a caller should wait for the outcome. -/
def handlingTime? (request : Request) : Option Span := request.estimate.add? margin

/-- The estimate of the far end in a keep-alive: its first word, as a number of milliseconds. -/
def reportedEstimate? (text : String) : Option Span :=
  (Text.words text.toList).head?.bind fun word => (Text.uint64? word).map Span.ofMillis

/-- The request with the estimate of a keep-alive, if that gives one. -/
def hear (request : Request) (text : String) : Request :=
  { request with estimate := (reportedEstimate? text).getD request.estimate }

/-- The request without its caller, at its end. -/
def complete (request : Request) : Request := { request with completed := true, session := none }

end Request

/-- What a caller is told. -/
inductive Notice
  /-- The command is being worked on and should be done within this time. -/
  | keepAlive (timeToComplete : Span)
  | done (outcome : Outcome)
deriving DecidableEq

/-- One callback into a session. -/
structure Callback where
  /-- The request, by its place among all requests. -/
  request : Nat
  sequence : Int32
  typeName : String
  notice : Notice
  /-- The number of the request was in use during the callback. -/
  registered : Bool
deriving DecidableEq

end TelescopeLink
