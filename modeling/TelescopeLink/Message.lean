/-!
# Messages

What travels between the two ends: a class, the number of the request it belongs to, and a text,
with the addresses of the two ends. A message of a class that is not known here stays a message, so
its class is kept as the code it came with.
-/

namespace TelescopeLink

/-- What a message says about its request. -/
inductive MessageClass
  /-- A new request. -/
  | command
  /-- The answer to a query. -/
  | response
  /-- The request is being worked on. -/
  | ack
  /-- The request is being worked on, said at a step of the work. -/
  | action
  /-- The request is finished. -/
  | done
  /-- The request failed. -/
  | error
deriving DecidableEq

namespace MessageClass

/-- The code of a class on the wire. -/
def code : MessageClass → Int32
  | .command => 1
  | .response => 2
  | .ack => 3
  | .action => 4
  | .done => 5
  | .error => 6

/-- The classes, by code. -/
def all : List MessageClass := [.command, .response, .ack, .action, .done, .error]

/-- The class that a code stands for. -/
def ofCode? (code : Int32) : Option MessageClass := all.find? (·.code == code)

/-- A message of the class finishes its request. -/
def isTerminal : MessageClass → Bool
  | .done | .response | .error => true
  | .command | .ack | .action => false

/-- The name of a class. -/
def name : MessageClass → String
  | .command => "COMMAND"
  | .response => "RESPONSE"
  | .ack => "ACK"
  | .action => "ACTION"
  | .done => "DONE"
  | .error => "ERROR"

end MessageClass

/-- A time as seconds and nanoseconds since the epoch of the protocol. -/
structure Timestamp where
  seconds : Int32
  nanos : Int32
deriving DecidableEq, Inhabited

/-- The epoch of the protocol, 1980-01-05, in milliseconds of Unix time. -/
def Timestamp.epochUnixMillis : Nat := 315878400000

/-- The timestamp of a Unix time in milliseconds. Times before the epoch count as the epoch, and the
seconds keep their low 32 bits. -/
def Timestamp.ofUnixMillis (millis : UInt64) : Timestamp :=
  let elapsed := millis.toNat - epochUnixMillis
  ⟨Int32.ofNat (elapsed / 1000), Int32.ofNat (elapsed % 1000 * 1000000)⟩

/-- A message between the two ends. -/
structure Message where
  /-- The end that sent it. -/
  sender : Int32
  /-- The end it is meant for. -/
  receiver : Int32
  /-- The code of its class. -/
  classCode : Int32
  serviceClass : Int32
  /-- The number of the request it belongs to. -/
  sequence : Int32
  text : String
deriving DecidableEq

/-- The class of a message, if it is one known here. -/
def Message.class? (message : Message) : Option MessageClass :=
  MessageClass.ofCode? message.classCode

end TelescopeLink
