import TelescopeLink.Message.Datagram
import TelescopeLink.Span
import TelescopeLink.Text.Blank

/-!
# Settings

Where the far end is and how to speak to it, what to wait for and how long, and how much to tell.
Every setting has a default. A timeout table gives handling times by the names of commands; the
defaults for all others stand beside it.
-/

namespace TelescopeLink

/-- The link to the far end. -/
structure NetworkSettings where
  /-- The port to send from and to receive on; 0 lets the system choose. -/
  localPort : UInt16 := 0
  remoteHost : String := "127.0.0.1"
  remotePort : UInt16 := 13021
  /-- The address of this end in messages. -/
  localId : Int32 := 17
  /-- The address of the far end in messages. -/
  remoteId : Int32 := 1
  serviceClass : Int32 := 1
  /-- How long to wait for a datagram at a time. -/
  readTimeoutMillis : UInt64 := 250
  /-- How many bytes of a datagram are received. -/
  receiveBuffer : UInt64 := 65536
deriving DecidableEq

/-- The handling of requests. -/
structure ProxySettings where
  /-- The name of the dialect. -/
  dialect : String := "tcs"
  /-- The first request gets the number after this one. -/
  startSequence : Int32 := 0
  /-- How long to wait for a message at a time. -/
  dispatchPollMillis : UInt64 := 200
  /-- The handling time of commands that the table does not name. -/
  defaultTimeoutMillis : UInt64 := 10000
  /-- Handling times in milliseconds, by the names of commands. -/
  timeouts : List (String × UInt64) := []
deriving DecidableEq

/-- What is told about the work. -/
structure LoggingSettings where
  level : String := "info"
deriving DecidableEq

/-- All settings. -/
structure Settings where
  network : NetworkSettings := {}
  proxy : ProxySettings := {}
  logging : LoggingSettings := {}
deriving DecidableEq

namespace NetworkSettings

/-- How long to wait for a datagram at a time. -/
def readTimeout (settings : NetworkSettings) : Span := .ofMillis settings.readTimeoutMillis

/-- What is wrong with the settings of the link, the first thing first. -/
def problem? (settings : NetworkSettings) : Option SettingsProblem :=
  if (Text.trim settings.remoteHost.toList).isEmpty then some .emptyRemoteHost
  else if settings.remotePort = 0 then some .zeroRemotePort
  else if settings.readTimeoutMillis = 0 then some .zeroReadTimeout
  else if settings.receiveBuffer.toNat ≤ Datagram.headerLength then
    some (.smallReceiveBuffer settings.receiveBuffer)
  else none

end NetworkSettings

namespace ProxySettings

/-- How long to wait for a message at a time. -/
def dispatchPoll (settings : ProxySettings) : Span := .ofMillis settings.dispatchPollMillis

/-- The handling time of commands of a name. -/
def handlingTime (settings : ProxySettings) (typeName : String) : Span :=
  .ofMillis ((settings.timeouts.lookup typeName).getD settings.defaultTimeoutMillis)

/-- What is wrong with the handling of requests, the first thing first. -/
def problem? (settings : ProxySettings) : Option SettingsProblem :=
  if settings.dispatchPollMillis = 0 then some .zeroDispatchPoll
  else if settings.startSequence < 0 then some (.negativeStartSequence settings.startSequence)
  else none

end ProxySettings

namespace Settings

/-- What is wrong with the settings, the first thing first. -/
def problem? (settings : Settings) : Option SettingsProblem :=
  settings.network.problem?.or settings.proxy.problem?

/-- Settings that can be used. -/
def validate (settings : Settings) : Except Error Unit :=
  match settings.problem? with
  | some problem => .error (.unusableSettings problem)
  | none => .ok ()

end Settings

end TelescopeLink
