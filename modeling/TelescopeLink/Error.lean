import TelescopeLink.Binary64.Shortest
import TelescopeLink.Json.Basic
import TelescopeLink.Text.Decimal
import TelescopeLink.Text.Quoted

/-!
# Errors

Everything that can go wrong, by cause, and the words for it.
-/

namespace TelescopeLink

open Text

/-- What the system refused. -/
inductive IoFault
  /-- A test asked for sending to fail. -/
  | sendFailure
  /-- A test asked for receiving to fail. -/
  | receiveFailure
  | noSuchFile
  /-- A file is no text. -/
  | notUtf8
  /-- A datagram is longer than the network takes. -/
  | messageTooLong
  /-- Another program listens on the port. -/
  | addressInUse
  | networkUnreachable
  /-- A name holds a NUL. -/
  | nulInName
  /-- A fault in the words of the system. -/
  | other (text : String)
deriving DecidableEq

/-- The words of the system for a fault. -/
def IoFault.message : IoFault → String
  | .sendFailure => "mock send failure"
  | .receiveFailure => "mock receive failure"
  | .noSuchFile => "No such file or directory (os error 2)"
  | .notUtf8 => "stream did not contain valid UTF-8"
  | .messageTooLong => "Message too long (os error 90)"
  | .addressInUse => "Address already in use (os error 98)"
  | .networkUnreachable => "Network is unreachable (os error 101)"
  | .nulInName => "file name contained an unexpected NUL byte"
  | .other text => text

/-- Why a command cannot be put into words of the far end. -/
inductive Refusal
  /-- A coordinate is infinite or no number. -/
  | notFinite (what : String) (value : Binary64)
  /-- A declination lies beyond a pole. -/
  | declinationOutOfRange (value : Binary64)
  /-- A name is empty or several words. -/
  | notOneWord (what : String) (value : List Char)
  /-- A raw text has no word. -/
  | emptyText
deriving DecidableEq

/-- The words for a refusal. -/
def Refusal.message : Refusal → String
  | .notFinite what value => what ++ " is not finite: " ++ String.ofList value.plain
  | .declinationOutOfRange value => "dec out of range: " ++ String.ofList value.plain
  | .notOneWord what value =>
    what ++ " must be a single word: " ++ String.ofList (quoted value)
  | .emptyText => "raw command text is empty"

/-- Why settings that could be read cannot be used. -/
inductive SettingsProblem
  | emptyRemoteHost
  | zeroRemotePort
  | zeroReadTimeout
  /-- Nothing behind the header would be received. -/
  | smallReceiveBuffer (length : UInt64)
  | zeroDispatchPoll
  | negativeStartSequence (start : Int32)
deriving DecidableEq

/-- The words for a problem of the settings. -/
def SettingsProblem.message : SettingsProblem → String
  | .emptyRemoteHost => "network.remote_host is empty"
  | .zeroRemotePort => "network.remote_port must be non-zero"
  | .zeroReadTimeout => "network.read_timeout_ms must be non-zero"
  | .smallReceiveBuffer length =>
    "network.receive_buffer must exceed the 28-byte header, got " ++
      String.ofList (natDigits length.toNat)
  | .zeroDispatchPoll => "proxy.dispatch_poll_ms must be non-zero"
  | .negativeStartSequence start =>
    "proxy.start_sequence must be non-negative, got " ++ String.ofList (intDigits start.toInt)

/-- What can go wrong. -/
inductive Error
  | io (fault : IoFault)
  /-- A file of settings is not written as it must be. -/
  | unreadableSettings
  /-- A value of the settings cannot be written. -/
  | unwritableSettings
  | unusableSettings (problem : SettingsProblem)
  | json (fault : Json.Fault)
  /-- The link has been closed. -/
  | notBound
  /-- A datagram has no whole header. -/
  | shortDatagram (length : Nat)
  | translation (refusal : Refusal)
  | unknownDialect (name : String)
  /-- A worker died. -/
  | workerDied
  | other (text : String)
deriving DecidableEq

/-- The words for an error. -/
def Error.message : Error → String
  | .io fault => "I/O error: " ++ fault.message
  | .unreadableSettings => "Config parse error"
  | .unwritableSettings => "Config serialize error"
  | .unusableSettings problem => "Invalid configuration: " ++ problem.message
  | .json .malformed => "JSON error: malformed"
  | .json .truncated => "JSON error: ended early"
  | .json .mismatched => "JSON error: not of the expected shape"
  | .notBound => "Transport not bound"
  | .shortDatagram length =>
    "Invalid packet: datagram of " ++ String.ofList (natDigits length) ++
      " bytes is shorter than the 28-byte header"
  | .translation refusal => "Translation failed: " ++ refusal.message
  | .unknownDialect name => "Unknown dialect: " ++ name
  | .workerDied => "Thread panic"
  | .other text => text

end TelescopeLink
