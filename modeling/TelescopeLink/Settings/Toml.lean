import TelescopeLink.Settings
import TelescopeLink.Text.Utf8
import TelescopeLink.Toml.Document

/-!
# Settings in TOML

Settings are written as a document of one table for each part, every setting on a line of its own.
They are read from any document: what is missing has its default, and keys of other names are
ignored. A part may also be given as an array of its settings in order, of which the last may be
missing.

TOML has no whole numbers above `2 ^ 63 - 1`, so settings beyond that cannot be written.
-/

namespace TelescopeLink

open Toml

/-! ## Reading -/

namespace Settings

/-- Where the settings of a part are looked for. -/
inductive Source
  | named (members : List (String × Value))
  | listed (items : List Value)

/-- The settings of a part that a value gives. A moment gives none. -/
def Source.ofValue? : Value → Option Source
  | .table members => some (.named members)
  | .array items => some (.listed items)
  | .moment _ => some (.named [])
  | _ => none

/-- The value of the setting with a name, which has a place in the order of its part. -/
def Source.get? (source : Source) (place : Nat) (name : String) : Option Value :=
  match source with
  | .named members => members.lookup name
  | .listed items => items[place]?

/-- Reads a setting if it is given; it has its default otherwise. -/
def Source.read {α : Type} (source : Source) (place : Nat) (name : String)
    (read : Value → Option α) (default : α) : Option α :=
  match source.get? place name with
  | none => some default
  | some value => read value

/-- A whole number in a range. -/
def whole? (low high : Int) : Value → Option Int
  | .whole n => if low ≤ n ∧ n ≤ high then some n else none
  | _ => none

/-- A number of 16 bits. -/
def uint16? (value : Value) : Option UInt16 :=
  (whole? 0 0xFFFF value).map fun n => UInt16.ofNat n.toNat

/-- A number of 32 bits with sign. -/
def int32? (value : Value) : Option Int32 :=
  (whole? Int32.minValue.toInt Int32.maxValue.toInt value).map Int32.ofInt

/-- A number of 64 bits. -/
def uint64? (value : Value) : Option UInt64 :=
  (whole? 0 0xFFFFFFFFFFFFFFFF value).map fun n => UInt64.ofNat n.toNat

/-- A text. -/
def text? : Value → Option String
  | .text s => some s
  | _ => none

/-- A table of times. -/
def times? : Value → Option (List (String × UInt64))
  | .table members => members.mapM fun (name, value) => (uint64? value).map fun n => (name, n)
  | _ => none

/-- The settings of the link. -/
def network? (value : Value) : Option NetworkSettings := do
  let source ← Source.ofValue? value
  let standard : NetworkSettings := {}
  return {
    localPort := ← source.read 0 "local_port" uint16? standard.localPort
    remoteHost := ← source.read 1 "remote_host" text? standard.remoteHost
    remotePort := ← source.read 2 "remote_port" uint16? standard.remotePort
    localId := ← source.read 3 "local_id" int32? standard.localId
    remoteId := ← source.read 4 "remote_id" int32? standard.remoteId
    serviceClass := ← source.read 5 "service_class" int32? standard.serviceClass
    readTimeoutMillis := ← source.read 6 "read_timeout_ms" uint64? standard.readTimeoutMillis
    receiveBuffer := ← source.read 7 "receive_buffer" uint64? standard.receiveBuffer }

/-- The settings of the handling of requests. -/
def proxy? (value : Value) : Option ProxySettings := do
  let source ← Source.ofValue? value
  let standard : ProxySettings := {}
  return {
    dialect := ← source.read 0 "dialect" text? standard.dialect
    startSequence := ← source.read 1 "start_sequence" int32? standard.startSequence
    dispatchPollMillis := ← source.read 2 "dispatch_poll_ms" uint64? standard.dispatchPollMillis
    defaultTimeoutMillis :=
      ← source.read 3 "default_timeout_ms" uint64? standard.defaultTimeoutMillis
    timeouts := ← source.read 4 "timeouts" times? standard.timeouts }

/-- The settings of what is told. -/
def logging? (value : Value) : Option LoggingSettings := do
  let source ← Source.ofValue? value
  let standard : LoggingSettings := {}
  return { level := ← source.read 0 "level" text? standard.level }

/-- The settings that a document gives. -/
def ofMembers? (members : List (String × Value)) : Option Settings := do
  let source := Source.named members
  return {
    network := ← source.read 0 "network" network? {}
    proxy := ← source.read 1 "proxy" proxy? {}
    logging := ← source.read 2 "logging" logging? {} }

/-- The settings in a text, usable or not. -/
def ofToml (s : String) : Except Error Settings :=
  match (Toml.parse s.toList).bind ofMembers? with
  | some settings => .ok settings
  | none => .error .unreadableSettings

/-- The usable settings in the bytes of a file. -/
def ofFile (bytes : List UInt8) : Except Error Settings := do
  match Text.decode? bytes with
  | none => throw (.io .notUtf8)
  | some cs =>
    let settings ← ofToml (String.ofList cs)
    settings.validate
    return settings

/-! ## Writing -/

/-- One setting on its line. -/
def line (key : String) (value : List Char) : List Char :=
  keyOf key.toList ++ " = ".toList ++ value ++ ['\n']

/-- A setting of digits on its line. -/
def intLine (key : String) (n : Int) : List Char := line key (Text.intDigits n)

/-- A setting of 64 bits on its line, if it can be written. -/
def uint64Line? (key : String) (n : UInt64) : Option (List Char) :=
  if n.toNat < 1 <<< 63 then some (intLine key n.toNat) else none

/-- A setting of text on its line. -/
def textLine (key : String) (s : String) : List Char := line key (textOf s.toList)

/-- The settings of the link, if they can be written. -/
def networkLines? (settings : NetworkSettings) : Option (List (List Char)) := do
  return [
    "[network]\n".toList,
    intLine "local_port" settings.localPort.toNat,
    textLine "remote_host" settings.remoteHost,
    intLine "remote_port" settings.remotePort.toNat,
    intLine "local_id" settings.localId.toInt,
    intLine "remote_id" settings.remoteId.toInt,
    intLine "service_class" settings.serviceClass.toInt,
    ← uint64Line? "read_timeout_ms" settings.readTimeoutMillis,
    ← uint64Line? "receive_buffer" settings.receiveBuffer]

/-- The settings of the handling of requests, if they can be written. -/
def proxyLines? (settings : ProxySettings) : Option (List (List Char)) := do
  let head := [
    "[proxy]\n".toList,
    textLine "dialect" settings.dialect,
    intLine "start_sequence" settings.startSequence.toInt,
    ← uint64Line? "dispatch_poll_ms" settings.dispatchPollMillis,
    ← uint64Line? "default_timeout_ms" settings.defaultTimeoutMillis,
    "\n[proxy.timeouts]\n".toList]
  let times ← settings.timeouts.mapM fun (name, millis) => uint64Line? name millis
  return head ++ times

/-- The settings of what is told. -/
def loggingLines (settings : LoggingSettings) : List (List Char) :=
  ["[logging]\n".toList, textLine "level" settings.level]

/-- The settings as a document, if they can be written. -/
def toToml (settings : Settings) : Except Error String :=
  match networkLines? settings.network, proxyLines? settings.proxy with
  | some network, some proxy =>
    .ok (String.ofList (network.flatten ++ '\n' :: proxy.flatten ++ '\n' ::
      (loggingLines settings.logging).flatten))
  | _, _ => .error .unwritableSettings

end Settings

end TelescopeLink
