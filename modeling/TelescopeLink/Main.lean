import Std.Async.DNS
import Std.Async.Timer
import Std.Async.UDP
import TelescopeLink.CommandLine
import TelescopeLink.Service.Caller

/-!
# The program

The command line on a real system: files, the standard streams, and UDP. Whatever is decided is
decided by the service and its callers; here datagrams are only carried between them and a socket,
and the clock is read.
-/

namespace TelescopeLink

open Std.Async Std.Net

/-- A socket and the address it is aimed at. -/
structure Wire where
  socket : UDP.Socket
  remote : SocketAddress

namespace Wire

/-- The address of a host. -/
def resolve (host : String) (port : UInt16) : IO SocketAddress := do
  let found : Array IPAddr ← match IPv4Addr.ofString host, IPv6Addr.ofString host with
    | some addr, _ => pure #[IPAddr.v4 addr]
    | none, some addr => pure #[IPAddr.v6 addr]
    | none, none => (DNS.getAddrInfo host (toString port)).block
  match found.toList.head? with
  | some (.v4 addr) => return .v4 ⟨addr, port⟩
  | some (.v6 addr) => return .v6 ⟨addr, port⟩
  | none => throw (IO.userError "remote host did not resolve")

/-- A socket on a port of this machine. -/
def bind (remote : SocketAddress) (port : UInt16) : IO Wire := do
  let socket ← UDP.Socket.mk
  match remote with
  | .v4 _ => socket.bind (.v4 ⟨.ofParts 0 0 0 0, port⟩)
  | .v6 _ => socket.bind (.v6 ⟨.ofParts 0 0 0 0 0 0 0 0, port⟩)
  return ⟨socket, remote⟩

/-- A socket for the link that settings describe. -/
def «open» (settings : NetworkSettings) : IO Wire := do
  let remote ← resolve settings.remoteHost settings.remotePort
  bind remote settings.localPort

/-- Sends a datagram, or says what there is against it. -/
def send? (wire : Wire) (bytes : Datagram) : IO (Option IoFault) := do
  try
    (wire.socket.send (ByteArray.mk bytes.toArray) (some wire.remote)).block
    return none
  catch error => return some (.other (toString error))

/-- The next datagram, if one comes within so many milliseconds. -/
def receive? (wire : Wire) (room millis : Nat) : IO (Option Datagram) := do
  let timer ← (Selector.sleep (.ofNat millis)).block
  (Selectable.one #[
    .case (wire.socket.recvSelector (UInt64.ofNat room)) fun (bytes, _) =>
      return some bytes.data.toList,
    .case timer fun _ => return none]).block

end Wire

namespace Program

/-- The time to stamp messages with. -/
def now : IO Timestamp := do
  let time ← Std.Time.Timestamp.now
  return .ofUnixMillis (UInt64.ofNat time.toMillisecondsSinceUnixEpoch.val.toNat)

/-- Takes datagrams until the caller of a request may go on. -/
partial def await (wire : Wire) (caller : Caller) : IO (Outcome × Service) := do
  match caller.look (← IO.monoNanosNow) with
  | (caller, .ok outcome) => return (outcome, caller.service)
  | (caller, .error remaining) =>
    let capacity := caller.service.reception.capacity
    match ← wire.receive? capacity (remaining / 1000000 + 1) with
    | some bytes => await wire (caller.hear bytes)
    | none => await wire caller

/-- Executes a command over the wire. What the wire has against its datagram is what the link refuses
it with. -/
def execute (wire : Wire) (service : Service) (command : Command) :
    IO (Option (Outcome × Service)) := do
  let clock ← now
  let refusal ← match service.posted? clock command with
    | some bytes => wire.send? bytes
    | none => pure none
  match service.submitUnder clock refusal command with
  | none => return none
  | some (place, submitted) =>
    return some (← await wire (.new submitted place (← IO.monoNanosNow)))

/-- The bytes of a file. -/
def contents (path : String) : IO (Except IoFault (List UInt8)) := do
  try
    let bytes ← IO.FS.readBinFile path
    return .ok bytes.data.toList
  catch
    | .noFileOrDirectory _ _ _ => return .error .noSuchFile
    | error => return .error (.other (toString error))

/-- Takes the lines of the input one after another. -/
partial def foldLines {β : Type} (step : β → String → IO β) (state : β) : IO β := do
  let line ← (← IO.getStdin).getLine
  if line.isEmpty then return state
  foldLines step (← step state line)

/-- The system as a host. The wire is kept where opening the link put it. -/
def host (wire : IO.Ref (Option Wire)) : CommandLine.Host IO where
  contents := contents
  openLink settings := do
    match Service.openNetwork false none settings with
    | .error error => return .error error
    | .ok link =>
      try
        wire.set (some (← Wire.open settings))
        return .ok link
      catch error => return .error (.io (.other (toString error)))
  execute service command := do
    match ← wire.get with
    | none => return none
    | some wire => execute wire service command
  foldInput := foldLines
  print text := do
    let output ← IO.getStdout
    output.putStr text
    output.flush
  warn := IO.eprintln

end Program

end TelescopeLink

/-- Runs the command line. -/
def main (args : List String) : IO UInt32 := do
  let wire ← IO.mkRef none
  TelescopeLink.CommandLine.run (TelescopeLink.Program.host wire) args
