import Passbook.Remote.Wire
import Passbook.Session
import Passbook.Store.Json
import Std.Internal.UV.DNS
import Std.Internal.UV.TCP
/-!
The program: its settings are variables of the environment, its arguments are addresses, and what
it tells goes to standard output.
-/

namespace Passbook.Program

open Std.Internal.UV Std.Net

def settled {α : Type} (promise : IO.Promise (Except IO.Error α)) : IO α := do
  match ← IO.wait promise.result? with
  | some outcome => IO.ofExcept outcome
  | none => throw (IO.userError "no outcome")

def socketAddress (service : UInt16) : IPAddr → SocketAddress
  | .v4 address => .v4 ⟨address, service⟩
  | .v6 address => .v6 ⟨address, service⟩

/-- Connects to the first of the addresses that lets itself be connected to. -/
def connected (service : UInt16) : List IPAddr → IO (Option TCP.Socket)
  | [] => return none
  | address :: rest => do
      let socket ← TCP.Socket.new
      try
        settled (← socket.connect (socketAddress service address))
        return some socket
      catch _ => connected service rest

/-- All bytes up to the end of the connection. -/
partial def received (socket : TCP.Socket) (before : ByteArray) : IO ByteArray := do
  match ← settled (← socket.recv? 65536) with
  | none => return before
  | some bytes => received socket (before ++ bytes)

def exchanged (request : NetRequest) : IO (Option NetResponse) := do
  match request.url.scheme, request.url.endpoint? with
  | "http", some (host, service) =>
      let addresses ← settled (← DNS.getAddrInfo host "" 0)
      match ← connected service addresses.toList with
      | none => return none
      | some socket =>
          settled (← socket.send #[request.wire.toUTF8])
          return NetResponse.ofWire? (← received socket .empty).toList
  | _, _ => return none

def sleep (length : Duration) : IO Unit := IO.sleep (UInt32.ofNat length.millis)

/-- No answer is waited for longer than this. -/
def transport (timeout : Duration) : Transport IO := fun request => do
  let answer ← IO.asTask (exchanged request)
  let alarm ← IO.asTask (do sleep timeout; return none)
  match ← IO.waitAny [answer, alarm] with
  | .ok response => return response
  | .error _ => return none

/-- The mode in which a file is opened before it is read. -/
def mode : StorePlace.Access → IO.FS.Mode
  | .read => .read
  | .change => .readWrite
  | .create | .memory => .append

def openStore (place : StorePlace) : IO (Except StoreProblem Store) := do
  let path := (place.file.map StorePlace.File.text).getD ""
  try
    discard (IO.FS.Handle.mk path (mode place.access))
    let content ← IO.FS.readFile path
    if content = "" ∧ place.isReadOnly then return .error .readOnly
    return match Store.ofText? content with
      | some store => .ok store
      | none => .error .notAStore
  catch _ => return .error (.cannotOpen place.text)

def keepStore (place : StorePlace) (store : Store) : IO Unit := do
  match place.file with
  | some file => if !place.isReadOnly then IO.FS.writeFile file.text store.toJson.render
  | none => return

def surroundings (settings : Settings) : Surroundings IO where
  log _ level message := IO.println (level.name ++ " " ++ message)
  openStore := openStore
  keepStore := keepStore
  transport := transport settings.fetch.httpTimeout
  pause := sleep
  nanos := IO.monoNanosNow

def settings : IO Settings := do
  let values ← Settings.names.mapM fun name => return (name, ← IO.getEnv name)
  return .ofLookup fun name => (values.lookup name).join

end Passbook.Program

def main (addresses : List String) : IO UInt32 := do
  let settings ← Passbook.Program.settings
  let code ← Passbook.Session.run (Passbook.Program.surroundings settings) settings addresses
  return code.toUInt32
