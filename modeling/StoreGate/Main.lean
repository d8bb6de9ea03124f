import StoreGate.Cli.Program
import StoreGate.Http.Wire
import Std.Async.DNS
import Std.Async.TCP

/-!
# The program `ds`

Reads the command line, the address of the server from `DS_HUB_URL`, and the file of the command;
carries out the requests over connections of its own; prints, and ends with the status of the
invocation.
-/

namespace StoreGate

namespace Terminal

open Std.Async

/-! ## Connections -/

/-- The address of a name or number with a port. -/
def socketAddress (address : Std.Net.IPAddr) (port : UInt16) : Std.Net.SocketAddress :=
  match address with
  | .v4 a => .v4 ⟨a, port⟩
  | .v6 a => .v6 ⟨a, port⟩

/-- The name of a host as it is looked up. -/
def lookupName : Host → String
  | .ipv6 pieces => ((Host.ipv6 pieces).text.replace "[" "").replace "]" ""
  | h => h.text

/-- The port that a server listens on. -/
def portOf (u : Url) : UInt16 := UInt16.ofNat (u.port.getD ((Url.defaultPort? u.scheme).getD 80))

/-- Everything that a connection delivers until it is closed. -/
partial def receive (socket : TCP.Socket.Client) (received : ByteArray) : IO ByteArray := do
  match ← (socket.recv? 65536).block with
  | none => return received
  | some bytes => receive socket (received ++ bytes)

/-- Sends a request over a connection of its own and waits for the reply. -/
def send (r : Request) : IO Outcome := do
  let failed (detail : String) : Outcome := .error ⟨false, detail⟩
  match r.url.scheme, r.url.host with
  | "http", some host =>
    try
      let addresses ← (DNS.getAddrInfo (lookupName host) "").block
      match addresses[0]? with
      | none => return failed "the name of the server is unknown"
      | some address =>
        let socket ← TCP.Socket.Client.mk
        (socket.connect (socketAddress address (portOf r.url))).block
        (socket.send (Wire.requestBytes r)).block
        return Wire.readReply (← receive socket ByteArray.empty)
    catch e => return failed (toString e)
  | scheme, _ => return failed ("unsupported scheme " ++ scheme)

/-! ## The program -/

def readFile (name : String) : IO (Except String ByteArray) := do
  try return .ok (← IO.FS.readBinFile name)
  catch e => return .error (toString e)

/-- The content of the file that an action reads, whatever name it is asked for by. -/
def filesFor (a : Cli.Action) : IO Cli.Files := do
  match a.file? with
  | none => return fun _ => .error "no file"
  | some name =>
    let content ← readFile name
    return fun _ => content

def printout (words : List String) : IO Cli.Printout := do
  match Cli.Invocation.read words with
  | .error stop => return stop.printout
  | .ok i =>
    let base := (← IO.getEnv "DS_HUB_URL").getD Cli.defaultBase
    (i.run (← filesFor i.action) base).run send

end Terminal

end StoreGate

def main (words : List String) : IO UInt32 := do
  let p ← StoreGate.Terminal.printout words
  IO.print p.out
  IO.eprint p.err
  return UInt32.ofNat p.status
