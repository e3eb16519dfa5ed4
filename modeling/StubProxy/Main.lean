import Std.Async.Signal
import Std.Async.TCP
import Std.Internal.UV.System
import StubProxy.Command.Run
import StubProxy.Proxy.Wire

/-!
# The program

Reads the files, the environment and the connections that commands work on, and prints what they
give. Nothing is decided here: `Invocation`, `Workplace`, `Session` and `Wire` say what happens.
-/

namespace StubProxy.Program

open Std.Async

/-- What the system reports; some of its numbers come negated. -/
def systemError (e : IO.Error) : SystemError :=
  match e with
  | .otherError code text | .resourceBusy code text | .resourceVanished code text
  | .unsupportedOperation code text | .hardwareFault code text | .unsatisfiedConstraints code text
  | .illegalOperation code text | .protocolError code text | .timeExpired code text
  | .interrupted _ code text | .noFileOrDirectory _ code text | .alreadyExists _ code text
  | .invalidArgument _ code text | .permissionDenied _ code text | .resourceExhausted _ code text
  | .inappropriateType _ code text | .noSuchThing _ code text =>
    .ofCode (min code.toNat (-code).toNat) text
  | .unexpectedEof | .userError _ => .ofCode 0 e.toString

/-- Reads a file. -/
def readFile (path : String) : IO FileContents := do
  try return .ok (← IO.FS.readBinFile path).toList
  catch e => return .error (systemError e)

/-- The files that a command may look for, and the environment. -/
def workplace (paths : List String) : IO Workplace := do
  let contents ← paths.mapM fun path => return (path, ← readFile path)
  let vars ← Std.Internal.UV.System.osEnviron
  let files : FileSystem := fun path => (contents.lookup path).getD (.error .notFound)
  return ⟨files, .builtIn, vars.toList, .isolated⟩

/-! ### Connections -/

/-- An address as sockets take it. -/
def nativeAddress : SocketAddress → Std.Net.SocketAddress
  | .v4 ip port =>
    let byte (i : Nat) : UInt8 := UInt8.ofNat (ip >>> (8 * i))
    .v4 ⟨.ofParts (byte 3) (byte 2) (byte 1) (byte 0), port.toUInt16⟩
  | .v6 groups _ port =>
    let group (i : Nat) : UInt16 := (groups.getD i 0).toUInt16
    .v6 ⟨.ofParts (group 0) (group 1) (group 2) (group 3) (group 4) (group 5) (group 6) (group 7),
      port.toUInt16⟩

/-- Listens on an address; a free port is chosen if it asks for one. -/
def listen (a : SocketAddress) : IO (Except SystemError (TCP.Socket.Server × SocketAddress)) := do
  try
    let server ← TCP.Socket.Server.mk
    server.bind (nativeAddress a)
    server.listen 1024
    let port := match ← server.getSockName with
      | .v4 bound => bound.port
      | .v6 bound => bound.port
    return .ok (server, a.withPort port.toNat)
  catch e => return .error (systemError e)

/-- Reads a request off a connection. -/
def receive (c : TCP.Socket.Client) : Async (Option RawRequest) := do
  let mut got : List UInt8 := []
  repeat
    match Wire.readRequest got with
    | .complete r _ => return some r
    | .malformed => return none
    | .incomplete =>
      let some more ← c.recv? 65536 | return none
      got := got ++ more.toList
  return none

/-! ### Serving -/

/-- Answers the request that comes on a connection. -/
def answer (network : Network) (session : IO.Ref Session) (c : TCP.Socket.Client) : Async Unit := do
  let (response, method) ← match (← receive c).bind RawRequest.read with
    | none => pure (Response.bare 400, "")
    | some r => (·, r.method) <$> session.modifyGet (Session.reply network r)
  c.send ⟨(Wire.writeResponse response method).toArray⟩
  c.shutdown

/-- Answers whoever connects. -/
def accept (server : TCP.Socket.Server) (network : Network) (session : IO.Ref Session) :
    Async Unit := do
  repeat
    let c ← server.accept
    background (answer network session c)

/-- Serves rule files until the program is interrupted. -/
def serve (files : List String) (address : Option SocketAddress) (config : Option String) :
    IO Output := do
  let interrupt ← (← Signal.Waiter.mk .sigint false).wait
  let w ← workplace (files ++ (config.map ConfigFile.paths).getD [])
  let listened ← match w.loadConfig address config with
    | .ok c => if c.bypass then pure none else some <$> listen c.engine.listenAddr
    | .error _ => pure none
  let bound := (listened.map fun l => l.map (·.2)).getD (.error .addressNotAvailable)
  let w := { w with network := { Network.isolated with listen := fun _ => bound } }
  match w.openScope files address config .empty, listened with
  | .error r, _ => return .failure "" r
  | .ok sc, some (.ok (server, _)) =>
    let some s := sc.session | return sc.conclude
    let session ← IO.mkRef s
    IO.eprintln ("Proxy ready at " ++ s.proxyUrl)
    discard (accept server w.network session).toIO
    discard interrupt.block
    return { sc with session := some (← session.get) }.conclude
  | .ok sc, _ =>
    discard interrupt.block
    return sc.conclude

/-- Does what the command line asks for. -/
def perform : Invocation → IO Output
  | .help => return .success Invocation.usage
  | .version => return .success versionLine
  | .misuse => return { Output.misuse with stderr := Invocation.usage }
  | .run (.check files) => return (← workplace files).check files
  | .run (.serve files address config) => serve files address config

end StubProxy.Program

def main (args : List String) : IO UInt32 := do
  let output ← StubProxy.Program.perform (StubProxy.Invocation.read args)
  IO.print output.stdout
  IO.eprint output.stderr
  return output.status.toUInt32
