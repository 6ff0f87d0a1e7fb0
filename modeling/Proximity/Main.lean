import Proximity.Daemon.Launch
import Proximity.Api.Router
import Std.Http.Server
import Std.Async.Signal
import Std.Time

/-!
# The daemon command

`nearlinkd` reads its environment and its configuration file, starts as `launch` says, and
serves the API on the address it bound until it is interrupted. A start that fails prints
its report to standard error and exits with status 1; an interrupted daemon exits with 0.

The credential store lives in the daemon's memory, laid out as its data directory, for the
life of the process. Identities draw on the system's random bytes and a monotonic clock
started with the daemon. Syncs go through a connection that reaches no server, so each
answers that the sync service could not be reached.
-/

namespace Proximity.Daemon

/-- The process's environment variables. -/
def readEnvironment : IO (List (String × String)) := do
  match ← (IO.FS.readBinFile "/proc/self/environ").toBaseIO with
  | .ok bytes => pure (environEntries (Text.decodeLossy bytes.toList))
  | .error _ => pure []

/-- The configuration file and its `.toml` sibling, as far as they can be read. -/
def readConfigFiles (path : String) : IO FileTree :=
  ([path, path ++ ".toml"] : List String).foldlM (fun (t : FileTree) (p : String) => do
    match ← (IO.FS.readFile p).toBaseIO with
    | .ok text => pure (t.update (pathParts p) (some (.file text)))
    | .error _ => pure t) FileTree.empty

/-- The machine the daemon starts on, as far as starting needs it. -/
def readMachine : IO Machine := do
  let vars ← readEnvironment
  let files ← readConfigFiles (configPath vars)
  let cwd ← IO.currentDir
  let now ← Std.Time.Timestamp.now
  pure { vars, files, cwd := toString cwd, date := logDate now.toSecondsSinceUnixEpoch.val }

/-- Opens the day's log files. -/
def openLogs (m : Machine) (names : List String) : IO Unit := do
  let dir := (m.var "NEARLINK_LOG_DIR").getD "/var/log/nearlink"
  for name in names do
    match ← (do
        IO.FS.createDirAll dir
        IO.FS.withFile (dir ++ "/" ++ name) .append fun _ => pure ()).toBaseIO with
    | .ok _ => pure ()
    | .error e => IO.eprintln ("cannot create log directory " ++ dir ++ ": " ++ toString e)

/-- The address to listen on, in the form the server takes. -/
def listenAddress : SocketAddr → Std.Net.SocketAddress
  | .v4 octets port =>
    match octets with
    | [a, b, c, d] =>
      .v4 ⟨Std.Net.IPv4Addr.ofParts a.toUInt8 b.toUInt8 c.toUInt8 d.toUInt8, port.toUInt16⟩
    | _ => .v4 ⟨Std.Net.IPv4Addr.ofParts 127 0 0 1, port.toUInt16⟩
  | .v6 _ _ port => .v4 ⟨Std.Net.IPv4Addr.ofParts 127 0 0 1, port.toUInt16⟩

/-- Fresh random draws for minting identities. -/
def freshDraws (n : Nat) : IO (List Draw) := do
  let mut draws : List Draw := []
  for _ in [0:n] do
    let bs ← IO.getRandomBytes 4
    draws := draws ++ [.bytes (bs.toList.map UInt8.toNat)]
  pure draws

/-- The response the server sends for an API response. -/
def sendable (r : ApiResponse) : Std.Async.Async (Std.Http.Response Std.Http.Body.Full) := do
  match r.body.text? with
  | none => Std.Http.Response.new.status .notFound |>.fromBytes ByteArray.empty
  | some text =>
    let status := (Std.Http.Status.ofCode none r.status.toUInt16).getD .internalServerError
    let builder := r.fields.foldl (fun b (n, v) =>
      match Std.Http.Header.Name.ofString? n, Std.Http.Header.Value.ofString? v with
      | some n', some v' => b.header n' v'
      | _, _ => b) (Std.Http.Response.new.status status)
    builder.fromBytes text.toUTF8

/-- Answers one request from the shared state. -/
def respond (state : IO.Ref AppState) (started : Nat) (req : Std.Http.Request Std.Http.Body.Stream) :
    Std.Async.ContextAsync (Std.Http.Response Std.Http.Body.Any) := do
  let body : String ← req.body.readAll
  let headers : Http.Headers := ⟨req.line.headers.toList.map fun (n, v) => (n.value, v.value)⟩
  let draws ← freshDraws 64
  let now ← IO.monoNanosNow
  let built := ApiRequest.build (toString req.line.method) (toString req.line.uri) headers
    (some (.raw body))
  let answer ← state.modifyGet fun st =>
    match built with
    | .error m => (ApiResponse.rejection 400 m, st)
    | .ok r =>
      let clock : Clock := { readings := [now - started], last := st.identities.clock.last }
      let h := ({ st with identities := { draws, clock } } : AppState).handle
        (Http.execute Http.offline) r
      (h.response, h.state)
  sendable answer

/-- Serves the API on an address until the process is interrupted. -/
def serve (address : SocketAddr) (st : AppState) : IO Unit := do
  let state ← IO.mkRef st
  let started ← IO.monoNanosNow
  let interrupt ← Std.Async.Signal.Waiter.mk .sigint false
  let server ← (Std.Http.Server.serve (listenAddress address)
    (Std.Http.Server.Handler.ofFn (respond state started))).block
  IO.println ("Listening on " ++ address.text)
  let _ ← IO.wait (← interrupt.wait)
  server.shutdownAndWait.block
  IO.println "nearlinkd stopped"

end Proximity.Daemon

open Proximity Proximity.Daemon in
/-- Starts the daemon and serves until interrupted. -/
def main : IO UInt32 := do
  let m ← readMachine
  let l := launch m
  openLogs m l.logFiles
  match l.result with
  | .error r =>
    IO.eprint r.render
    pure 1
  | .ok s =>
    serve s.address s.state
    pure 0
