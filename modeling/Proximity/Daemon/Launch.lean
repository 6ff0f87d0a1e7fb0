import Proximity.Api.Startup
import Proximity.Daemon.Report
import Proximity.Log.Filter
import Proximity.Net.SocketAddr
import Proximity.Time.Instant
/-!
# Starting the daemon

The daemon starts in four steps, and the first that fails stops it with a report:

1. Logging. The filter is `RUST_LOG` when that is set and reads, else `NEARLINK_LOG_LEVEL`
   (default `info`), which must read. With `NEARLINK_ENV` exactly `production`, logs also
   go to a file `nearlinkd.<date>` in the log directory.
2. State, from the configuration file `NEARLINK_CONFIG` names (see `AppState.load`).
3. The listening address `NEARLINK_BIND` (default `127.0.0.1:7410`), which must read as a
   socket address.
4. Binding it, which fails when another program holds the port or the address is not one
   of this machine's.
-/

namespace Proximity

/-- What the daemon starts in: its environment variables, the files it can read, its
working directory, the ports other programs hold, and today's date. -/
structure Machine where
  vars : List (String × String)
  files : FileTree
  cwd : String
  busyPorts : List Nat := []
  date : String

/-- A variable of the machine's environment. -/
def Machine.var (m : Machine) (name : String) : Option String :=
  (m.vars.find? (·.1 == name)).map (·.2)

/-- The variables of an environment block: `NAME=value` entries between NUL characters.
An entry without `=` or with an empty name is skipped. -/
def environEntries (text : String) : List (String × String) :=
  (text.splitOn "\x00").filterMap fun e =>
    match e.splitOn "=" with
    | name :: value :: more => if name.isEmpty then none else some (name, "=".intercalate (value :: more))
    | _ => none

/-- The UTC date of an instant given in seconds since 1970, written `YYYY-MM-DD`: the
suffix of the day's log file. -/
def logDate (seconds : Int) : String :=
  let (y, m, d) := Calendar.civilFromDays (seconds.fdiv 86400)
  Instant.yearText y ++ "-" ++ Instant.padded 2 m ++ "-" ++ Instant.padded 2 d

/-- A daemon that is listening, with its state. -/
structure Started where
  address : SocketAddr
  state : AppState

/-- What starting the daemon gives: the log files it made, then a report or a listening
daemon. -/
structure Launch where
  logFiles : List String
  result : Except Report Started

/-- The address the daemon listens on when none is given. -/
def defaultBind : String := "127.0.0.1:7410"

/-- The log filter the daemon runs with, or the report of one that does not read. -/
def logFilter (m : Machine) : Except Report String :=
  match m.var "RUST_LOG" with
  | some f =>
    match LogFilter.check f with
    | .ok () => .ok f
    | .error _ => fallback
  | none => fallback
where
  fallback : Except Report String :=
    let level := (m.var "NEARLINK_LOG_LEVEL").getD "info"
    match LogFilter.check level with
    | .ok () => .ok level
    | .error e => .error { top := e.message, causes := e.causes }

/-- Bind an address on the machine. -/
def bindOn (m : Machine) (a : SocketAddr) : Except Report SocketAddr :=
  if a.portOf != 0 && m.busyPorts.contains a.portOf then
    .error { top := "Address already in use (os error 98)" }
  else if !a.isLocal then .error { top := "Cannot assign requested address (os error 99)" }
  else .ok a

/-- Start the daemon on a machine. -/
def launch (m : Machine) : Launch :=
  match logFilter m with
  | .error r => { logFiles := [], result := .error r }
  | .ok _ =>
    let production := m.var "NEARLINK_ENV" == some "production"
    let logFiles := if production then ["nearlinkd." ++ m.date] else []
    let result : Except Report Started := do
      let state ← (AppState.load m.files m.vars m.cwd).mapError fun e =>
        { top := e.context, causes := e.causes }
      let bind := (m.var "NEARLINK_BIND").getD defaultBind
      let addr ← match SocketAddr.parse bind with
        | some a => pure a
        | none => throw { top := "Invalid NEARLINK_BIND address '" ++ bind ++ "'",
                          causes := ["invalid socket address syntax"] }
      let addr ← bindOn m addr
      pure { address := addr, state }
    { logFiles, result }

end Proximity
