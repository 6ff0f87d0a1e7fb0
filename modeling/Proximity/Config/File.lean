import Proximity.Config.Read
import Proximity.Toml.Write
import Proximity.Files.Tree
/-!
# Configuration files

`Config.save` writes a configuration as TOML after making the directory it goes in;
`Config.load` reads a file that must exist, and `Config.loadOrDefault` falls back to the
defaults when there is no file. Both apply the environment's overrides on top.

A configuration is written section by section in the order of its fields; absent optional
fields are left out. Numbers are written as 64-bit signed integers, so a sync timeout of
2^63 seconds or more cannot be written.

A configuration path names its file directly, or with `.toml` added when no file has the
name as given. Messages name a file by its path relative to the working directory.
-/

namespace Proximity

/-- The components of a path: the runs of characters between slashes, empty ones left out. -/
def pathParts (p : String) : List String :=
  ((p.toList.splitOn '/').filter (· != [])).map String.ofList

/-- The directory part of a path: everything before its last `/`. -/
def parentText (p : String) : String :=
  match p.toList.reverse.dropWhile (· != '/') with
  | _ :: rest => String.ofList rest.reverse
  | [] => ""

/-- A path as seen from a working directory. -/
def relativeTo (cwd path : String) : String :=
  if (cwd ++ "/").isPrefixOf path then (path.drop (cwd.length + 1)).toString else path

namespace Config

/-- The largest number a TOML integer holds. -/
def tomlIntMax : Nat := Nat.pow 2 63 - 1

end Config

/-- The members of the discovery section, in the order of its fields; an absent UUID is left
out. -/
def DiscoveryConfig.tomlMembers (d : DiscoveryConfig) : List (String × TomlValue) :=
  [("strategy", .str d.strategy),
   ("mediums", .arr (d.mediums.map .str)),
   ("low_power", .bool d.lowPower),
   ("always_on", .bool d.alwaysOn),
   ("auto_upgrade_bandwidth", .bool d.autoUpgradeBandwidth),
   ("enforce_topology_constraints", .bool d.enforceTopologyConstraints),
   ("keep_alive_interval_millis", .int d.keepAliveIntervalMillis.toNat),
   ("keep_alive_timeout_millis", .int d.keepAliveTimeoutMillis.toNat)]
  ++ (d.fastAdvertisementServiceUuid.map fun u => ("fast_advertisement_service_uuid", .str u)).toList

/-- The members of the credentials section; an absent data directory is left out. -/
def CredentialsConfig.tomlMembers (c : CredentialsConfig) : List (String × TomlValue) :=
  (c.dataDir.map fun p => ("data_dir", .str p)).toList ++ [("manager_app_id", .str c.managerAppId)]

/-- The members of the sync section; an absent base URL is left out. -/
def SyncConfig.tomlMembers (s : SyncConfig) : List (String × TomlValue) :=
  (s.baseUrl.map fun u => ("base_url", .str u)).toList ++ [("timeout_secs", .int s.timeoutSecs)]

namespace Config

/-- The document of a configuration: a table for each section, in the order of its fields. -/
def tomlDocument (c : Config) : List (String × TomlValue) :=
  [("discovery", .table c.discovery.tomlMembers),
   ("credentials", .table c.credentials.tomlMembers),
   ("sync", .table c.sync.tomlMembers)]

/-- The document of a configuration, or the fault of a number too large to write. -/
def toToml (c : Config) : Except String (List (String × TomlValue)) := do
  if c.sync.timeoutSecs > tomlIntMax then throw "out-of-range value for u64 type"
  pure c.tomlDocument

/-- The TOML text of a configuration. -/
def tomlText (c : Config) : Except ConfigError String :=
  match c.toToml with
  | .ok ms => .ok (TomlValue.writeTable ms)
  | .error m => .error (.serializeError m)

/-- Write a configuration to a file, making its directory first. -/
def save (c : Config) (fs : FileTree) (path : String) : Except ConfigError FileTree := do
  let parts := pathParts path
  let fs ← (fs.makeDirAll parts.dropLast).mapError fun e => .writeError (parentText path) e.message
  let text ← c.tomlText
  (fs.write parts text).mapError fun e => .writeError path e.message

/-- The text of the file a configuration path names, if there is one. -/
def findFile (fs : FileTree) (path : String) : Option String :=
  match fs.lookup (pathParts path) with
  | some (.file t) => some t
  | _ =>
    match fs.lookup (pathParts (path ++ ".toml")) with
    | some (.file t) => some t
    | _ => none

/-- A configuration from a file and the environment; a missing file is an error when
`required`, else no settings. -/
def build (fs : FileTree) (env : List (String × String)) (cwd path : String)
    (required : Bool) : Except ConfigError Config :=
  let gathered : Except SourceError Config := do
    let file ← match findFile fs path with
      | some text => Setting.ofDocument (some (relativeTo cwd path)) text
      | none => if required then throw (.missing path) else pure []
    gather file env
  gathered.mapError fun e => .parseError e.message

/-- Load a configuration file, which must exist, with the environment's overrides. -/
def load (fs : FileTree) (env : List (String × String)) (cwd path : String) :
    Except ConfigError Config :=
  if (fs.lookup (pathParts path)).isNone then .error (.notFound path)
  else build fs env cwd path true

/-- Load a configuration file when there is one, else the defaults, with the environment's
overrides. -/
def loadOrDefault (fs : FileTree) (env : List (String × String)) (cwd path : String) :
    Except ConfigError Config :=
  build fs env cwd path false

end Config

end Proximity
