import Proximity.Options
import Proximity.Url.Basic
import Proximity.Uuid

/-!
# Configuration

The daemon's configuration has three sections:

* `discovery`: the defaults of discovery and advertising options, as tokens (a strategy,
  medium names) and values (flags, keep-alive, a fast-advertisement UUID);
* `credentials`: where credentials are kept and the manager app id;
* `sync`: the base URL of the sync service (none disables sync) and its timeout.

`Config.issues` checks every field and lists every problem, in a fixed order of fields:
the strategy, each unknown medium, the UUID, the keep-alive timeout (a timeout that is set
must exceed the interval), the manager app id (not blank), the sync URL (it must read as
an `http` or `https` URL) and the sync timeout (at least one second). `Config.validate`
reports one problem as itself and several together.

The tokens are read again when options are built from the configuration; a bad token is
then reported on its own field.
-/

namespace Proximity

/-- Defaults of discovery and advertising options. -/
structure DiscoveryConfig where
  strategy : String := "P2P_CLUSTER"
  mediums : List String := []
  lowPower : Bool := false
  alwaysOn : Bool := false
  autoUpgradeBandwidth : Bool := true
  enforceTopologyConstraints : Bool := true
  keepAliveIntervalMillis : UInt32 := 0
  keepAliveTimeoutMillis : UInt32 := 0
  fastAdvertisementServiceUuid : Option String := none
  deriving DecidableEq, Repr

/-- Where credentials are kept, and the app that manages them. -/
structure CredentialsConfig where
  dataDir : Option String := none
  managerAppId : String := "nearlink"
  deriving DecidableEq, Repr

/-- The sync service. -/
structure SyncConfig where
  baseUrl : Option String := none
  timeoutSecs : Nat := 15
  deriving DecidableEq, Repr

/-- The daemon's configuration. -/
structure Config where
  discovery : DiscoveryConfig := {}
  credentials : CredentialsConfig := {}
  sync : SyncConfig := {}
  deriving DecidableEq, Repr

/-- One field that holds an invalid value. -/
structure ValidationIssue where
  field : String
  message : String
  deriving DecidableEq, Repr

/-- The text of an issue. -/
def ValidationIssue.text (i : ValidationIssue) : String :=
  "Invalid value for '" ++ i.field ++ "': " ++ i.message

/-- Failures of handling a configuration. -/
inductive ConfigError where
  | notFound (path : String)
  | readError (path message : String)
  | writeError (path message : String)
  /-- the sources could not be read or merged; the text is the reader's own -/
  | parseError (message : String)
  | serializeError (message : String)
  | invalid (issue : ValidationIssue)
  | invalidMany (issues : List ValidationIssue)
  deriving DecidableEq, Repr

namespace ConfigError

/-- The error's own description. -/
def message : ConfigError → String
  | notFound p => "Configuration file not found: " ++ p
  | readError p m => "Failed to read " ++ p ++ ": " ++ m
  | writeError p m => "Failed to write " ++ p ++ ": " ++ m
  | parseError m => "Failed to parse configuration: " ++ m
  | serializeError m => "Failed to serialize configuration: " ++ m
  | invalid i => i.text
  | invalidMany is => s!"{is.length} configuration errors"

/-- The error it stands for. -/
def toError : ConfigError → Error
  | notFound p => .configNotFound p
  | readError p m => .persistence ("Failed to read " ++ p ++ ": " ++ m)
  | writeError p m => .persistence ("Failed to write " ++ p ++ ": " ++ m)
  | parseError m => .configParse m
  | serializeError m => .configParse m
  | invalid i => .configValidation (i.field ++ ": " ++ i.message)
  | invalidMany is => .configValidation ("; ".intercalate (is.map ValidationIssue.text))

/-- The failure it stands for. -/
def failure (e : ConfigError) : Failure := ⟨e.message, e.toError⟩

end ConfigError

namespace Config

/-- The store root used when none is configured. -/
def defaultDataDir : String := "/var/lib/nearlink"

/-- Where the configuration file is looked for by default. -/
def defaultPath : String := "/etc/nearlink/config.toml"

/-- The problem with the sync URL, if any. -/
def baseUrlIssue (s : String) : Option String :=
  match Url.parse s with
  | .error e => some e.message
  | .ok u => if u.scheme == "http" || u.scheme == "https" then none
    else some ("unsupported scheme '" ++ u.scheme ++ "'")

/-- Every problem of a configuration, in the order of the checks. -/
def issues (c : Config) : List ValidationIssue :=
  let d := c.discovery
  let strategy := match Strategy.parse d.strategy with
    | .ok _ => []
    | .error e => [⟨"discovery.strategy", e.message⟩]
  let mediums := d.mediums.filterMap fun t => match Medium.parse t with
    | .ok _ => none
    | .error e => some ⟨"discovery.mediums", e.message⟩
  let uuid := match d.fastAdvertisementServiceUuid with
    | some u => if Uuid.isValidText u then [] else
        [⟨"discovery.fast_advertisement_service_uuid", "'" ++ u ++ "' is not a UUID"⟩]
    | none => []
  let keepAlive :=
    if d.keepAliveTimeoutMillis != 0 && d.keepAliveTimeoutMillis ≤ d.keepAliveIntervalMillis then
      [⟨"discovery.keep_alive_timeout_millis", "must be greater than keep_alive_interval_millis"⟩]
    else []
  let appId := if Text.isBlankText c.credentials.managerAppId then
      [⟨"credentials.manager_app_id", "must not be empty"⟩] else []
  let url := match c.sync.baseUrl with
    | some u => match baseUrlIssue u with
      | some m => [⟨"sync.base_url", m⟩]
      | none => []
    | none => []
  let timeout := if c.sync.timeoutSecs == 0 then [⟨"sync.timeout_secs", "must be at least 1"⟩] else []
  strategy ++ mediums ++ uuid ++ keepAlive ++ appId ++ url ++ timeout

/-- Checks every field: one problem is reported as itself, several together. -/
def validate (c : Config) : Except ConfigError Unit :=
  match c.issues with
  | [] => .ok ()
  | [i] => .error (.invalid i)
  | is => .error (.invalidMany is)

/-- The configured strategy. -/
def strategy (c : Config) : Except ConfigError Strategy :=
  match Strategy.parse c.discovery.strategy with
  | .ok t => .ok t
  | .error e => .error (.invalid ⟨"discovery.strategy", e.message⟩)

/-- The configured medium set; the first unknown medium is an error. -/
def allowedMediums (c : Config) : Except ConfigError MediumSet :=
  match Medium.parseAll c.discovery.mediums with
  | .ok ms => .ok (MediumSet.ofList ms)
  | .error e => .error (.invalid ⟨"discovery.mediums", e.message⟩)

/-- Advertising options built from the configured defaults. -/
def advertisingOptions (c : Config) : Except ConfigError AdvertisingOptions := do
  let strategy ← c.strategy
  let allowed ← c.allowedMediums
  let d := c.discovery
  pure { strategy, allowed, lowPower := d.lowPower, alwaysOn := d.alwaysOn,
         autoUpgradeBandwidth := d.autoUpgradeBandwidth,
         enforceTopologyConstraints := d.enforceTopologyConstraints,
         fastAdvertisementServiceUuid := d.fastAdvertisementServiceUuid.getD "" }

/-- Discovery options built from the configured defaults. -/
def discoveryOptions (c : Config) : Except ConfigError DiscoveryOptions := do
  let o ← c.advertisingOptions
  pure { toOptions := o, keepAliveIntervalMillis := c.discovery.keepAliveIntervalMillis.toNat,
         keepAliveTimeoutMillis := c.discovery.keepAliveTimeoutMillis.toNat }

/-- The store root: the configured directory, else the default. -/
def credentialsDir (c : Config) : String := c.credentials.dataDir.getD defaultDataDir

end Config

end Proximity
