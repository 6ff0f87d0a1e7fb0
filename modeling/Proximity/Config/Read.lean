import Proximity.Config.Setting
import Proximity.Config.Basic
import Proximity.Toml.Read
/-!
# Reading a configuration from its sources

The file's settings are merged first (its root keys read as paths), then the environment's,
and the merged table is read into a `Config`. A section or field that is absent keeps its
default; keys the configuration does not know are ignored. The first field that does not
read, in the order of the fields, is the failure.
-/

namespace Proximity

/-- Why the sources could not be gathered or read into a configuration, in the words of the
configuration reader. -/
inductive SourceError where
  /-- A required file that is not there. -/
  | missing (path : String)
  /-- A file that is not a TOML document: the report and the file as messages name it. -/
  | malformed (uri : Option String) (report : String)
  /-- A setting that does not read as its field. -/
  | mismatch (e : ReadFault)

/-- The error's text. -/
def SourceError.message : SourceError → String
  | .missing p => "configuration file \"" ++ p ++ "\" not found"
  | .malformed uri report => report ++ (match uri with | some u => " in " ++ u | none => "")
  | .mismatch e => e.message

namespace Setting

/-- The settings of a TOML document from `uri`, under lower-cased root keys. -/
def ofDocument (uri : Option String) (text : String) :
    Except SourceError (List (String × Setting)) :=
  match TomlValue.readTable text with
  | .error e => .error (.malformed uri e.render)
  | .ok ms => .ok (collapseKeys (ofTomlMembers uri ms))

/-- The root table of the merged sources: the file's settings, then the environment's. -/
def merged (file : List (String × Setting)) (env : List (String × String)) : Setting :=
  let byKey := fun (a b : String × Setting) => decide (a.1 ≤ b.1)
  let root := file.foldl (fun r (k, v) => setKey k v r) (table none [])
  ((environmentSettings env).mergeSort byKey).foldl (fun r (k, v) => setKey k v r) root

end Setting

namespace Config

/-- The members of a section as its fields see them, each with the key a failure names:
a table's members under their names, or a list's items taken as the fields in their order
(`names`), under their positions `[i]`; items past the last field are ignored. Anything
else is not the section `what`. -/
def sectionMembers (what : String) (names : List String) (s : Setting) :
    Except ReadFault (List (String × String × Setting)) :=
  match s with
  | .table _ ms => .ok (ms.map fun (k, v) => (k, k, v))
  | .list _ xs => .ok ((names.zip xs.zipIdx).map fun (n, x, i) => (n, "[" ++ toString i ++ "]", x))
  | _ => .error (s.refuse what)

/-- A field of a section: its default when absent, else read from its setting. -/
def readField (ms : List (String × String × Setting)) (name : String) (default : α)
    (read : Setting → Except ReadFault α) : Except ReadFault α :=
  match ms.find? (·.1 == name) with
  | none => .ok default
  | some (_, key, s) => (read s).mapError (·.underKey key)

/-- An optional text: the empty scalar is none. -/
def readOptional (s : Setting) : Except ReadFault (Option String) :=
  if s.isNil then .ok none else some <$> s.asString

/-- A list of texts; the list's reader takes nothing but a list. -/
def readTexts (s : Setting) : Except ReadFault (List String) :=
  match s with
  | .list _ xs =>
    xs.zipIdx.mapM fun (x, i) => x.asString.mapError (·.underKey ("[" ++ toString i ++ "]"))
  | _ => .error (s.refuse "a sequence")

/-- The discovery section. -/
def readDiscovery (s : Setting) : Except ReadFault DiscoveryConfig := do
  let ms ← sectionMembers "struct DiscoveryConfig"
    ["strategy", "mediums", "low_power", "always_on", "auto_upgrade_bandwidth",
     "enforce_topology_constraints", "keep_alive_interval_millis",
     "keep_alive_timeout_millis", "fast_advertisement_service_uuid"] s
  let d : DiscoveryConfig := {}
  let strategy ← readField ms "strategy" d.strategy Setting.asString
  let mediums ← readField ms "mediums" d.mediums readTexts
  let lowPower ← readField ms "low_power" d.lowPower Setting.asBool
  let alwaysOn ← readField ms "always_on" d.alwaysOn Setting.asBool
  let autoUpgradeBandwidth ←
    readField ms "auto_upgrade_bandwidth" d.autoUpgradeBandwidth Setting.asBool
  let enforceTopologyConstraints ←
    readField ms "enforce_topology_constraints" d.enforceTopologyConstraints Setting.asBool
  let keepAliveIntervalMillis ←
    readField ms "keep_alive_interval_millis" d.keepAliveIntervalMillis Setting.asUnsigned32
  let keepAliveTimeoutMillis ←
    readField ms "keep_alive_timeout_millis" d.keepAliveTimeoutMillis Setting.asUnsigned32
  let fastAdvertisementServiceUuid ←
    readField ms "fast_advertisement_service_uuid" d.fastAdvertisementServiceUuid readOptional
  pure { strategy, mediums, lowPower, alwaysOn, autoUpgradeBandwidth,
         enforceTopologyConstraints, keepAliveIntervalMillis, keepAliveTimeoutMillis,
         fastAdvertisementServiceUuid }

/-- The credentials section. -/
def readCredentials (s : Setting) : Except ReadFault CredentialsConfig := do
  let ms ← sectionMembers "struct CredentialsConfig" ["data_dir", "manager_app_id"] s
  let d : CredentialsConfig := {}
  let dataDir ← readField ms "data_dir" d.dataDir readOptional
  let managerAppId ← readField ms "manager_app_id" d.managerAppId Setting.asString
  pure { dataDir, managerAppId }

/-- The sync section. -/
def readSync (s : Setting) : Except ReadFault SyncConfig := do
  let ms ← sectionMembers "struct SyncConfig" ["base_url", "timeout_secs"] s
  let d : SyncConfig := {}
  let baseUrl ← readField ms "base_url" d.baseUrl readOptional
  let timeoutSecs ← readField ms "timeout_secs" d.timeoutSecs Setting.asUnsigned
  pure { baseUrl, timeoutSecs }

/-- A configuration from the merged settings. -/
def ofSetting (root : Setting) : Except ReadFault Config := do
  let ms ← sectionMembers "struct Config" ["discovery", "credentials", "sync"] root
  let discovery ← readField ms "discovery" {} readDiscovery
  let credentials ← readField ms "credentials" {} readCredentials
  let sync ← readField ms "sync" {} readSync
  pure { discovery, credentials, sync }

/-- A configuration from a file's settings (if any) and the environment. -/
def gather (file : List (String × Setting)) (env : List (String × String)) :
    Except SourceError Config :=
  (ofSetting (Setting.merged file env)).mapError .mismatch

/-- A configuration from TOML text alone. -/
def fromTomlText (text : String) : Except ConfigError Config :=
  match Setting.ofDocument none text >>= fun file => gather file [] with
  | .ok c => .ok c
  | .error e => .error (.parseError e.message)

end Config

end Proximity
