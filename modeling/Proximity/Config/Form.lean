import Proximity.Config.Basic
import Proximity.Json.Shape

/-!
# Configuration as JSON

The JSON form of a configuration has the sections `discovery`, `credentials` and `sync`
with their fields in snake case. Reading it, every field and every section may be left
out and takes its default; an absent optional value is `null`.
-/

namespace Proximity

namespace Config

open Json

/-- The JSON form of the discovery section. -/
def DiscoveryConfig.toJson (d : DiscoveryConfig) : Json :=
  .obj [("strategy", .str d.strategy), ("mediums", .arr (d.mediums.map .str)),
    ("low_power", .bool d.lowPower), ("always_on", .bool d.alwaysOn),
    ("auto_upgrade_bandwidth", .bool d.autoUpgradeBandwidth),
    ("enforce_topology_constraints", .bool d.enforceTopologyConstraints),
    ("keep_alive_interval_millis", .nat d.keepAliveIntervalMillis.toNat),
    ("keep_alive_timeout_millis", .nat d.keepAliveTimeoutMillis.toNat),
    ("fast_advertisement_service_uuid",
      match d.fastAdvertisementServiceUuid with
      | some u => .str u
      | none => .null)]

/-- The JSON form of a configuration. -/
def toJson (c : Config) : Json :=
  .obj [("discovery", DiscoveryConfig.toJson c.discovery),
    ("credentials", .obj [
      ("data_dir", match c.credentials.dataDir with
        | some p => .str p
        | none => .null),
      ("manager_app_id", .str c.credentials.managerAppId)]),
    ("sync", .obj [
      ("base_url", match c.sync.baseUrl with
        | some u => .str u
        | none => .null),
      ("timeout_secs", .nat c.sync.timeoutSecs)])]

/-- A field of a section, with the default taken from the default configuration. -/
def field (section_ name : String) (shape : Shape) : FieldSpec Shape :=
  { name, shape, fallback := (toJson {}).get? section_ |>.bind (·.get? name) }

/-- The shape of the JSON form. -/
def shape : Shape :=
  let sec (name structName : String) (fields : List (FieldSpec Shape)) : FieldSpec Shape :=
    { name, shape := .record structName fields, fallback := (toJson {}).get? name }
  .record "Config" [
    sec "discovery" "DiscoveryConfig" [
      field "discovery" "strategy" Shape.string,
      field "discovery" "mediums" (.seq Shape.string),
      field "discovery" "low_power" .bool,
      field "discovery" "always_on" .bool,
      field "discovery" "auto_upgrade_bandwidth" .bool,
      field "discovery" "enforce_topology_constraints" .bool,
      field "discovery" "keep_alive_interval_millis" (.unsigned 32),
      field "discovery" "keep_alive_timeout_millis" (.unsigned 32),
      field "discovery" "fast_advertisement_service_uuid" (.option Shape.string)],
    sec "credentials" "CredentialsConfig" [
      field "credentials" "data_dir" (.option (.text "path string" (fun _ => none) false)),
      field "credentials" "manager_app_id" Shape.string],
    sec "sync" "SyncConfig" [
      field "sync" "base_url" (.option Shape.string),
      field "sync" "timeout_secs" (.unsigned 64)]]

/-- A text of a canonical value. -/
def textOf (j : Json) : String :=
  match j with
  | .str s => s
  | _ => ""

/-- The configuration a canonical JSON form (as `shape` gives it) describes. -/
def ofCanonical (j : Json) : Config :=
  let d := j.getD "discovery"
  let c := j.getD "credentials"
  let s := j.getD "sync"
  let flag (k : String) (dflt : Bool) : Bool := match d.getD k with
    | .bool b => b
    | _ => dflt
  let num (sec : Json) (k : String) (dflt : Nat) : Nat := match sec.getD k with
    | .nat n => n
    | _ => dflt
  let optText (sec : Json) (k : String) : Option String := match sec.getD k with
    | .str v => some v
    | _ => none
  { discovery := {
      strategy := textOf (d.getD "strategy")
      mediums := match d.getD "mediums" with
        | .arr items => items.map textOf
        | _ => []
      lowPower := flag "low_power" false
      alwaysOn := flag "always_on" false
      autoUpgradeBandwidth := flag "auto_upgrade_bandwidth" true
      enforceTopologyConstraints := flag "enforce_topology_constraints" true
      -- a canonical value has passed the 32-bit check, so these numbers fit
      keepAliveIntervalMillis := UInt32.ofNat (num d "keep_alive_interval_millis" 0)
      keepAliveTimeoutMillis := UInt32.ofNat (num d "keep_alive_timeout_millis" 0)
      fastAdvertisementServiceUuid := optText d "fast_advertisement_service_uuid" }
    credentials := { dataDir := optText c "data_dir", managerAppId := textOf (c.getD "manager_app_id") }
    sync := { baseUrl := optText s "base_url", timeoutSecs := num s "timeout_secs" 15 } }

/-- Reads a configuration from a parsed JSON value. -/
def ofJson (j : Json) : Except String Config := ofCanonical <$> shape.decode j

end Config

end Proximity
