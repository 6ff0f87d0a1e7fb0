import Proximity.Config.Basic
import Proximity.Options.Form

/-!
# Normalizing options over the API

A client posts the options it intends to use; every field may be left out and then takes
the daemon's configured default (the connection is not out of band unless it says so). The
answer is the normalized options: the strategy, the mediums as requested and as
normalized with the rule that produced them, the flags, the mediums a bandwidth upgrade may
move to, the keep-alive in use (discovery only) and the fast-advertisement UUID.

A configuration whose defaults do not read is a fault of the daemon (500); an unknown
strategy or medium in the request is the client's (400). The strategy is read before the
mediums.
-/

namespace Proximity

/-- A request to normalize options. -/
structure NormalizeRequest where
  strategy : Option String := none
  mediums : Option (List String) := none
  outOfBand : Bool := false
  lowPower : Option Bool := none
  alwaysOn : Option Bool := none
  autoUpgradeBandwidth : Option Bool := none
  enforceTopologyConstraints : Option Bool := none
  keepAliveIntervalMillis : Option Nat := none
  keepAliveTimeoutMillis : Option Nat := none
  fastAdvertisementServiceUuid : Option String := none
  deriving DecidableEq, Repr

/-- Normalized options as the API answers them. -/
structure NormalizedResponse where
  strategy : Strategy
  requestedMediums : MediumSet
  mediums : MediumSet
  resolution : Resolution
  outOfBand : Bool
  lowPower : Bool
  alwaysOn : Bool
  autoUpgradeBandwidth : Bool
  enforceTopologyConstraints : Bool
  upgradeMediums : MediumSet
  keepAlive : Option KeepAlive
  fastAdvertisementServiceUuid : String

namespace NormalizeRequest

open Json

/-- The shape of a request: every field may be left out. -/
def shape : Shape :=
  let opt (name : String) (s : Shape) : FieldSpec Shape :=
    { name, shape := .option s, fallback := some .null }
  .record "NormalizeOptionsRequest" [
    opt "strategy" Shape.string,
    opt "mediums" (.seq Shape.string),
    { name := "is_out_of_band_connection", shape := .bool, fallback := some (.bool false) },
    opt "low_power" .bool,
    opt "always_on" .bool,
    opt "auto_upgrade_bandwidth" .bool,
    opt "enforce_topology_constraints" .bool,
    opt "keep_alive_interval_millis" (.unsigned 32),
    opt "keep_alive_timeout_millis" (.unsigned 32),
    opt "fast_advertisement_service_uuid" Shape.string]

/-- The request a canonical value (as `shape` gives it) describes. -/
def ofCanonical (j : Json) : NormalizeRequest :=
  let text (k : String) : Option String := match j.getD k with
    | .str s => some s
    | _ => none
  let flag (k : String) : Option Bool := match j.getD k with
    | .bool b => some b
    | _ => none
  let num (k : String) : Option Nat := match j.getD k with
    | .nat n => some n
    | _ => none
  { strategy := text "strategy"
    mediums := match j.getD "mediums" with
      | .arr items => some (items.filterMap fun i => match i with
        | .str s => some s
        | _ => none)
      | _ => none
    outOfBand := (flag "is_out_of_band_connection").getD false
    lowPower := flag "low_power"
    alwaysOn := flag "always_on"
    autoUpgradeBandwidth := flag "auto_upgrade_bandwidth"
    enforceTopologyConstraints := flag "enforce_topology_constraints"
    keepAliveIntervalMillis := num "keep_alive_interval_millis"
    keepAliveTimeoutMillis := num "keep_alive_timeout_millis"
    fastAdvertisementServiceUuid := text "fast_advertisement_service_uuid" }

/-- Reads a request from a parsed JSON value. -/
def ofJson (j : Json) : Except String NormalizeRequest := ofCanonical <$> shape.decode j

/-- The common options with the request's strategy, mediums and power flags laid over. -/
def applyBase (r : NormalizeRequest) (o : Options) : Except ApiError Options := do
  let strategy ← match r.strategy with
    | some t => match Strategy.parse t with
      | .ok s => pure s
      | .error e => throw (ApiError.ofError (.invalidStrategy e.token))
    | none => pure o.strategy
  let allowed ← match r.mediums with
    | some ts => match Medium.parseAll ts with
      | .ok ms => pure (MediumSet.ofList ms)
      | .error e => throw (ApiError.ofError (.invalidMedium e.token))
    | none => pure o.allowed
  pure { o with strategy, allowed, lowPower := r.lowPower.getD o.lowPower,
                alwaysOn := r.alwaysOn.getD o.alwaysOn }

/-- The common options a request asks for, over defaults. -/
def applyCommon (r : NormalizeRequest) (o : Options) : Except ApiError Options := do
  let base ← r.applyBase o
  pure { base with
    outOfBand := r.outOfBand
    autoUpgradeBandwidth := r.autoUpgradeBandwidth.getD o.autoUpgradeBandwidth
    enforceTopologyConstraints := r.enforceTopologyConstraints.getD o.enforceTopologyConstraints
    fastAdvertisementServiceUuid := r.fastAdvertisementServiceUuid.getD o.fastAdvertisementServiceUuid }

end NormalizeRequest

/-- The answer for options as requested and as normalized. -/
def NormalizedResponse.describe (requested normalized : Options) (r : Resolution) :
    NormalizedResponse :=
  { strategy := normalized.strategy
    requestedMediums := requested.allowed
    mediums := normalized.allowed
    resolution := r
    outOfBand := normalized.outOfBand
    lowPower := normalized.lowPower
    alwaysOn := normalized.alwaysOn
    autoUpgradeBandwidth := normalized.autoUpgradeBandwidth
    enforceTopologyConstraints := normalized.enforceTopologyConstraints
    upgradeMediums := normalized.upgradeMediums
    keepAlive := none
    fastAdvertisementServiceUuid := normalized.fastAdvertisementServiceUuid }

/-- The JSON form of the answer; the keep-alive only when there is one. -/
def NormalizedResponse.toJson (r : NormalizedResponse) : Json :=
  .obj ([("strategy", .str r.strategy.name), ("requested_mediums", r.requestedMediums.namesJson),
    ("mediums", r.mediums.namesJson), ("resolution", .str r.resolution.name),
    ("is_out_of_band_connection", .bool r.outOfBand), ("low_power", .bool r.lowPower),
    ("always_on", .bool r.alwaysOn), ("auto_upgrade_bandwidth", .bool r.autoUpgradeBandwidth),
    ("enforce_topology_constraints", .bool r.enforceTopologyConstraints),
    ("upgrade_mediums", r.upgradeMediums.namesJson)] ++
    (match r.keepAlive with
      | some k => [("keep_alive", k.toJson)]
      | none => []) ++
    [("fast_advertisement_service_uuid", .str r.fastAdvertisementServiceUuid)])

/-- Normalizes discovery options asked for over the configured defaults. -/
def normalizeDiscovery (c : Config) (r : NormalizeRequest) : Except ApiError NormalizedResponse := do
  let defaults ← match c.discoveryOptions with
    | .ok d => pure d
    | .error e => throw (ApiError.ofError e.toError)
  let common ← r.applyCommon defaults.toOptions
  let d : DiscoveryOptions := { defaults with
    toOptions := common
    keepAliveIntervalMillis := r.keepAliveIntervalMillis.getD defaults.keepAliveIntervalMillis
    keepAliveTimeoutMillis := r.keepAliveTimeoutMillis.getD defaults.keepAliveTimeoutMillis }
  let (n, res) := d.resolve
  pure { NormalizedResponse.describe d.toOptions n.toOptions res with keepAlive := some n.keepAlive }

/-- Normalizes advertising options asked for over the configured defaults. -/
def normalizeAdvertising (c : Config) (r : NormalizeRequest) : Except ApiError NormalizedResponse := do
  let defaults ← match c.advertisingOptions with
    | .ok d => pure d
    | .error e => throw (ApiError.ofError e.toError)
  let o ← r.applyCommon defaults
  let (n, res) := o.resolve
  pure (NormalizedResponse.describe o n res)

end Proximity
