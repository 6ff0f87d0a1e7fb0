import Proximity.Options
import Proximity.Medium.Form

/-!
# Options as JSON

The JSON form of options: the common part under `base` (strategy, allowed mediums as an
object of booleans, the power flags), then the upgrade and topology flags, whether the
connection is out of band and the fast-advertisement service UUID; discovery options add
their keep-alive interval and timeout as given.
-/

namespace Proximity

/-- The JSON form of options. -/
def Options.toJson (o : Options) : Json :=
  .obj [("base", .obj [("strategy", .str o.strategy.name), ("allowed", o.allowed.toFields),
      ("low_power", .bool o.lowPower), ("always_on", .bool o.alwaysOn)]),
    ("auto_upgrade_bandwidth", .bool o.autoUpgradeBandwidth),
    ("enforce_topology_constraints", .bool o.enforceTopologyConstraints),
    ("is_out_of_band_connection", .bool o.outOfBand),
    ("fast_advertisement_service_uuid", .str o.fastAdvertisementServiceUuid)]

/-- The JSON form of discovery options. -/
def DiscoveryOptions.toJson (d : DiscoveryOptions) : Json :=
  match d.toOptions.toJson with
  | .obj ms => .obj (ms ++ [("keep_alive_interval_millis", .nat d.keepAliveIntervalMillis),
      ("keep_alive_timeout_millis", .nat d.keepAliveTimeoutMillis)])
  | j => j

/-- The JSON form of a keep-alive. -/
def KeepAlive.toJson (k : KeepAlive) : Json :=
  .obj [("interval_millis", .nat k.intervalMillis), ("timeout_millis", .nat k.timeoutMillis)]

end Proximity
