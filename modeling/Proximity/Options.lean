import Proximity.Strategy

/-!
# Connection options and their mediums

Advertising and discovery both carry a strategy, the set of mediums the caller allows,
and a few flags; discovery adds a keep-alive interval and timeout.

Normalizing the options makes the medium set legal:

* an out-of-band connection uses exactly one medium. A set of one medium is kept; any
  other set becomes Bluetooth Classic alone (`Resolution.outOfBandFallback`);
* otherwise an empty set means "no preference" and becomes every medium
  (`Resolution.allMediums`), and a non-empty set is kept (`Resolution.unchanged`).

Normalizing changes nothing but the medium set. The mediums a connection may later
upgrade to are the normalized set of a connection that is not out of band, cut down to
the strategy's mediums when topology constraints are enforced, and none when automatic
upgrade is off or the connection is out of band.
-/

namespace Proximity

/-- How normalizing arrived at its medium set. -/
inductive Resolution where
  | unchanged
  | allMediums
  | outOfBandFallback
  deriving DecidableEq, Repr, Inhabited

/-- The name a resolution is written with. -/
def Resolution.name : Resolution → String
  | .unchanged => "unchanged"
  | .allMediums => "all_mediums"
  | .outOfBandFallback => "out_of_band_fallback"

/-- The medium an out-of-band connection falls back to. -/
def outOfBandFallbackMedium : Medium := .bluetoothClassic

/-- The legal medium set for a requested set, and how it was reached. -/
def resolveMediums (allowed : MediumSet) (outOfBand : Bool) : MediumSet × Resolution :=
  if outOfBand then
    if allowed.count = 1 then (allowed, .unchanged)
    else (MediumSet.only outOfBandFallbackMedium, .outOfBandFallback)
  else if allowed.any then (allowed, .unchanged)
  else (MediumSet.full, .allMediums)

/-- The legal medium set for a requested set. -/
def normalizeMediums (allowed : MediumSet) (outOfBand : Bool) : MediumSet :=
  (resolveMediums allowed outOfBand).1

/-- The keep-alive interval used when none is set, in milliseconds. -/
def defaultKeepAliveIntervalMillis : Nat := 5000

/-- The keep-alive timeout used when none is set, in milliseconds. -/
def defaultKeepAliveTimeoutMillis : Nat := 30000

/-- What advertising and discovery options have in common. -/
structure Options where
  strategy : Strategy
  allowed : MediumSet := MediumSet.empty
  lowPower : Bool := false
  alwaysOn : Bool := false
  autoUpgradeBandwidth : Bool := true
  enforceTopologyConstraints : Bool := true
  outOfBand : Bool := false
  fastAdvertisementServiceUuid : String := ""
  deriving DecidableEq, Repr

/-- Discovery options: the common options and a keep-alive interval and timeout, in
milliseconds, where zero means the default. -/
structure DiscoveryOptions extends Options where
  keepAliveIntervalMillis : Nat := 0
  keepAliveTimeoutMillis : Nat := 0
  deriving DecidableEq, Repr

/-- Advertising options are the common options alone. -/
abbrev AdvertisingOptions := Options

/-- The keep-alive a discovery uses, in milliseconds. -/
structure KeepAlive where
  intervalMillis : Nat
  timeoutMillis : Nat
  deriving DecidableEq, Repr

namespace Options

/-- The options with their medium set made legal, and how it was reached. -/
def resolve (o : Options) : Options × Resolution :=
  let (allowed, r) := resolveMediums o.allowed o.outOfBand
  ({ o with allowed := allowed }, r)

/-- The options with their medium set made legal. -/
def normalize (o : Options) : Options := o.resolve.1

/-- The mediums the connection may upgrade its bandwidth to. -/
def upgradeMediums (o : Options) : MediumSet :=
  if !o.autoUpgradeBandwidth || o.outOfBand then MediumSet.empty
  else
    let allowed := normalizeMediums o.allowed false
    if o.enforceTopologyConstraints then allowed.inter o.strategy.compatibleMediums
    else allowed

end Options

namespace DiscoveryOptions

/-- The discovery options with their medium set made legal, and how it was reached. -/
def resolve (d : DiscoveryOptions) : DiscoveryOptions × Resolution :=
  let (o, r) := d.toOptions.resolve
  ({ d with toOptions := o }, r)

/-- The discovery options with their medium set made legal. -/
def normalize (d : DiscoveryOptions) : DiscoveryOptions := d.resolve.1

/-- The keep-alive in use: a zero interval or timeout is replaced by its default. -/
def keepAlive (d : DiscoveryOptions) : KeepAlive where
  intervalMillis :=
    if d.keepAliveIntervalMillis = 0 then defaultKeepAliveIntervalMillis else d.keepAliveIntervalMillis
  timeoutMillis :=
    if d.keepAliveTimeoutMillis = 0 then defaultKeepAliveTimeoutMillis else d.keepAliveTimeoutMillis

end DiscoveryOptions

end Proximity
