import Proximity.Config.Basic
import Proximity.Credential.Store
import Proximity.Presence.Device
import Proximity.Url.Basic
import Proximity.Text.Quoted

/-!
# The daemon's state

What the API handlers share: the configuration, the credential store, the source identities
are minted from, and the base URL of the sync service when sync is set up.
-/

namespace Proximity

/-- The daemon's shared state. -/
structure AppState where
  config : Config
  store : CredentialStore
  identities : IdentitySource := {}
  syncBase : Option Url := none

/-- How the credential store describes itself: nothing of its content. -/
def storageDescription : String := "CredentialStorage \x7b .. \x7d"

/-- How a sync set up against a base URL describes itself: the base URL only. -/
def syncDescription (base : Url) : String :=
  "CredentialSync \x7b base_url: " ++ Text.quoted base.toString ++ ", storage: " ++
    storageDescription ++ ", .. \x7d"

/-- The version the daemon reports. -/
def daemonVersion : String := "0.1.0"

/-- The answer of the health check. -/
structure Health where
  status : String
  version : String
  defaultStrategy : String
  syncEnabled : Bool
  deriving DecidableEq, Repr

/-- The health check: the configured strategy as written, and whether sync is set up. -/
def AppState.health (st : AppState) : Health :=
  { status := "ok", version := daemonVersion, defaultStrategy := st.config.discovery.strategy,
    syncEnabled := st.syncBase.isSome }

/-- The JSON form of the health check. -/
def Health.toJson (h : Health) : Json :=
  .obj [("status", .str h.status), ("version", .str h.version),
    ("default_strategy", .str h.defaultStrategy), ("sync_enabled", .bool h.syncEnabled)]

end Proximity
