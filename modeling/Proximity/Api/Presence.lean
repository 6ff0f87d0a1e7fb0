import Proximity.Presence.Device

/-!
# Minting presence identities over the API

A client posts a device description and, optionally, a motion hint; the daemon mints a
fresh identity for it. Two posts of the same description give unrelated endpoint ids.
-/

namespace Proximity

/-- A request to mint an identity. -/
structure CreateDeviceRequest where
  metadata : DeviceMetadata
  motion : Option Motion := none

namespace CreateDeviceRequest

open Json

/-- The shape of a request: the motion hint may be left out or `null`. -/
def shape : Shape :=
  .record "CreatePresenceDeviceRequest" [
    { name := "metadata", shape := DeviceMetadata.shape },
    { name := "motion", shape := .option Motion.shape, fallback := some .null }]

/-- The request a canonical value (as `shape` gives it) describes. -/
def ofCanonical (j : Json) : CreateDeviceRequest :=
  { metadata := DeviceMetadata.ofCanonical (j.getD "metadata")
    motion := match j.getD "motion" with
      | .null => none
      | m => some (Motion.ofCanonical m) }

/-- Reads a request from a parsed JSON value. -/
def ofJson (j : Json) : Except String CreateDeviceRequest := ofCanonical <$> shape.decode j

end CreateDeviceRequest

/-- Mints the identity a request asks for. -/
def createDevice (src : IdentitySource) (r : CreateDeviceRequest) :
    Except Error PresenceDevice × IdentitySource :=
  let (d, src') := src.mint r.metadata r.motion
  (d.mapError IdentityError.toError, src')

end Proximity
