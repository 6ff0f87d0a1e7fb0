import Proximity.Presence.Motion
import Proximity.Identity.MacAddress
import Proximity.Identity.EndpointId
import Proximity.Medium

/-!
# Presence devices

A presence device is an identity minted once for an advertised or discovered device: the
moment it was seen, the motion hint, the caller's description of the device and a fresh
endpoint id. None of these change afterwards.

Minting reads the clock first and then draws the endpoint id, so a mint that fails for
want of randomness has still used a clock reading. The clock here is a script of readings
in nanoseconds: each read takes the next one; once they are used up the last one is read
again, and with none at all the clock reads `0`.
-/

namespace Proximity

/-- The caller's description of a device. -/
structure DeviceMetadata where
  stableDeviceId : String := ""
  accountName : String := ""
  deviceName : String := ""
  userName : String := ""
  deviceProfileUrl : Option String := none
  bluetoothMacAddress : MacAddress
  deriving DecidableEq, Repr

namespace DeviceMetadata

open Json

/-- The JSON form. -/
def toJson (d : DeviceMetadata) : Json :=
  .obj [("stable_device_id", .str d.stableDeviceId), ("account_name", .str d.accountName),
    ("device_name", .str d.deviceName), ("user_name", .str d.userName),
    ("device_profile_url", match d.deviceProfileUrl with
      | some u => .str u
      | none => .null),
    ("bluetooth_mac_address", .str d.bluetoothMacAddress.text)]

/-- A MAC address as a field: a string that reads as an address, checked once the string
has been read. -/
def macShape : Shape :=
  .text "a string" (fun s => match MacAddress.parse s with
    | .ok _ => none
    | .error e => some e.message) true

/-- The shape of the JSON form: every field but the MAC address may be left out. -/
def shape : Shape :=
  let text (name : String) : FieldSpec Shape := { name, shape := Shape.string, fallback := some (.str "") }
  .record "DeviceMetadata" [text "stable_device_id", text "account_name", text "device_name",
    text "user_name",
    { name := "device_profile_url", shape := .option Shape.string, fallback := some .null },
    { name := "bluetooth_mac_address", shape := macShape }]

/-- The description a canonical value (as `shape` gives it) describes. -/
def ofCanonical (j : Json) : DeviceMetadata :=
  let text (k : String) : String := match j.getD k with
    | .str s => s
    | _ => ""
  { stableDeviceId := text "stable_device_id"
    accountName := text "account_name"
    deviceName := text "device_name"
    userName := text "user_name"
    deviceProfileUrl := match j.getD "device_profile_url" with
      | .str s => some s
      | _ => none
    -- a canonical value's address has passed `macShape`, so the fallback is never taken
    bluetoothMacAddress := match MacAddress.parse (text "bluetooth_mac_address") with
      | .ok m => m
      | .error _ => MacAddress.zero }

end DeviceMetadata

/-- How to reach a device over one medium. -/
inductive ConnectionInfo where
  | ble (macAddress : MacAddress)
  deriving DecidableEq, Repr

namespace ConnectionInfo

/-- The medium the information is for. -/
def medium : ConnectionInfo → Medium
  | ble _ => .ble

/-- The JSON form, tagged with the medium. -/
def toJson : ConnectionInfo → Json
  | ble mac => .obj [("medium", .str Medium.ble.name), ("mac_address", .str mac.text)]

end ConnectionInfo

/-- A minted presence identity. -/
structure PresenceDevice where
  /-- clock reading when the identity was minted -/
  discoveryNanos : Nat
  motion : Motion
  metadata : DeviceMetadata
  endpointId : EndpointId

namespace PresenceDevice

/-- One entry per medium the device can be reached over: Bluetooth Low Energy at its MAC
address. -/
def connectionInfos (d : PresenceDevice) : List ConnectionInfo :=
  [.ble d.metadata.bluetoothMacAddress]

/-- The discovery time in whole milliseconds. -/
def discoveryMillis (d : PresenceDevice) : Nat := d.discoveryNanos / 1000000

/-- The JSON form the API answers with. -/
def toJson (d : PresenceDevice) : Json :=
  .obj [("endpoint_id", .str d.endpointId.text), ("discovery_timestamp_millis", .nat d.discoveryMillis),
    ("device_motion", d.motion.toJson), ("device_metadata", d.metadata.toJson),
    ("connection_infos", .arr (d.connectionInfos.map ConnectionInfo.toJson))]

end PresenceDevice

/-- A clock given by its readings in nanoseconds. -/
structure Clock where
  readings : List Nat := []
  last : Nat := 0
  deriving DecidableEq, Repr

/-- Reads the clock: the next reading, or the last one again once they are used up. -/
def Clock.read (c : Clock) : Nat × Clock :=
  match c.readings with
  | [] => (c.last, c)
  | r :: rest => (r, { readings := rest, last := r })

/-- What identities are minted from: a random source and a clock, shared by every mint. -/
structure IdentitySource where
  draws : List Draw := []
  clock : Clock := {}
  deriving DecidableEq, Repr

/-- Mints an identity: reads the clock, then draws an endpoint id. A missing motion hint is
the default one. -/
def IdentitySource.mint (src : IdentitySource) (metadata : DeviceMetadata) (motion : Option Motion) :
    Except IdentityError PresenceDevice × IdentitySource :=
  let (now, clock) := src.clock.read
  let (id, draws) := EndpointId.generate src.draws
  let src' := { draws, clock }
  match id with
  | .ok endpointId =>
    (.ok { discoveryNanos := now, motion := motion.getD {}, metadata, endpointId }, src')
  | .error e => (.error e, src')

end Proximity
