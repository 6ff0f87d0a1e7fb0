import Proximity.Medium.Set
import Proximity.Json.Shape

/-!
# Medium sets as JSON

A medium set is written in two ways: as the names of its mediums, in the order of
`Medium.all`, or as an object with one boolean field per medium (`bluetooth`, `ble`,
`wifi_lan`, `wifi_direct`, `wifi_aware`, `nfc`, `web_rtc`). The object form is read back
with every field required.
-/

namespace Proximity

/-- The field that holds a medium in the object form. -/
def Medium.fieldName : Medium → String
  | .bluetoothClassic => "bluetooth"
  | .ble => "ble"
  | .wifiLan => "wifi_lan"
  | .wifiDirect => "wifi_direct"
  | .wifiAware => "wifi_aware"
  | .nfc => "nfc"
  | .webRtc => "web_rtc"

namespace MediumSet

/-- The names of the allowed mediums. -/
def namesJson (s : MediumSet) : Json := .arr (s.members.map fun m => .str m.name)

/-- The object form: one boolean per medium. -/
def toFields (s : MediumSet) : Json :=
  .obj (Medium.all.map fun m => (m.fieldName, .bool (s.get m)))

/-- The shape of the object form. -/
def fieldsShape : Json.Shape :=
  .record "MediumSelector" (Medium.all.map fun m => { name := m.fieldName, shape := .bool })

/-- The set an object form (as `fieldsShape` reads it) describes. -/
def ofFields (j : Json) : MediumSet :=
  MediumMap.ofFn fun m =>
    match j.get? m.fieldName with
    | some (.bool b) => b
    | _ => false

end MediumSet

end Proximity
