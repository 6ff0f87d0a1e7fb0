import Proximity.Text.Blank
import Proximity.Text.Ascii
import Proximity.Error

/-!
# Mediums

A medium is one of the seven radio or network technologies a nearby connection can run
over. Mediums have a fixed order, the order of `Medium.all`; every list of mediums this
library writes follows it.

A medium is read from a token: the token is trimmed, its ASCII letters are upper-cased
and its hyphens become underscores, and the result must be a medium's name or one of the
two aliases `BLUETOOTH` and `WEBRTC`. A token that reads as no medium is kept, as written,
in the `UnknownMedium` error.
-/

namespace Proximity

/-- The radio and network technologies of a nearby connection. -/
inductive Medium where
  | bluetoothClassic
  | ble
  | wifiLan
  | wifiDirect
  | wifiAware
  | nfc
  | webRtc
  deriving DecidableEq, Repr, Inhabited

namespace Medium

/-- Every medium, in the order lists of mediums are written. -/
def all : List Medium :=
  [bluetoothClassic, ble, wifiLan, wifiDirect, wifiAware, nfc, webRtc]

/-- The name a medium is written with. -/
def name : Medium → String
  | bluetoothClassic => "BLUETOOTH_CLASSIC"
  | ble => "BLE"
  | wifiLan => "WIFI_LAN"
  | wifiDirect => "WIFI_DIRECT"
  | wifiAware => "WIFI_AWARE"
  | nfc => "NFC"
  | webRtc => "WEB_RTC"

/-- The medium that a normalized token names: a medium's name, `BLUETOOTH` or `WEBRTC`. -/
def ofName? : String → Option Medium
  | "BLUETOOTH_CLASSIC" => some bluetoothClassic
  | "BLUETOOTH" => some bluetoothClassic
  | "BLE" => some ble
  | "WIFI_LAN" => some wifiLan
  | "WIFI_DIRECT" => some wifiDirect
  | "WIFI_AWARE" => some wifiAware
  | "NFC" => some nfc
  | "WEB_RTC" => some webRtc
  | "WEBRTC" => some webRtc
  | _ => none

/-- A token trimmed, upper-cased (ASCII) and with its hyphens written as underscores. -/
def normalizeToken (s : String) : String :=
  Text.hyphensToUnderscores (Text.upperAscii (Text.trim s))

/-- A token that names no medium, kept as it was written. -/
structure UnknownMedium where
  token : String
  deriving DecidableEq, Repr

/-- The text of an unknown-medium error. -/
def UnknownMedium.message (e : UnknownMedium) : String :=
  "Unknown medium: '" ++ e.token ++ "'. Expected one of BLUETOOTH_CLASSIC, BLE, WIFI_LAN, " ++
    "WIFI_DIRECT, WIFI_AWARE, NFC, WEB_RTC."

/-- The failure an unknown medium stands for. -/
def UnknownMedium.failure (e : UnknownMedium) : Failure := ⟨e.message, .invalidMedium e.token⟩

/-- Reads a medium from a token. -/
def parse (s : String) : Except UnknownMedium Medium :=
  match ofName? (normalizeToken s) with
  | some m => .ok m
  | none => .error ⟨s⟩

/-- Reads every token of a list, stopping at the first that names no medium. -/
def parseAll : List String → Except UnknownMedium (List Medium)
  | [] => .ok []
  | t :: ts => do
    let m ← parse t
    let ms ← parseAll ts
    return m :: ms

theorem ofName?_name (m : Medium) : ofName? m.name = some m := by
  cases m <;> rfl

theorem mem_all (m : Medium) : m ∈ all := by
  cases m <;> simp [all]

end Medium

end Proximity
