import Proximity.Json.Shape

/-!
# Device motion

A motion hint says how a device was being held when it was seen: nothing known, or pointed
at a target and held. It comes with the classifier's confidence, a 32-bit float kept in
`[0, 1]`: a confidence outside is moved to the nearer bound and NaN becomes `0`. The
bounds are compared as floats, so `-0.0` is inside and stays as it is.

A hint reads from an object with the fields `motion_type` and `confidence`, or from a
list of them in that order; a field left out takes its default (`unknown`, `0`).
-/

namespace Proximity

/-- What motion was observed. -/
inductive MotionType where
  | unknown
  | pointAndHold
  deriving DecidableEq, Repr, Inhabited

namespace MotionType

/-- The name on the wire. -/
def name : MotionType → String
  | unknown => "unknown"
  | pointAndHold => "point_and_hold"

/-- The names, in declaration order. -/
def names : List String := ["unknown", "point_and_hold"]

/-- The motion type of a name. -/
def ofName? : String → Option MotionType
  | "unknown" => some unknown
  | "point_and_hold" => some pointAndHold
  | _ => none

end MotionType

/-- A motion hint with its confidence. -/
structure Motion where
  kind : MotionType := .unknown
  confidence : Float32 := 0
  deriving Inhabited

namespace Motion

/-- A confidence kept in `[0, 1]`; NaN becomes `0`. -/
def clampConfidence (c : Float32) : Float32 :=
  if c.isNaN then 0
  else if c < 0 then 0
  else if c > 1 then 1
  else c

/-- A hint with its confidence clamped. -/
def make (kind : MotionType) (confidence : Float32) : Motion :=
  { kind, confidence := clampConfidence confidence }

/-- Whether the hint equals the default one, confidences compared as floats. -/
def isDefault (m : Motion) : Bool := m.kind == .unknown && m.confidence == 0

/-- The JSON form. -/
def toJson (m : Motion) : Json :=
  .obj [("motion_type", .str m.kind.name), ("confidence", .float32 m.confidence)]

open Json in
/-- The shape of a hint before clamping. -/
def shape : Shape :=
  .record "RawDeviceMotion" [
    { name := "motion_type", shape := .variants MotionType.names,
      fallback := some (.str MotionType.unknown.name) },
    { name := "confidence", shape := .f32, fallback := some (.float32 0) }]

/-- The hint a canonical value (as `shape` gives it) describes, clamped. -/
def ofCanonical (j : Json) : Motion :=
  let kind := match j.getD "motion_type" with
    | .str s => (MotionType.ofName? s).getD .unknown
    | _ => .unknown
  let confidence := match j.getD "confidence" with
    | .float32 x => x
    | _ => 0
  make kind confidence

/-- Reads a hint from a parsed JSON value. -/
def ofJson (j : Json) : Except String Motion := ofCanonical <$> shape.decode j

end Motion

end Proximity
