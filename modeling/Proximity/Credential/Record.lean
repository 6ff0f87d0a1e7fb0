import Proximity.Credential.Kind
import Proximity.Time.Instant
import Proximity.Json.Shape

/-!
# Credentials

A credential is issued for an identity type and carries a secret id shared by its private
and public halves, a format version, a validity window and key material. The private half
stays on the owning device; the public half may be shared. Both halves have the same
fields and differ only in what their material is for, so one record serves for both, and
`Half` says which one is meant where it matters: in the name a reader gives the record in
its errors.

A credential is valid from the start of its window up to, but not including, its end.
-/

namespace Proximity

/-- The private or the public half of a credential. -/
inductive Half where
  | private_
  | public_
  deriving DecidableEq, Repr

/-- The name of a half's record. -/
def Half.recordName : Half → String
  | .private_ => "PrivateCredential"
  | .public_ => "PublicCredential"

/-- A credential. -/
structure Credential where
  identityType : IdentityType
  secretId : List Nat
  version : Nat
  startTime : Instant
  endTime : Instant
  material : List Nat
  deriving DecidableEq, Repr

namespace Credential

open Json

/-- Whether a moment falls in the validity window. -/
def isValidAt (c : Credential) (at_ : Instant) : Bool :=
  decide (c.startTime ≤ at_) && decide (at_ < c.endTime)

/-- The JSON form. -/
def toJson (c : Credential) : Json :=
  .obj [("identity_type", .str c.identityType.name), ("secret_id", .arr (c.secretId.map .nat)),
    ("version", .nat c.version), ("start_time", .str c.startTime.render),
    ("end_time", .str c.endTime.render), ("material", .arr (c.material.map .nat))]

/-- An instant as a field: a string in RFC 3339 form. -/
def instantShape : Shape :=
  .text "an RFC 3339 formatted date and time string" (fun s => match Instant.parse s with
    | .ok _ => none
    | .error e => some e.message) false

/-- The shape of the JSON form of a half; every field is required. -/
def shape (h : Half) : Shape :=
  .record h.recordName [
    { name := "identity_type", shape := .variants (IdentityType.all.map IdentityType.name) },
    { name := "secret_id", shape := .seq (.unsigned 8) },
    { name := "version", shape := .unsigned 32 },
    { name := "start_time", shape := instantShape },
    { name := "end_time", shape := instantShape },
    { name := "material", shape := .seq (.unsigned 8) }]

/-- The bytes of a canonical list. -/
def bytesOf (j : Json) : List Nat :=
  match j with
  | .arr items => items.filterMap fun i => match i with
    | .nat n => some n
    | _ => none
  | _ => []

/-- The instant of a canonical text. -/
def instantOf (j : Json) : Instant :=
  match j with
  | .str s => match Instant.parse s with
    | .ok t => t
    | .error _ => default
  | _ => default

/-- The credential a canonical value (as `shape` gives it) describes. -/
def ofCanonical (j : Json) : Credential :=
  { identityType := match j.getD "identity_type" with
      | .str s => (IdentityType.ofName? s).getD .private_
      | _ => .private_
    secretId := bytesOf (j.getD "secret_id")
    version := match j.getD "version" with
      | .nat n => n
      | _ => 0
    startTime := instantOf (j.getD "start_time")
    endTime := instantOf (j.getD "end_time")
    material := bytesOf (j.getD "material") }

/-- Reads a credential half from a parsed JSON value. -/
def ofJson (h : Half) (j : Json) : Except String Credential := ofCanonical <$> (shape h).decode j

/-- Reads a list of credential halves from a parsed JSON value. -/
def listOfJson (h : Half) (j : Json) : Except String (List Credential) := do
  match ← (Shape.seq (shape h)).decode j with
  | .arr items => pure (items.map ofCanonical)
  | _ => pure []

/-- Reads a list of credential halves from JSON text; errors carry their position. -/
def listOfText (h : Half) (text : String) : Except ReadError (List Credential) := do
  match ← (Shape.seq (shape h)).parseText text with
  | .arr items => pure (items.map ofCanonical)
  | _ => pure []

/-- The JSON text of a list of credentials. -/
def listText (cs : List Credential) : String := (Json.arr (cs.map toJson)).render

end Credential

end Proximity
