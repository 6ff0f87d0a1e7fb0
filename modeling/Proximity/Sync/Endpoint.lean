import Proximity.Url.Edit
import Proximity.Credential.Kind
import Proximity.Http.Message
import Proximity.Json.Error

/-!
# The sync endpoint

Remote public credentials of an account are pulled from
`<base>/v1/accounts/<account>/public-credentials?identity_type=<type>`. The base URL's
path keeps its segments, but an empty last one (a trailing slash) is dropped first; the
account is one segment, percent-encoded, and a segment `.` or `..` is left out. The
identity type is added to any query the base already has, and a fragment is kept.

A base whose path cannot take segments (such as `mailto:` or `data:` URLs) has no
endpoint.
-/

namespace Proximity

/-- Failures of a sync. -/
inductive SyncError where
  /-- the base URL cannot carry a path -/
  | invalidUrl (url : String)
  /-- the exchange itself failed -/
  | transport (e : Http.TransportError)
  /-- the service answered with a status other than 2xx -/
  | status (code : Nat) (text : String)
  /-- the answer is not a list of credentials -/
  | decode (e : Json.ReadError)
  /-- the store refused -/
  | store (e : StoreError)
  deriving Repr

namespace SyncError

/-- The error's own description. -/
def message : SyncError → String
  | invalidUrl u => "Invalid sync URL: " ++ u
  | transport e => e.message
  | status code text => "Sync endpoint returned " ++ toString code ++ " " ++ text
  | decode e => "Failed to decode sync response: " ++ e.message
  | store e => e.message

/-- The error it stands for. -/
def toError : SyncError → Error
  | invalidUrl u => .configValidation ("sync.base_url: cannot build URL from " ++ u)
  | transport e => .syncTransport e.message
  | status code text => .syncRejected code text
  | decode e => .syncDecode e.message
  | store e => e.toError

/-- The failure it stands for. -/
def failure (e : SyncError) : Failure := ⟨e.message, e.toError⟩

end SyncError

/-- The URL remote public credentials of an account and identity type are pulled from. -/
def syncEndpoint (base : Url) (account : String) (t : IdentityType) : Except SyncError Url :=
  let segments := ["v1", "accounts", account, "public-credentials"]
  match base.withSegments segments with
  | some u => .ok (u.appendPair "identity_type" t.name)
  | none => .error (.invalidUrl base.toString)

end Proximity
