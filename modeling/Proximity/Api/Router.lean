import Proximity.Api.Request
import Proximity.Api.Options
import Proximity.Api.Presence

/-!
# Routing API requests

How the daemon answers one HTTP request. The routes are

* `GET /health`: the health check;
* `POST /api/options/discovery/normalize`, `POST /api/options/advertising/normalize`;
* `POST /api/presence/devices`: a fresh identity, answered with 201;
* `GET` and `PUT /api/credentials/<account>/private`;
* `GET` and `PUT /api/credentials/<account>/public/<type>`;
* `POST /api/credentials/<account>/sync`;
* `GET /api/openapi.json` and `GET /api-docs/openapi.json`: the API document;
* `GET /swagger-ui`: a redirect (303) to `/swagger-ui/`, under which the interactive
  documentation is served.

Routes are matched on the raw path; a parameter is one non-empty segment. A path that
names no route answers 404, and a route asked with a method it does not take 405, both
with no body. `HEAD` is taken wherever `GET` is and answers as `GET` would, without the
body.

A handler first reads its inputs (see `ApiRequest`), and a request whose inputs do not
read is refused with plain text. After that a handler's own failure answers with its API
error.
-/

namespace Proximity

/-- What a request path names; parameters are kept as they stand in the path. -/
inductive Endpoint where
  | health
  | document
  | normalizeDiscovery
  | normalizeAdvertising
  | presenceDevices
  | privateCredentials (account : String)
  | publicCredentials (account kind : String)
  | syncCredentials (account : String)
  | docsRedirect
  /-- a file of the interactive documentation; none for the prefix itself -/
  | docsPage (name : Option String)
  | docsDocument
  deriving DecidableEq, Repr

namespace Endpoint

/-- The endpoint a path names. -/
def ofPath (path : String) : Option Endpoint :=
  match path.splitOn "/" with
  | ["", "health"] => some .health
  | ["", "api", "openapi.json"] => some .document
  | ["", "api", "options", "discovery", "normalize"] => some .normalizeDiscovery
  | ["", "api", "options", "advertising", "normalize"] => some .normalizeAdvertising
  | ["", "api", "presence", "devices"] => some .presenceDevices
  | ["", "api", "credentials", a, "private"] =>
    if a.isEmpty then none else some (.privateCredentials a)
  | ["", "api", "credentials", a, "public", k] =>
    if a.isEmpty || k.isEmpty then none else some (.publicCredentials a k)
  | ["", "api", "credentials", a, "sync"] =>
    if a.isEmpty then none else some (.syncCredentials a)
  | ["", "swagger-ui"] => some .docsRedirect
  | ["", "swagger-ui", ""] => some (.docsPage none)
  | "" :: "swagger-ui" :: rest => some (.docsPage (some ("/".intercalate rest)))
  | ["", "api-docs", "openapi.json"] => some .docsDocument
  | _ => none

/-- The methods an endpoint takes besides `HEAD`. -/
def methods : Endpoint → List String
  | health | document | docsRedirect | docsPage _ | docsDocument => ["GET"]
  | normalizeDiscovery | normalizeAdvertising | presenceDevices | syncCredentials _ => ["POST"]
  | privateCredentials _ | publicCredentials _ _ => ["GET", "PUT"]

/-- Whether an endpoint takes a method: `HEAD` wherever `GET` is taken. -/
def accepts (e : Endpoint) (method : String) : Bool :=
  e.methods.contains method || (method == "HEAD" && e.methods.contains "GET")

end Endpoint

/-- What handling a request gives: the response, the state after it, and the requests
sent to the sync service on the way. -/
structure Handled where
  response : ApiResponse
  state : AppState
  sent : List Http.Request := []

/-- The response to a read of the interactive documentation. -/
def docsResponse (name : String) : ApiResponse :=
  match docsFile name with
  | some (file, type) => { status := 200, contentType := some type, body := .docsFile file }
  | none => ApiResponse.notFound

/-- The JSON of a list of credentials. -/
def credentialsJson (cs : List Credential) : Json := .arr (cs.map Credential.toJson)

namespace AppState

/-- Answers a request whose inputs do not read, leaving the state as it is. -/
def refuse (st : AppState) (r : ApiResponse) : Handled := ⟨r, st, []⟩

/-- Runs the handler of an endpoint that takes the request's method; the sync service is
reached through `exchange`. -/
def serve (st : AppState) (exchange : Exchange) (req : ApiRequest) : Endpoint → Handled
  | .health => ⟨.ofJson 200 st.health.toJson, st, []⟩
  | .document | .docsDocument =>
    ⟨{ status := 200, contentType := some ApiResponse.jsonType, body := .document .daemon }, st, []⟩
  | .normalizeDiscovery =>
    match req.json fun t => NormalizeRequest.ofCanonical <$> NormalizeRequest.shape.parseText t with
    | .error r => st.refuse r
    | .ok r => ⟨.ofResult 200 (NormalizedResponse.toJson <$> normalizeDiscovery st.config r), st, []⟩
  | .normalizeAdvertising =>
    match req.json fun t => NormalizeRequest.ofCanonical <$> NormalizeRequest.shape.parseText t with
    | .error r => st.refuse r
    | .ok r => ⟨.ofResult 200 (NormalizedResponse.toJson <$> normalizeAdvertising st.config r), st, []⟩
  | .presenceDevices =>
    match req.json fun t => CreateDeviceRequest.ofCanonical <$> CreateDeviceRequest.shape.parseText t with
    | .error r => st.refuse r
    | .ok r =>
      let (d, identities) := createDevice st.identities r
      ⟨.ofResult 201 ((d.map PresenceDevice.toJson).mapError ApiError.ofError), { st with identities }, []⟩
  | .privateCredentials raw =>
    if req.method == "PUT" then
      match (do
        let account ← ApiRequest.param "account" raw
        let cs ← req.json (Credential.listOfText .private_)
        pure (account, cs)) with
      | .error r => st.refuse r
      | .ok (account, cs) =>
        let (r, st') := st.putPrivate account cs
        ⟨.ofResult 200 (SaveResponse.toJson <$> r), st', []⟩
    else
      match (do
        let account ← ApiRequest.param "account" raw
        let q ← req.query
        pure (account, q)) with
      | .error r => st.refuse r
      | .ok (account, q) => ⟨.ofResult 200 (credentialsJson <$> st.getPrivate account q), st, []⟩
  | .publicCredentials rawAccount rawKind =>
    if req.method == "PUT" then
      match (do
        let account ← ApiRequest.param "account" rawAccount
        let kind ← ApiRequest.param "credential_type" rawKind
        let cs ← req.json (Credential.listOfText .public_)
        pure (account, kind, cs)) with
      | .error r => st.refuse r
      | .ok (account, kind, cs) =>
        let (r, st') := st.putPublic account kind cs
        ⟨.ofResult 200 (SaveResponse.toJson <$> r), st', []⟩
    else
      match (do
        let account ← ApiRequest.param "account" rawAccount
        let kind ← ApiRequest.param "credential_type" rawKind
        let q ← req.query
        pure (account, kind, q)) with
      | .error r => st.refuse r
      | .ok (account, kind, q) =>
        ⟨.ofResult 200 (credentialsJson <$> st.getPublic account kind q), st, []⟩
  | .syncCredentials raw =>
    match (do
      let account ← ApiRequest.param "account" raw
      let q ← req.query
      pure (account, q)) with
    | .error r => st.refuse r
    | .ok (account, q) =>
      let (r, st', sent) := st.syncCredentials exchange account q
      ⟨.ofResult 200 (SyncResponse.toJson <$> r), st', sent⟩
  | .docsRedirect => ⟨{ status := 303, location := some "/swagger-ui/" }, st, []⟩
  | .docsPage none => ⟨docsResponse "", st, []⟩
  | .docsPage (some raw) =>
    match ApiRequest.param "rest" raw with
    | .error r => st.refuse r
    | .ok name => ⟨docsResponse name, st, []⟩

/-- Answers a request: routes it, checks its method and runs the handler. -/
def handle (st : AppState) (exchange : Exchange) (req : ApiRequest) : Handled :=
  match Endpoint.ofPath req.target.path with
  | none => st.refuse ApiResponse.notFound
  | some e =>
    if !e.accepts req.method then st.refuse ApiResponse.methodNotAllowed
    else
      let h := st.serve exchange req e
      if req.method == "HEAD" then { h with response := { h.response with body := .empty } } else h

end AppState

end Proximity
