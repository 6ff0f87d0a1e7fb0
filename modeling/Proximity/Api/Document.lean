import Proximity.Json.Value

/-!
# The API document

What the daemon publishes about its own API: the document's format version, title,
version and licence, the servers it is reached at, the tags that group operations, each
operation (where it lives, its method, its identifier, tag, summary and the status codes
it answers with) and the names of the schemas it describes.

`ApiDocument.summary` is the short form of the document compared across builds: the
fields above, operations grouped by path and method, status codes and schema names
sorted.

The interactive documentation is a fixed set of files served under one prefix; a file is
named by what follows the prefix, and the empty name is the index page.
-/

namespace Proximity

/-- One operation of the API. -/
structure ApiOperation where
  path : String
  method : String
  operationId : String
  tag : String
  summary : String
  responses : List Nat
  deriving DecidableEq, Repr

/-- A description of the API. -/
structure ApiDocument where
  formatVersion : String
  title : String
  version : String
  license : String
  servers : List String
  tags : List String
  operations : List ApiOperation
  schemas : List String
  deriving DecidableEq, Repr

namespace ApiDocument

/-- The operations of the daemon's API. -/
def daemonOperations : List ApiOperation := [
  ⟨"/health", "get", "healthCheck", "system", "Check service health", [200]⟩,
  ⟨"/api/options/discovery/normalize", "post", "normalizeDiscoveryOptions", "options",
    "Normalize discovery options", [200, 400]⟩,
  ⟨"/api/options/advertising/normalize", "post", "normalizeAdvertisingOptions", "options",
    "Normalize advertising options", [200, 400]⟩,
  ⟨"/api/presence/devices", "post", "createPresenceDevice", "presence",
    "Mint a presence identity", [201, 422, 500]⟩,
  ⟨"/api/credentials/\x7baccount\x7d/private", "get", "getPrivateCredentials", "credentials",
    "Get private credentials", [200, 400, 404]⟩,
  ⟨"/api/credentials/\x7baccount\x7d/private", "put", "savePrivateCredentials", "credentials",
    "Replace private credentials", [200, 400]⟩,
  ⟨"/api/credentials/\x7baccount\x7d/public/\x7bcredential_type\x7d", "get",
    "getPublicCredentials", "credentials", "Get public credentials", [200, 400, 404]⟩,
  ⟨"/api/credentials/\x7baccount\x7d/public/\x7bcredential_type\x7d", "put",
    "savePublicCredentials", "credentials", "Replace public credentials", [200, 400]⟩,
  ⟨"/api/credentials/\x7baccount\x7d/sync", "post", "syncCredentials", "credentials",
    "Sync remote public credentials", [200, 424, 502, 503]⟩]

/-- The daemon's API document. -/
def daemon : ApiDocument where
  formatVersion := "3.1.0"
  title := "nearlink API"
  version := "0.1.0"
  license := "MIT"
  servers := ["/"]
  tags := ["system", "options", "presence", "credentials"]
  operations := daemonOperations
  schemas := ["ErrorResponse", "HealthResponse", "Strategy", "Medium", "MediumResolution",
    "NormalizeOptionsRequest", "NormalizedOptionsResponse", "KeepAliveResponse", "MacAddress",
    "MotionType", "DeviceMotion", "DeviceMetadata", "ConnectionInfo",
    "CreatePresenceDeviceRequest", "PresenceDeviceResponse", "IdentityType",
    "PrivateCredential", "PublicCredential", "SaveCredentialsResponse",
    "SyncCredentialsResponse"]

/-- The distinct paths of the operations, in order of first appearance. -/
def paths (d : ApiDocument) : List String :=
  d.operations.foldl (fun acc o => if acc.contains o.path then acc else acc ++ [o.path]) []

/-- Texts in ascending byte order. -/
def sortTexts (xs : List String) : List String := xs.mergeSort (fun a b => decide (a ≤ b))

/-- The short form of an operation. -/
def operationSummary (o : ApiOperation) : Json :=
  .obj [("operationId", .str o.operationId), ("tags", .arr [.str o.tag]),
    ("summary", .str o.summary),
    ("responses", .arr ((o.responses.mergeSort (· ≤ ·)).map fun c => .str (toString c)))]

/-- The short form of the document. -/
def summary (d : ApiDocument) : Json :=
  .obj [("openapi", .str d.formatVersion), ("title", .str d.title), ("version", .str d.version),
    ("license", .str d.license), ("servers", .arr (d.servers.map .str)),
    ("tags", .arr (d.tags.map .str)),
    ("paths", .obj (d.paths.map fun p =>
      (p, .obj ((d.operations.filter (·.path == p)).map fun o => (o.method, operationSummary o))))),
    ("schemas", .arr ((sortTexts d.schemas).map .str))]

/-- What writing the document to a file reports, line by line: where it went and how
many paths and schemas it holds. -/
def writeReport (d : ApiDocument) (path : String) : List String :=
  ["Generating OpenAPI specification...", "", "Written to: " ++ path,
    "Paths: " ++ toString d.paths.length, "Schemas: " ++ toString d.schemas.length, "",
    "OpenAPI specification generated successfully!"]

end ApiDocument

/-- The files of the interactive documentation and their media types. -/
def docsFiles : List (String × String) := [
  ("index.html", "text/html"),
  ("index.css", "text/css"),
  ("swagger-initializer.js", "text/javascript"),
  ("swagger-ui.css", "text/css"),
  ("swagger-ui.js", "text/javascript"),
  ("swagger-ui-bundle.js", "text/javascript"),
  ("swagger-ui-standalone-preset.js", "text/javascript"),
  ("swagger-ui-es-bundle.js", "text/javascript"),
  ("swagger-ui-es-bundle-core.js", "text/javascript"),
  ("oauth2-redirect.html", "text/html"),
  ("oauth2-redirect.js", "text/javascript"),
  ("favicon-16x16.png", "image/png"),
  ("favicon-32x32.png", "image/png")]

/-- The file a name under the documentation prefix serves: the empty name and `/` serve
the index page. -/
def docsFile (name : String) : Option (String × String) :=
  let name := if name.isEmpty || name == "/" then "index.html" else name
  docsFiles.find? (·.1 == name)

end Proximity
