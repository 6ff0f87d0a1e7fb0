import Proximity.Text.Ascii
import Proximity.Json.Value

/-!
# HTTP messages

The requests this library sends and the responses it receives, as plain values. Headers
are an ordered list of name and value pairs in which a name may repeat; names are looked
up ignoring ASCII case, and the first match is the value of a name.

One exchange sends one request and gives the response, whatever its status; only a
failure to get a response at all is an error.
-/

namespace Proximity.Http

/-- Ordered headers; names may repeat. -/
structure Headers where
  entries : List (String × String) := []
  deriving DecidableEq, Repr, Inhabited

namespace Headers

/-- Adds a header after the others, keeping any earlier values of the name. -/
def append (h : Headers) (name value : String) : Headers := ⟨h.entries ++ [(name, value)]⟩

/-- The first value of a name, ignoring ASCII case. -/
def get? (h : Headers) (name : String) : Option String :=
  (h.entries.find? fun e => Text.eqIgnoreAsciiCase e.1 name).map (·.2)

/-- Every value of a name, in order. -/
def getAll (h : Headers) (name : String) : List String :=
  (h.entries.filter fun e => Text.eqIgnoreAsciiCase e.1 name).map (·.2)

/-- The number of headers. -/
def length (h : Headers) : Nat := h.entries.length

/-- Whether there are no headers. -/
def isEmpty (h : Headers) : Bool := h.entries.isEmpty

/-- The JSON form: a list of name and value pairs. -/
def toJson (h : Headers) : Json := .arr (h.entries.map fun e => .arr [.str e.1, .str e.2])

end Headers

/-- An outgoing request. -/
structure Request where
  url : String
  method : String := "GET"
  headers : Headers := {}
  body : String := ""
  deriving DecidableEq, Repr

namespace Request

/-- A `GET` request for a URL, with no headers and no body. -/
def get (url : String) : Request := { url }

/-- The request with one more header. -/
def withHeader (r : Request) (name value : String) : Request :=
  { r with headers := r.headers.append name value }

/-- The JSON form. -/
def toJson (r : Request) : Json :=
  .obj [("url", .str r.url), ("method", .str r.method), ("headers", r.headers.toJson),
    ("body", .str r.body)]

end Request

/-- A received response. -/
structure Response where
  statusCode : Nat
  statusText : String := ""
  headers : Headers := {}
  body : String := ""
  deriving DecidableEq, Repr

/-- Whether the status is 2xx. -/
def Response.isSuccess (r : Response) : Bool := 200 ≤ r.statusCode && r.statusCode < 300

/-- A failure to exchange a request for a response. -/
inductive TransportError where
  | invalidUrl (url message : String)
  | invalidMethod (method : String)
  | transport (message : String)
  | clientInit (message : String)
  deriving DecidableEq, Repr

/-- The error's own description. -/
def TransportError.message : TransportError → String
  | .invalidUrl url m => "Invalid URL '" ++ url ++ "': " ++ m
  | .invalidMethod m => "Invalid HTTP method: '" ++ m ++ "'"
  | .transport m => "HTTP transport failed: " ++ m
  | .clientInit m => "Failed to create HTTP client: " ++ m

end Proximity.Http
