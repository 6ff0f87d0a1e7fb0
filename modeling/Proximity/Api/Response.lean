import Proximity.Api.Document
import Proximity.Error

/-!
# API responses

A response of the API is a status, a content type and a redirect target when there are
any, and a body: JSON, plain text, the API document, or a file of the interactive
documentation. Handlers answer with JSON, or with an API error (its status, and a JSON
body with the code, the message and `details: null`); requests whose inputs do not read
are refused with plain text; an unknown path or method gets no body at all.
-/

namespace Proximity

/-- The body of an API response. -/
inductive ResponseBody where
  | empty
  | json (value : Json)
  | text (content : String)
  /-- the API document, in full -/
  | document (d : ApiDocument)
  /-- a file of the interactive documentation, by name -/
  | docsFile (name : String)

/-- A response of the API: the status, the content type and the redirect target if there
are any, and the body. -/
structure ApiResponse where
  status : Nat
  contentType : Option String := none
  location : Option String := none
  body : ResponseBody := .empty

/-- The JSON body of an API error. -/
def ApiError.body (e : ApiError) : Json :=
  .obj [("error", .str e.code), ("message", .str e.message), ("details", .null)]

namespace ApiResponse

/-- The content type of plain-text rejections. -/
def plainText : String := "text/plain; charset=utf-8"

/-- The content type of JSON bodies. -/
def jsonType : String := "application/json"

/-- A JSON response. -/
def ofJson (status : Nat) (j : Json) : ApiResponse :=
  { status, contentType := some jsonType, body := .json j }

/-- A plain-text rejection of a request whose inputs do not read. -/
def rejection (status : Nat) (text : String) : ApiResponse :=
  { status, contentType := some plainText, body := .text text }

/-- The response to an API error. -/
def ofError (e : ApiError) : ApiResponse := ofJson e.status.code e.body

/-- The response to a handler's result: the JSON of a success with a status, or the
error's. -/
def ofResult (status : Nat) (r : Except ApiError Json) : ApiResponse :=
  match r with
  | .ok j => ofJson status j
  | .error e => ofError e

/-- The answer to a path that names no route. -/
def notFound : ApiResponse := { status := 404 }

/-- The answer to a route asked with a method it does not take. -/
def methodNotAllowed : ApiResponse := { status := 405 }

/-- The header fields a response carries besides its length: the content type and the
redirect target, when it has them. -/
def fields (r : ApiResponse) : List (String × String) :=
  (r.contentType.map fun t => ("content-type", t)).toList ++
    (r.location.map fun l => ("location", l)).toList

end ApiResponse

/-- The text of a body as it is sent: JSON written compactly, the API document in its short
form; none for a documentation file, whose bytes the host that serves them holds. -/
def ResponseBody.text? : ResponseBody → Option String
  | .empty => some ""
  | .json j => some j.render
  | .text t => some t
  | .document d => some d.summary.render
  | .docsFile _ => none

end Proximity
