import Proximity.Api.Response
import Proximity.Api.Credentials
import Proximity.Http.Target
import Proximity.Http.Media
import Proximity.Url.Form

/-!
# API requests

A request is built as a client builds it: the method must be a token, the target must
read, header names must be tokens and header values may hold no control characters but
tabs. A JSON body brings its content type with it.

A handler reads its inputs from the request in a fixed order, and the first that fails
refuses the request with plain text:

1. the path parameters, percent-decoded; bytes that are not UTF-8 answer 400;
2. the query (reads and syncs), form-encoded; `identity_type` must name an identity type
   exactly and may be given once, and other names are ignored; else 400;
3. the JSON body (saves, normalization, identities): without a JSON content type 415; a
   body that is not JSON text 400; JSON of the wrong shape 422.
-/

namespace Proximity

/-- A request as the API receives it. -/
structure ApiRequest where
  method : String := "GET"
  target : Http.Target
  headers : Http.Headers := {}
  body : String := ""

/-- A request body as a client sends it: JSON, which brings its content type, or raw text,
which brings none. -/
inductive RequestBody where
  | json (text : String)
  | raw (text : String)
  deriving DecidableEq, Repr

/-- Builds a request: the first fault, in the order method, target, headers (each name
before its value), is the error. -/
def ApiRequest.build (method target : String) (headers : Http.Headers) (body : Option RequestBody) :
    Except String ApiRequest := do
  if !Http.isToken method then throw "invalid HTTP method"
  let t ← (Http.Target.parse target).mapError Http.TargetError.message
  match headers.entries.find? (fun e => !Http.isToken e.1 || !Http.isHeaderValue e.2) with
  | some e => throw (if Http.isToken e.1 then "failed to parse header value" else "invalid HTTP header name")
  | none => pure ()
  match body with
  | some (.json text) =>
    pure { method, target := t, headers := headers.append "content-type" "application/json", body := text }
  | some (.raw text) => pure { method, target := t, headers, body := text }
  | none => pure { method, target := t, headers }

namespace CredentialQuery

/-- Reads a query from form pairs, the identity type seen so far given: a second
`identity_type` is refused before its value is read. -/
def ofPairsFrom (seen : Option IdentityType) : List (String × String) → Except String CredentialQuery
  | [] => .ok ⟨seen⟩
  | (k, v) :: rest =>
    if k != "identity_type" then ofPairsFrom seen rest
    else if seen.isSome then .error "duplicate field `identity_type`"
    else match IdentityType.ofName? v with
      | some t => ofPairsFrom (some t) rest
      | none =>
        .error ("identity_type: " ++ Json.unknownVariant v (IdentityType.all.map IdentityType.name))

/-- Reads a query from its form pairs. -/
def ofPairs (pairs : List (String × String)) : Except String CredentialQuery := ofPairsFrom none pairs

end CredentialQuery

namespace ApiRequest

/-- A path parameter, percent-decoded; a rejection when its bytes are not UTF-8. -/
def param (name raw : String) : Except ApiResponse String :=
  match Text.decode? (Url.percentDecode raw.toList) with
  | some s => .ok s
  | none => .error (ApiResponse.rejection 400 ("Invalid URL: Invalid UTF-8 in `" ++ name ++ "`"))

/-- The query of a read or a sync. -/
def query (req : ApiRequest) : Except ApiResponse CredentialQuery :=
  match CredentialQuery.ofPairs (Url.formPairs (req.target.query.getD "")) with
  | .ok q => .ok q
  | .error m => .error (ApiResponse.rejection 400 ("Failed to deserialize query string: " ++ m))

/-- Whether the request says its body is JSON. -/
def hasJsonBody (req : ApiRequest) : Bool :=
  match req.headers.get? "content-type" with
  | some v => Http.MediaType.isJson v
  | none => false

/-- The body read by a JSON reader: refused without a JSON content type, a syntax error
or a body cut short answers 400, and a value of the wrong shape 422. -/
def json (req : ApiRequest) (read : String → Except Json.ReadError α) : Except ApiResponse α :=
  if !req.hasJsonBody then
    .error (ApiResponse.rejection 415 "Expected request with `Content-Type: application/json`")
  else match read req.body with
    | .ok v => .ok v
    | .error e =>
      if e.code.kind == .data then
        .error (ApiResponse.rejection 422
          ("Failed to deserialize the JSON body into the target type: " ++ e.messageWithPath))
      else
        .error (ApiResponse.rejection 400 ("Failed to parse the request body as JSON: " ++ e.messageWithPath))

end ApiRequest

end Proximity
