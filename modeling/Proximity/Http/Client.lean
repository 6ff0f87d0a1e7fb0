import Proximity.Http.Message
import Proximity.Url.Basic

/-!
# Sending requests

Before a request goes out it is checked, in this order: its URL must parse, its method
must be an HTTP token, every header name must be a token and every header value may hold
only visible ASCII, blanks, tabs and bytes from `0x80` up, and the URL's scheme must be
`http` or `https`. The first check that fails decides the error.

A request that passes is handed to a connection, which gives the response or a transport
failure. `offline` is the connection of a host that reaches no server at all: every
request fails with `error sending request for url (<url>)`.
-/

namespace Proximity.Http

/-- Whether a character may stand in an HTTP token (a method or a header name). -/
def isTokenChar (c : Char) : Bool :=
  (c.toNat < 128 && c.isAlphanum) || "!#$%&'*+-.^_`|~".contains c

/-- Whether a text is an HTTP token. -/
def isToken (s : String) : Bool := !s.isEmpty && s.all isTokenChar

/-- Whether a text may be a header value: every byte visible ASCII, a blank, a tab, or
from `0x80` up. -/
def isHeaderValue (s : String) : Bool :=
  s.all fun c => (c.toNat ≥ 32 && c.toNat != 127) || c == '\t'

/-- A connection: gives the response to a checked request for a parsed URL. -/
abbrev Connection := Url → Request → Except TransportError Response

/-- The connection of a host that reaches no server. -/
def offline : Connection := fun u _ =>
  .error (.transport ("error sending request for url (" ++ u.toString ++ ")"))

/-- Checks a request and sends it over a connection. -/
def execute (send : Connection) (r : Request) : Except TransportError Response := do
  let u ← match Url.parse r.url with
    | .ok u => pure u
    | .error e => throw (.invalidUrl r.url e.message)
  if !isToken r.method then throw (.invalidMethod r.method)
  if r.headers.entries.any (fun h => !isToken h.1 || !isHeaderValue h.2) then
    throw (.transport "builder error")
  if u.scheme != "http" && u.scheme != "https" then
    throw (.transport ("builder error for url (" ++ u.toString ++ ")"))
  send u r

end Proximity.Http
