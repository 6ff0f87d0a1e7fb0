import Proximity.Http.Client

/-!
# Media types

A `Content-Type` value names a media type `type/subtype`, the subtype perhaps with a
structured-syntax suffix (`application/problem+json`), and then parameters, each after a
`;`: a name, `=`, and a token or a quoted string. Blanks may stand only before a
parameter's name and after a quoted value.

`isJson` says whether a value names JSON: it must read as a media type, its type must be
`application`, and its subtype or its suffix `json`, letters compared without case. A value
with a character outside visible ASCII (a tab apart) names nothing.
-/

namespace Proximity.Http

namespace MediaType

/-- Where the reading of parameters stands. -/
inductive ParamState where
  /-- before a parameter's name, where blanks may stand -/
  | nameStart
  /-- inside a name -/
  | name
  /-- just after `=` -/
  | valueStart
  /-- inside a token value -/
  | value
  /-- just after an opening quote -/
  | quoteStart
  /-- inside a quoted value -/
  | quoted
  /-- after a closing quote, where blanks may stand -/
  | afterQuote
  deriving DecidableEq, Repr

/-- Whether a character may stand inside a quoted value. -/
def isQuotedChar (c : Char) : Bool := c.toNat > 31 && c.toNat != 127

/-- Whether the parameters after a `;` read, from a state. A quote right after an opening
quote is taken as content, so an empty quoted value runs on to the next quote. -/
def paramsRead : ParamState → List Char → Bool
  | .nameStart, [] => true
  | .nameStart, c :: rest =>
    if c == ' ' then paramsRead .nameStart rest
    else isTokenChar c && paramsRead .name rest
  | .name, [] => false
  | .name, c :: rest =>
    if c == '=' then paramsRead .valueStart rest
    else isTokenChar c && paramsRead .name rest
  | .valueStart, [] => true
  | .valueStart, c :: rest =>
    if c == '"' then paramsRead .quoteStart rest
    else isTokenChar c && paramsRead .value rest
  | .value, [] => true
  | .value, c :: rest =>
    if c == ';' then paramsRead .nameStart rest
    else isTokenChar c && paramsRead .value rest
  | .quoteStart, [] => false
  | .quoteStart, c :: rest => isQuotedChar c && paramsRead .quoted rest
  | .quoted, [] => false
  | .quoted, c :: rest =>
    if c == '"' then paramsRead .afterQuote rest
    else isQuotedChar c && paramsRead .quoted rest
  | .afterQuote, [] => true
  | .afterQuote, c :: rest =>
    if c == ';' then paramsRead .nameStart rest
    else c == ' ' && paramsRead .afterQuote rest

/-- A subtype split at its last `+` (one that does not open it): the subtype proper and
the suffix, if there is one. -/
def splitSuffix (body : List Char) : List Char × Option (List Char) :=
  match body with
  | [] => ([], none)
  | _ :: tail =>
    if tail.contains '+' then
      let suffix := (tail.reverse.takeWhile (· != '+')).reverse
      (body.take (body.length - suffix.length - 1), some suffix)
    else (body, none)

/-- The type, subtype and suffix a value names, in lower case, when it reads as a media
type. -/
def parts (value : String) : Option (String × String × Option String) :=
  let cs := value.toList
  let visible := cs.all fun c => (32 ≤ c.toNat && c.toNat < 127) || c == '\t'
  if !visible then none
  else if value == "*/*" then some ("*", "*", none)
  else
    let top := cs.takeWhile isTokenChar
    match cs.drop top.length with
    | '/' :: sub =>
      if top.isEmpty then none
      else
        let body := sub.takeWhile isTokenChar
        let restOk := match sub.drop body.length with
          | [] => true
          | ';' :: params => !body.isEmpty && paramsRead .nameStart params
          | _ => false
        if !restOk then none
        else
          let lower (xs : List Char) : String := String.ofList (xs.map Char.toLower)
          let (subtype, suffix) := splitSuffix body
          some (lower top, lower subtype, suffix.map lower)
    | _ => none

/-- Whether a `Content-Type` value names JSON. -/
def isJson (value : String) : Bool :=
  match parts value with
  | some (top, subtype, suffix) => top == "application" && (subtype == "json" || suffix == some "json")
  | none => false

end MediaType

end Proximity.Http
