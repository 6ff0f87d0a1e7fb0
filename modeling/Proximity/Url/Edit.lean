import Proximity.Url.Basic

/-!
# Adding to a URL

Segments are added to the end of a URL's path, and name–value pairs to its query, the
way a client builds a request URL from a base URL:

* `popIfEmpty` drops a trailing empty segment (the one a trailing slash leaves), unless
  it is the only segment;
* `pushSegment` adds one segment, percent-encoding every character the path set, a slash
  or a percent sign would be read as syntax (and the backslash in special URLs); the
  segments `.` and `..` are not added at all, tabs and newlines are dropped, and a
  segment that is `.` or `..` only without them acts as a dot segment of a path;
* `appendPair` adds `name=value` to the query, after an `&` when the query is not empty,
  both written in the `application/x-www-form-urlencoded` form.
-/

namespace Proximity

namespace Url

/-- The set for a segment added to a special URL: the backslash too. -/
def inSpecialPathSegment (c : Char) : Bool := inPathSegment c || c == '\\'

/-- Drops the last segment when it is empty and not the only one. -/
def popIfEmpty (ss : List String) : List String :=
  if ss.length ≥ 2 && ss.getLast? == some "" then ss.dropLast else ss

/-- Adds one segment to segments; a path that is a lone empty segment is replaced. A
segment that is exactly `.` or `..` is not added. Tabs and newlines in the segment are
dropped first, and what is left is then read as path text: `.` adds an empty segment and
`..` empties the last one. -/
def pushSegment (special : Bool) (ss : List String) (seg : String) : List String :=
  if seg == "." || seg == ".." then ss
  else
    let cs := seg.toList.filter fun c => c != '\t' && c != '\n' && c != '\r'
    if cs == ['.', '.'] then ss.dropLast ++ [""]
    else
      let enc := if cs == ['.'] then ""
        else encodeAll (if special then inSpecialPathSegment else inPathSegment) cs
      if ss == [""] then [enc] else ss ++ [enc]

/-- A text in the `application/x-www-form-urlencoded` form: ASCII letters, digits and
`*-._` stay, a space becomes `+`, every other byte is percent-encoded. -/
def formEncode (s : String) : String :=
  String.join (s.toList.map fun c =>
    if c.toNat < 0x80 && (c.isAlphanum || c ∈ ['*', '-', '.', '_']) then String.singleton c
    else if c == ' ' then "+"
    else String.join ((String.singleton c).toUTF8.toList.map fun b => percentByte b.toNat))

/-- The URL with segments added to its path; none when its path is opaque. -/
def withSegments (u : Url) (segs : List String) : Option Url :=
  match u.path with
  | .flat _ => none
  | .segments ss =>
    let special := isSpecialScheme u.scheme
    some { u with path := .segments (segs.foldl (pushSegment special) (popIfEmpty ss)) }

/-- The URL with a pair added to its query. -/
def appendPair (u : Url) (name value : String) : Url :=
  let pair := formEncode name ++ "=" ++ formEncode value
  match u.query with
  | none | some "" => { u with query := some pair }
  | some q => { u with query := some (q ++ "&" ++ pair) }

end Url

end Proximity
