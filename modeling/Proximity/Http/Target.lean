import Proximity.Http.Client

/-!
# Request targets

A server reads the target of a request in one of four forms: a path with an optional
query (`/a/b?x=1`), an absolute URI (`http://host/a?x=1`) whose path is the one routed, an
authority alone (`host:80`, which has no path), or `*`. A fragment is cut off.

Each part allows only some characters. A path may hold the visible ASCII characters but
`#`, `<`, `>`, `?` and the backquote, and any character past ASCII; a query the same but
`"`, `#`, `<` and `>`; an authority only the unreserved ASCII characters, the
sub-delimiters, `:`, `@` and brackets. Any other character, a space or a control character
among them, makes the target invalid.
`Target.parse` says why in the words an HTTP library uses.
-/

namespace Proximity.Http

/-- Why a request target does not read. -/
inductive TargetError where
  | empty
  | invalidChar
  | invalidFormat
  | invalidAuthority
  | schemeTooLong
  | tooLong
  deriving DecidableEq, Repr

/-- The text of a target error. -/
def TargetError.message : TargetError → String
  | .empty => "empty string"
  | .invalidChar => "invalid uri character"
  | .invalidFormat => "invalid format"
  | .invalidAuthority => "invalid authority"
  | .schemeTooLong => "scheme too long"
  | .tooLong => "uri too long"

/-- A request target as routing sees it: the path, empty when the target has none, and
the query, if there is one. -/
structure Target where
  path : String
  query : Option String := none
  deriving DecidableEq, Repr

namespace Target

/-- Whether a character may stand in a path as it is: visible ASCII but `#`, `<`, `>`,
`?` and the backquote (`"` and braces are let through, as clients send them), and every
character from `DEL` up. -/
def isPathChar (c : Char) : Bool :=
  let n := c.toNat
  n == 0x21 || n == 0x22 || (0x24 ≤ n && n ≤ 0x3B) || n == 0x3D || (0x40 ≤ n && n ≤ 0x5F) ||
    0x61 ≤ n

/-- Whether a character may stand in a query as it is: visible ASCII but `"`, `#`, `<`
and `>`, and every character from `DEL` up. -/
def isQueryChar (c : Char) : Bool :=
  let n := c.toNat
  n == 0x21 || (0x24 ≤ n && n ≤ 0x3B) || n == 0x3D || 0x3F ≤ n

/-- Reads a path, then a query after `?`; a fragment after `#` is dropped unread. -/
def pathAndQuery (cs : List Char) : Except TargetError Target :=
  let path := cs.takeWhile fun c => c != '?' && c != '#'
  if !path.all isPathChar then .error .invalidChar
  else match cs.drop path.length with
    | '?' :: rest =>
      let query := rest.takeWhile (· != '#')
      if query.all isQueryChar then .ok ⟨String.ofList path, some (String.ofList query)⟩
      else .error .invalidChar
    | _ => .ok ⟨String.ofList path, none⟩

/-- Whether a character may stand in an authority (`%` apart, which has rules of its
own). -/
def isAuthorityChar (c : Char) : Bool :=
  (c.toNat < 128 && c.isAlphanum) || "!$&'()*+,-.:;=@[]_~".contains c

/-- What the scan of an authority has seen so far. -/
structure AuthorityScan where
  colons : Nat := 0
  opened : Bool := false
  closed : Bool := false
  percent : Bool := false
  lastAt : Option Nat := none

/-- Scans an authority up to `/`, `?`, `#` or the end: where it ends and what it held. A
colon, a bracket or a `%` may make it invalid at once; an `@` or a closing bracket forgets
the colons and `%` signs before it, which belonged to the user information or an IPv6
address. -/
def scanAuthority (i : Nat) (s : AuthorityScan) : List Char → Except TargetError (Nat × AuthorityScan)
  | [] => .ok (i, s)
  | c :: rest =>
    if c == '/' || c == '?' || c == '#' then .ok (i, s)
    else if c == ':' then
      if s.colons ≥ 8 then .error .invalidAuthority
      else scanAuthority (i + 1) { s with colons := s.colons + 1 } rest
    else if c == '[' then
      if s.percent || s.opened then .error .invalidAuthority
      else scanAuthority (i + 1) { s with opened := true } rest
    else if c == ']' then
      if !s.opened || s.closed then .error .invalidAuthority
      else scanAuthority (i + 1) { s with closed := true, colons := 0, percent := false } rest
    else if c == '@' then
      scanAuthority (i + 1) { s with lastAt := some i, colons := 0, percent := false } rest
    else if c == '%' then scanAuthority (i + 1) { s with percent := true } rest
    else if isAuthorityChar c then scanAuthority (i + 1) s rest
    else .error .invalidChar

/-- Where the authority at the front ends: brackets must pair, at most one colon (the
port's) may stand outside them, an `@` may not end it, and a `%` must belong to the user
information. -/
def authorityEnd (cs : List Char) : Except TargetError Nat := do
  let (e, s) ← scanAuthority 0 {} cs
  if s.opened != s.closed then throw .invalidAuthority
  if s.colons > 1 then throw .invalidAuthority
  if e > 0 && s.lastAt == some (e - 1) then throw .invalidAuthority
  if s.percent then throw .invalidAuthority
  pure e

/-- Whether a character may stand in a scheme. -/
def isSchemeChar (c : Char) : Bool := (c.toNat < 128 && c.isAlphanum) || c == '+' || c == '-' || c == '.'

/-- The length of the scheme before the first colon, when the characters before it may
form a scheme and `//` follows it. -/
def schemeColon (i : Nat) : List Char → Option Nat
  | [] => none
  | c :: rest =>
    if c == ':' then (if rest.take 2 == ['/', '/'] then some i else none)
    else if isSchemeChar c then schemeColon (i + 1) rest
    else none

/-- How many characters the scheme and its `://` take at the front, if the target starts
with one: `http://` and `https://` in any case, or another scheme of at most 64
characters. -/
def schemeSpan (cs : List Char) : Except TargetError (Option Nat) :=
  let lower := cs.map Char.toLower
  if lower.take 7 == "http://".toList then .ok (some 7)
  else if lower.take 8 == "https://".toList then .ok (some 8)
  else if cs.length ≤ 3 then .ok none
  else match schemeColon 0 cs with
    | some n => if n > 64 then .error .schemeTooLong else .ok (some (n + 3))
    | none => .ok none

/-- Reads a request target. -/
def parse (s : String) : Except TargetError Target :=
  let cs := s.toList
  if s.utf8ByteSize > 65534 then .error .tooLong
  else match cs with
  | [] => .error .empty
  | ['/'] => .ok ⟨"/", none⟩
  | ['*'] => .ok ⟨"*", none⟩
  | [c] => do
    let e ← authorityEnd [c]
    if e != 1 then throw .invalidChar
    pure ⟨"", none⟩
  | '/' :: _ => pathAndQuery cs
  | _ => do
    match ← schemeSpan cs with
    | none =>
      let e ← authorityEnd cs
      if e != cs.length then throw .invalidFormat
      pure ⟨"", none⟩
    | some skip =>
      let rest := cs.drop skip
      let e ← authorityEnd rest
      if e == 0 then throw .invalidFormat
      let t ← pathAndQuery (rest.drop e)
      pure { t with path := if t.path.isEmpty then "/" else t.path }

end Target

end Proximity.Http
