import Proximity.Text.Ascii
import Proximity.Url.Idna

/-!
# URLs

Absolute URLs as the WHATWG URL Standard reads and writes them.

A URL has a scheme, an optional authority (user name, password, host, port), a path,
and optional query and fragment. The schemes `http`, `https`, `ws`, `wss`, `ftp` and
`file` are *special*: their host is a domain (made ASCII as `Idna.toAscii` says), an
IPv4 address or a bracketed IPv6 address, and their path always
has at least one segment. Other schemes keep an opaque host, and a URL of another scheme
whose text after the colon does not start with `/` has an opaque path (it "cannot be a
base").

Reading percent-encodes what each component may not hold (`Url.encodeWith` and the sets
below), drops `.` segments and resolves `..` segments. A port equal to the scheme's default
is dropped.

Only what a reader without a base URL needs is here: a text without a scheme is an error
(`relative URL without a base`).
-/

namespace Proximity

/-- Why a text is not a URL. -/
inductive UrlError where
  | emptyHost
  | idna
  | invalidPort
  | invalidIpv4Address
  | invalidIpv6Address
  | invalidDomainCharacter
  | relativeUrlWithoutBase
  deriving DecidableEq, Repr

/-- The text of a URL error. -/
def UrlError.message : UrlError → String
  | .emptyHost => "empty host"
  | .idna => "invalid international domain name"
  | .invalidPort => "invalid port number"
  | .invalidIpv4Address => "invalid IPv4 address"
  | .invalidIpv6Address => "invalid IPv6 address"
  | .invalidDomainCharacter => "invalid domain character"
  | .relativeUrlWithoutBase => "relative URL without a base"

/-- The host of a URL. -/
inductive Host where
  /-- a domain, or for other schemes an opaque host; it may be empty -/
  | domain (name : String)
  | ipv4 (address : Nat)
  /-- eight 16-bit pieces -/
  | ipv6 (pieces : List Nat)
  deriving DecidableEq, Repr

/-- The path of a URL: an opaque text, or segments each written after a slash. -/
inductive UrlPath where
  | flat (text : String)
  | segments (items : List String)
  deriving DecidableEq, Repr

/-- The authority of a URL. -/
structure Authority where
  username : String := ""
  password : String := ""
  host : Host
  port : Option Nat := none
  deriving DecidableEq, Repr

/-- An absolute URL, with every component already percent-encoded. -/
structure Url where
  scheme : String
  authority : Option Authority
  path : UrlPath
  query : Option String := none
  fragment : Option String := none
  deriving DecidableEq, Repr

namespace Url

/-! ## Percent-encoding -/

/-- A byte as `%XX` with upper-case digits. -/
def percentByte (b : Nat) : String :=
  let d (n : Nat) : Char := "0123456789ABCDEF".toList.getD n '0'
  String.ofList ['%', d (b / 16), d (b % 16)]

/-- A character percent-encoded when it is not ASCII or when `inSet` holds for it. -/
def encodeWith (inSet : Char → Bool) (c : Char) : String :=
  if c.toNat < 0x80 && !inSet c then String.singleton c
  else if c.toNat < 0x80 then percentByte c.toNat
  else String.join ((String.singleton c).toUTF8.toList.map fun b => percentByte b.toNat)

/-- Characters encoded everywhere: the C0 controls and DEL. -/
def inControls (c : Char) : Bool := c.toNat < 0x20 || c.toNat == 0x7F

/-- The fragment set. -/
def inFragment (c : Char) : Bool := inControls c || c ∈ [' ', '"', '<', '>', '`']

/-- The query set. -/
def inQuery (c : Char) : Bool := inControls c || c ∈ [' ', '"', '#', '<', '>']

/-- The query set of special URLs, which adds the apostrophe. -/
def inSpecialQuery (c : Char) : Bool := inQuery c || c == '\''

/-- The path set. -/
def inPath (c : Char) : Bool := inFragment c || c ∈ ['#', '?', '{', '}']

/-- The user-information set. -/
def inUserinfo (c : Char) : Bool :=
  inPath c || c ∈ ['/', ':', ';', '=', '@', '[', '\\', ']', '^', '|']

/-- The set for one path segment added to a URL: slashes and percent signs too. -/
def inPathSegment (c : Char) : Bool := inPath c || c == '/' || c == '%'

/-- Encodes every character of a text. -/
def encodeAll (inSet : Char → Bool) (cs : List Char) : String :=
  String.join (cs.map (encodeWith inSet))

/-! ## Schemes -/

/-- Whether a scheme is special. -/
def isSpecialScheme (s : String) : Bool := s ∈ ["http", "https", "ws", "wss", "ftp", "file"]

/-- The default port of a scheme. -/
def defaultPort : String → Option Nat
  | "http" | "ws" => some 80
  | "https" | "wss" => some 443
  | "ftp" => some 21
  | _ => none

/-- The text with C0 controls and spaces dropped at both ends, and tabs and newlines
dropped everywhere. -/
def prefilter (s : String) : List Char :=
  let edge (c : Char) : Bool := c.toNat ≤ 0x20
  let cs := ((s.toList.dropWhile edge).reverse.dropWhile edge).reverse
  cs.filter fun c => c != '\t' && c != '\n' && c != '\r'

/-- Reads a scheme: an ASCII letter, then letters, digits, `+`, `-` and `.`, then a colon.
Gives the scheme in lower case and the rest. -/
def scheme? (cs : List Char) : Option (String × List Char) :=
  match cs with
  | c :: _ =>
    if !c.isAlpha then none
    else
      let body := cs.takeWhile fun c => c.isAlphanum || c == '+' || c == '-' || c == '.'
      match cs.drop body.length with
      | ':' :: rest => some (String.ofList (body.map Char.toLower), rest)
      | _ => none
  | [] => none

/-! ## Hosts -/

/-- Reads a number of an IPv4 address: decimal, octal after a leading `0`, or hexadecimal
after `0x`. `none` when it is not a number. -/
def ipv4Number (cs : List Char) : Option Nat :=
  let digitsIn (radix : Nat) (ds : List Char) : Option Nat :=
    ds.foldl (fun acc d => match acc with
      | none => none
      | some n =>
        let v := if d.isDigit then d.toNat - 48
          else if 'a' ≤ d && d ≤ 'f' then d.toNat - 87
          else if 'A' ≤ d && d ≤ 'F' then d.toNat - 55 else 99
        if v < radix then some (n * radix + v) else none) (some 0)
  match cs with
  | [] => none
  | '0' :: 'x' :: rest | '0' :: 'X' :: rest => digitsIn 16 rest
  | '0' :: d :: rest => digitsIn 8 (d :: rest)
  | _ => digitsIn 10 cs

/-- Whether a domain ends in a number, which makes it an IPv4 address. -/
def endsInNumber (cs : List Char) : Bool :=
  let parts := (cs.splitOn '.').reverse
  let last := match parts with
    | [] :: p :: _ => some p
    | [] :: [] => none
    | p :: _ => some p
    | [] => none
  match last with
  | none => false
  | some p => (!p.isEmpty && p.all Char.isDigit) || (ipv4Number p).isSome

/-- Reads an IPv4 address of one to four numbers. -/
def parseIpv4 (cs : List Char) : Except UrlError Nat := do
  let parts0 := cs.splitOn '.'
  let parts := if parts0.getLast? == some [] then parts0.dropLast else parts0
  if parts.length > 4 || parts.isEmpty then throw .invalidIpv4Address
  let numbers ← parts.mapM fun p =>
    match ipv4Number p with
    | some n => if n < Nat.pow 2 32 then pure n else throw .invalidIpv4Address
    | none => throw .invalidIpv4Address
  let init := numbers.dropLast
  let last := numbers.getLastD 0
  if last ≥ Nat.pow 256 (5 - numbers.length) then throw .invalidIpv4Address
  if init.any (· > 255) then throw .invalidIpv4Address
  pure ((init.zipIdx.map fun (n, i) => n * Nat.pow 256 (3 - i)).foldl (· + ·) last)

/-- The value of a hexadecimal digit. -/
def hexValue (c : Char) : Option Nat :=
  if c.isDigit then some (c.toNat - 48)
  else if 'a' ≤ c && c ≤ 'f' then some (c.toNat - 87)
  else if 'A' ≤ c && c ≤ 'F' then some (c.toNat - 55)
  else none

/-- Reads up to four hexadecimal digits; gives their value and the rest. -/
def hexPiece (cs : List Char) : Nat × List Char × Nat :=
  let ds := (cs.take 4).takeWhile fun c => (hexValue c).isSome
  (ds.foldl (fun n d => n * 16 + (hexValue d).getD 0) 0, cs.drop ds.length, ds.length)

/-- Reads the dotted IPv4 tail of an IPv6 address into two pieces. -/
def ipv4Tail (cs : List Char) : Except UrlError (List Nat) := do
  let parts := cs.splitOn '.'
  if parts.length != 4 then throw .invalidIpv6Address
  let nums ← parts.mapM fun p =>
    if p.isEmpty || !p.all Char.isDigit || (p.length > 1 && p.head? == some '0') then
      throw .invalidIpv6Address
    else
      let n := p.foldl (fun n d => n * 10 + (d.toNat - 48)) 0
      if n > 255 then throw .invalidIpv6Address else pure n
  match nums with
  | [a, b, c, d] => pure [a * 256 + b, c * 256 + d]
  | _ => throw .invalidIpv6Address

/-- Reads the pieces of an IPv6 address, given as the text between the brackets. The
pieces before and after a `::` are read apart and the gap filled with zeros. -/
def parseIpv6 (cs : List Char) : Except UrlError (List Nat) := do
  if cs.length < 2 then throw .invalidIpv6Address
  -- the groups, separated by single colons, on each side of a double colon
  let readGroups (text : List Char) : Except UrlError (List Nat) := do
    if text.isEmpty then return []
    let groups := text.splitOn ':'
    let n := groups.length
    let mut out : List Nat := []
    let mut i := 0
    for g in groups do
      if i + 1 == n && g.contains '.' then
        out := out ++ (← ipv4Tail g)
      else
        let (v, rest, len) := hexPiece g
        if len == 0 || !rest.isEmpty then throw .invalidIpv6Address
        out := out ++ [v]
      i := i + 1
    return out
  let halves := splitDouble cs
  match halves with
  | none =>
    let ps ← readGroups cs
    if ps.length != 8 then throw .invalidIpv6Address
    pure ps
  | some (before, after) =>
    if before.contains '.' then throw .invalidIpv6Address
    let ps ← readGroups before
    let qs ← readGroups after
    if ps.length + qs.length > 7 then throw .invalidIpv6Address
    pure (ps ++ List.replicate (8 - ps.length - qs.length) 0 ++ qs)
where
  /-- Splits at the first `::`; fails on a second one. -/
  splitDouble (cs : List Char) : Option (List Char × List Char) :=
    let rec go (acc : List Char) : List Char → Option (List Char × List Char)
      | ':' :: ':' :: rest => some (acc.reverse, rest)
      | c :: rest => go (c :: acc) rest
      | [] => none
    go [] cs

/-- Where the longest run of at least two zero pieces starts and ends. -/
def longestZeros (ps : List Nat) : Option (Nat × Nat) :=
  let step (acc : Option (Nat × Nat) × Option Nat) (p : Nat × Nat) :=
    let (best, start) := acc
    let (v, i) := p
    if v == 0 then (best, some (start.getD i))
    else
      match start with
      | some s =>
        let better := match best with
          | some (bs, be) => if i - s > be - bs then some (s, i) else best
          | none => some (s, i)
        (better, none)
      | none => (best, none)
  let (best, start) := (ps.zipIdx).foldl step (none, none)
  let best := match start with
    | some s => match best with
      | some (bs, be) => if 8 - s > be - bs then some (s, 8) else best
      | none => some (s, 8)
    | none => best
  match best with
  | some (s, e) => if e - s ≥ 2 then some (s, e) else none
  | none => none

/-- The text of an IPv6 address: lower-case hexadecimal pieces, the longest run of two
or more zero pieces written as `::`. -/
def ipv6Text (ps : List Nat) : String :=
  let hex (n : Nat) : String := String.ofList (Nat.toDigits 16 n)
  match longestZeros ps with
  | none => ":".intercalate (ps.map hex)
  | some (s, e) =>
    ":".intercalate ((ps.take s).map hex) ++ "::" ++ ":".intercalate ((ps.drop e).map hex)

/-- The text of an IPv4 address. -/
def ipv4Text (a : Nat) : String :=
  ".".intercalate ([24, 16, 8, 0].map fun k => toString (a / Nat.pow 2 k % 256))

/-- The text of a host. -/
def hostText : Host → String
  | .domain n => n
  | .ipv4 a => ipv4Text a
  | .ipv6 ps => "[" ++ ipv6Text ps ++ "]"

/-- Decodes `%XX` escapes into bytes; a `%` not followed by two hexadecimal digits stays. -/
def percentDecode : List Char → List UInt8
  | '%' :: a :: b :: rest =>
    match hexValue a, hexValue b with
    | some x, some y => (x * 16 + y).toUInt8 :: percentDecode rest
    | _, _ => 37 :: percentDecode (a :: b :: rest)
  | c :: rest => (String.singleton c).toUTF8.toList ++ percentDecode rest
  | [] => []

/-- The ASCII form of a domain (see `Idna.toAscii`). -/
def domainToAscii (cs : List Char) : Except UrlError String :=
  match Idna.toAscii cs with
  | some s => .ok s
  | none => .error .idna

/-- Reads the host of a special URL. -/
def parseSpecialHost (cs : List Char) : Except UrlError Host := do
  if cs.head? == some '[' then
    if cs.getLast? != some ']' then throw .invalidIpv6Address
    return .ipv6 (← parseIpv6 ((cs.drop 1).dropLast))
  let text := match String.fromUTF8? (ByteArray.mk (percentDecode cs).toArray) with
    | some t => t.toList
    | none => ['�']
  let domain ← domainToAscii text
  if domain.isEmpty then throw .emptyHost
  if endsInNumber domain.toList then return .ipv4 (← parseIpv4 domain.toList)
  pure (.domain domain)

/-- Reads the host of a URL of another scheme: kept as written, controls and non-ASCII
characters percent-encoded. -/
def parsePlainHost (cs : List Char) : Except UrlError Host := do
  if cs.head? == some '[' then
    if cs.getLast? != some ']' then throw .invalidIpv6Address
    return .ipv6 (← parseIpv6 ((cs.drop 1).dropLast))
  if cs.any (fun c => c ∈ ['\x00', '\t', '\n', '\r', ' ', '#', '/', ':', '<', '>', '?', '@', '[', '\\', ']', '^', '|']) then
    throw .invalidDomainCharacter
  pure (.domain (encodeAll inControls cs))

/-! ## Paths -/

/-- Whether an encoded segment is `.`. -/
def isSingleDot (s : String) : Bool := s == "." || s.toLower == "%2e"

/-- Whether an encoded segment is `..`. -/
def isDoubleDot (s : String) : Bool :=
  let l := s.toLower
  l == ".." || l == ".%2e" || l == "%2e." || l == "%2e%2e"

/-- Splits a path text into raw segments at slashes (and backslashes in special URLs),
up to a `?` or `#`; gives the segments and the rest. -/
def splitPath (special : Bool) (cs : List Char) : List (List Char) × List Char :=
  let stop := cs.findIdx fun c => c == '?' || c == '#'
  let body := cs.take stop
  let sep (c : Char) : Bool := c == '/' || (special && c == '\\')
  let rec pieces (acc : List Char) : List Char → List (List Char)
    | [] => [acc.reverse]
    | c :: rest => if sep c then acc.reverse :: pieces [] rest else pieces (c :: acc) rest
  (pieces [] body, cs.drop stop)

/-- Adds the segments of a path to a path, resolving `.` and `..`: a dot segment that
ends the path leaves an empty last segment. -/
def addSegments (path : List String) : List String → List String
  | [] => path
  | [s] =>
    if isDoubleDot s then path.dropLast ++ [""]
    else if isSingleDot s then path ++ [""]
    else path ++ [s]
  | s :: rest =>
    if isDoubleDot s then addSegments path.dropLast rest
    else if isSingleDot s then addSegments path rest
    else addSegments (path ++ [s]) rest

/-- Reads a path (after its leading slash) into segments; gives the rest. -/
def parsePath (special : Bool) (cs : List Char) : List String × List Char :=
  let (raw, rest) := splitPath special cs
  (addSegments [] (raw.map (encodeAll inPath)), rest)

/-! ## Query and fragment -/

/-- Reads the query and fragment after the path. -/
def queryAndFragment (special : Bool) (cs : List Char) : Option String × Option String :=
  match cs with
  | '?' :: rest =>
    let stop := rest.findIdx (· == '#')
    let q := encodeAll (if special then inSpecialQuery else inQuery) (rest.take stop)
    match rest.drop stop with
    | '#' :: f => (some q, some (encodeAll inFragment f))
    | _ => (some q, none)
  | '#' :: f => (none, some (encodeAll inFragment f))
  | _ => (none, none)

/-! ## Reading a URL -/

/-- Reads the port after a colon: digits up to a slash, backslash, `?` or `#`. -/
def parsePort (scheme : String) (cs : List Char) : Except UrlError (Option Nat × List Char) := do
  let ds := cs.takeWhile Char.isDigit
  let rest := cs.drop ds.length
  match rest with
  | c :: _ => if !(c ∈ ['/', '\\', '?', '#']) then throw .invalidPort
  | [] => pure ()
  let value := ds.foldl (fun (n : Nat) d => min 65536 (n * 10 + (d.toNat - 48))) 0
  if value > 65535 then throw .invalidPort
  if ds.isEmpty || defaultPort scheme == some value then return (none, rest)
  pure (some value, rest)

/-- Splits off the user information before the last `@` of the authority. -/
def splitUserinfo (special : Bool) (cs : List Char) :
    Except UrlError (Option (List Char) × List Char) := do
  let stopAt (c : Char) : Bool := c == '/' || c == '?' || c == '#' || (special && c == '\\')
  let auth := cs.take (cs.findIdx stopAt)
  match auth.reverse.findIdx? (· == '@') with
  | none => pure (none, cs)
  | some k =>
    let at_ := auth.length - 1 - k
    let rest := cs.drop (at_ + 1)
    if at_ == 0 then
      match rest with
      | c :: _ => if stopAt c then throw .emptyHost
      | [] => pure ()
      pure (none, rest)
    else pure (some (cs.take at_), rest)

/-- Splits the host text off the authority: up to a colon outside brackets, a slash,
`?`, `#`, or a backslash in special URLs. -/
def splitHost (special : Bool) (cs : List Char) : List Char × List Char :=
  let rec go (inside : Bool) (acc : List Char) : List Char → List Char × List Char
    | [] => (acc.reverse, [])
    | c :: rest =>
      if (c == ':' && !inside) || c == '/' || c == '?' || c == '#' || (special && c == '\\') then
        (acc.reverse, c :: rest)
      else go (if c == '[' then true else if c == ']' then false else inside) (c :: acc) rest
  go false [] cs

/-- The user name and password of user information. -/
def userAndPassword (info : List Char) : String × String :=
  match info.findIdx? (· == ':') with
  | none => (encodeAll inUserinfo info, "")
  | some i => (encodeAll inUserinfo (info.take i), encodeAll inUserinfo (info.drop (i + 1)))

/-- Reads the path of a special URL after its authority. -/
def specialPath (cs : List Char) : List String × List Char :=
  match cs with
  | '/' :: rest | '\\' :: rest => parsePath true rest
  | _ => parsePath true cs

/-- Reads what follows `//` in a URL with an authority. -/
def afterDoubleSlash (scheme : String) (cs : List Char) : Except UrlError Url := do
  let special := isSpecialScheme scheme
  let (info, rest) ← splitUserinfo special cs
  let (username, password) := match info with
    | some i => userAndPassword i
    | none => ("", "")
  let hasAuthority := username != "" || password != ""
  let (hostText, rest) := splitHost special rest
  if special && hostText.isEmpty then throw .emptyHost
  let host ← if special then parseSpecialHost hostText else parsePlainHost hostText
  if host == .domain "" && rest.head? == some ':' then throw .emptyHost
  let (port, rest) ← match rest with
    | ':' :: r => parsePort scheme r
    | r => pure (none, r)
  if host == .domain "" && hasAuthority then throw .emptyHost
  let (path, rest) := if special then specialPath rest
    else match rest with
      | '/' :: r => parsePath false r
      | r => if r.head? == some '?' || r.head? == some '#' || r.isEmpty then ([], r)
        else parsePath false r
  let (query, fragment) := queryAndFragment special rest
  pure { scheme, authority := some { username, password, host, port }, path := .segments path,
         query, fragment }

/-- Drops the empty segments that lead a file path, keeping one segment. -/
def trimFileSegments : List String → List String
  | "" :: s :: rest => trimFileSegments (s :: rest)
  | ss => ss

/-- Reads what follows `file:`. -/
def parseFile (cs : List Char) : Except UrlError Url := do
  let slash (c : Char) : Bool := c == '/' || c == '\\'
  match cs with
  | a :: b :: rest =>
    if slash a && slash b then
      let stop := rest.findIdx fun c => slash c || c == '?' || c == '#'
      let hostText := rest.take stop
      let rest := rest.drop stop
      let host ← if hostText.isEmpty then pure (Host.domain "") else parseSpecialHost hostText
      let host := if host == .domain "localhost" then .domain "" else host
      let (path, rest) := specialPath rest
      let (query, fragment) := queryAndFragment true rest
      return { scheme := "file", authority := some { host }, path := .segments (trimFileSegments path),
               query, fragment }
    else fileNoHost cs
  | _ => fileNoHost cs
where
  fileNoHost (cs : List Char) : Except UrlError Url :=
    let (path, rest) := specialPath cs
    let (query, fragment) := queryAndFragment true rest
    pure { scheme := "file", authority := some { host := .domain "" },
           path := .segments (trimFileSegments path), query, fragment }

/-- Reads an absolute URL. -/
def parse (s : String) : Except UrlError Url :=
  let cs := prefilter s
  match scheme? cs with
  | none => .error .relativeUrlWithoutBase
  | some (scheme, rest) =>
    if scheme == "file" then parseFile rest
    else if isSpecialScheme scheme then
      afterDoubleSlash scheme (rest.dropWhile fun c => c == '/' || c == '\\')
    else
      match rest with
      | '/' :: '/' :: r => afterDoubleSlash scheme r
      | '/' :: r =>
        let (path, rest) := parsePath false r
        let (query, fragment) := queryAndFragment false rest
        .ok { scheme, authority := none, path := .segments path, query, fragment }
      | r =>
        let stop := r.findIdx fun c => c == '?' || c == '#'
        let (query, fragment) := queryAndFragment false (r.drop stop)
        .ok { scheme, authority := none, path := .flat (encodeAll inControls (r.take stop)),
              query, fragment }

/-! ## Writing a URL -/

/-- The text of a path. -/
def pathText : UrlPath → String
  | .flat t => t
  | .segments ss => String.join (ss.map ("/" ++ ·))

/-- The text of a URL. -/
def toString (u : Url) : String :=
  let auth := match u.authority with
    | none => ""
    | some a =>
      let info :=
        if a.username == "" && a.password == "" then ""
        else a.username ++ (if a.password == "" then "" else ":" ++ a.password) ++ "@"
      let port := match a.port with
        | some p => s!":{p}"
        | none => ""
      "//" ++ info ++ hostText a.host ++ port
  let query := match u.query with
    | some q => "?" ++ q
    | none => ""
  let fragment := match u.fragment with
    | some f => "#" ++ f
    | none => ""
  u.scheme ++ ":" ++ auth ++ pathText u.path ++ query ++ fragment

/-- Whether the URL has an opaque path, so that no segment can be added to it. -/
def cannotBeABase (u : Url) : Bool :=
  match u.path with
  | .flat _ => true
  | .segments _ => false

end Url

end Proximity
