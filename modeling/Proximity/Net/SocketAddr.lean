/-!
# Socket addresses

A socket address is written `a.b.c.d:port` or `[ipv6]:port`, with an optional
`%scope` before the closing bracket.

* IPv4 parts are decimal numbers up to 255 of at most three digits, without a leading zero
  (`0` itself is fine).
* IPv6 groups are up to four hexadecimal digits; `::` stands for one or more zero groups
  and may appear once; the last two groups may be written as an IPv4 address (not before
  `::`).
* Ports and scopes are decimal (leading zeros allowed), at most 65535 and 2^32 - 1.

Nothing may follow the port.
-/

namespace Proximity

/-- An IP address with a port. -/
inductive SocketAddr where
  | v4 (octets : List Nat) (port : Nat)
  | v6 (groups : List Nat) (scope : Nat) (port : Nat)
  deriving DecidableEq, Repr

namespace SocketAddr

/-- A number in a radix: at least one digit, at most `maxDigits` when given, below
`bound`; a leading zero only when `zeroPrefix` or when it is the only digit. -/
def number (radix bound : Nat) (maxDigits : Option Nat) (zeroPrefix : Bool)
    (cs : List Char) : Option (Nat × List Char) :=
  let digit? (c : Char) : Option Nat :=
    if c.isDigit then some (c.toNat - '0'.toNat)
    else if radix == 16 && 'a' ≤ c && c ≤ 'f' then some (c.toNat - 'a'.toNat + 10)
    else if radix == 16 && 'A' ≤ c && c ≤ 'F' then some (c.toNat - 'A'.toNat + 10)
    else none
  let ds := cs.takeWhile fun c => (digit? c).isSome
  let value := ds.foldl (fun n c => radix * n + (digit? c).getD 0) 0
  if ds.isEmpty then none
  else if (match maxDigits with | some m => decide (ds.length > m) | none => false) then none
  else if value ≥ bound then none
  else if !zeroPrefix && ds.head? == some '0' && ds.length > 1 then none
  else some (value, cs.drop ds.length)

/-- Four parts of an IPv4 address. -/
def ipv4 (cs : List Char) : Option (List Nat × List Char) := do
  let (a, r) ← number 10 256 (some 3) false cs
  let r ← match r with | '.' :: r => some r | _ => none
  let (b, r) ← number 10 256 (some 3) false r
  let r ← match r with | '.' :: r => some r | _ => none
  let (c, r) ← number 10 256 (some 3) false r
  let r ← match r with | '.' :: r => some r | _ => none
  let (d, r) ← number 10 256 (some 3) false r
  pure ([a, b, c, d], r)

/-- Up to `limit` colon-separated groups, the last two possibly an IPv4 address: the
groups, whether they ended in an IPv4 address, and the rest. -/
def groups : Nat → Nat → List Char → List Nat × Bool × List Char
  | 0, _, cs => ([], false, cs)
  | left + 1, i, cs =>
    let afterSep := if i > 0 then match cs with
        | ':' :: r => some r
        | _ => none
      else some cs
    let asIpv4 : Option (List Nat × List Char) :=
      if left ≥ 1 then afterSep.bind ipv4 else none
    match asIpv4 with
    | some ([a, b, c, d], r) => ([a * 256 + b, c * 256 + d], true, r)
    | _ =>
      match afterSep.bind (number 16 65536 (some 4) true) with
      | some (g, r) =>
        let (more, endsInIpv4, rest) := groups left (i + 1) r
        (g :: more, endsInIpv4, rest)
      | none => ([], false, cs)

/-- An IPv6 address: eight groups. -/
def ipv6 (cs : List Char) : Option (List Nat × List Char) :=
  let (head, headV4, r) := groups 8 0 cs
  if head.length == 8 then some (head, r)
  else if headV4 then none
  else
    match r with
    | ':' :: ':' :: r =>
      let (tail, _, rest) := groups (8 - (head.length + 1)) 0 r
      some (head ++ List.replicate (8 - head.length - tail.length) 0 ++ tail, rest)
    | _ => none

/-- The port after a colon. -/
def port (cs : List Char) : Option (Nat × List Char) :=
  match cs with
  | ':' :: r => number 10 65536 none true r
  | _ => none

/-- Read a socket address; none when the text is not one. -/
def parse (s : String) : Option SocketAddr :=
  let cs := s.toList
  let asV4 : Option SocketAddr := do
    let (octets, r) ← ipv4 cs
    let (p, r) ← port r
    if r.isEmpty then pure (.v4 octets p) else none
  let asV6 : Option SocketAddr := do
    let r ← match cs with | '[' :: r => some r | _ => none
    let (gs, r) ← ipv6 r
    let (scope, r) := match r with
      | '%' :: r' => (number 10 (Nat.pow 2 32) none true r').getD (0, r)
      | _ => (0, r)
    let r ← match r with | ']' :: r => some r | _ => none
    let (p, r) ← port r
    if r.isEmpty then pure (.v6 gs scope p) else none
  asV4 <|> asV6

/-- The port of an address. -/
def portOf : SocketAddr → Nat
  | v4 _ p => p
  | v6 _ _ p => p

/-- Whether the address is one of this host's: a loopback address or the unspecified
one. -/
def isLocal : SocketAddr → Bool
  | v4 (a :: rest) _ => a == 127 || (a :: rest).all (· == 0)
  | v4 [] _ => false
  | v6 gs _ _ => gs.all (· == 0) || gs == [0, 0, 0, 0, 0, 0, 0, 1]

/-- The address written back: `a.b.c.d:port`, or every IPv6 group in hexadecimal within
brackets, then the port. -/
def text : SocketAddr → String
  | .v4 octets port => ".".intercalate (octets.map toString) ++ ":" ++ toString port
  | .v6 groups _ port =>
    "[" ++ ":".intercalate (groups.map fun g => String.ofList (Nat.toDigits 16 g)) ++ "]:" ++ toString port

end SocketAddr

end Proximity
