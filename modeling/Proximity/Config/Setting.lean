import Proximity.Toml.Value
import Proximity.Text.Ascii
import Proximity.Text.Quoted
import Proximity.Unicode.Case
import Proximity.Decimal.Text
/-!
# Settings: configuration values before they are typed

Configuration comes from sources (a TOML file, environment variables) as settings: scalars,
lists and tables, each remembering the source it came from. The sources are merged into
one root table, later ones winning, and the root is then read into a `Config`.

* Keys are compared in lower case: a TOML key `Strategy` fills the field `strategy`.
* A table merged onto a table merges member by member; any other value replaces what was
  there.
* A key of the file's root and an environment key is a path: `discovery.mediums[0]` names
  the first medium. Walking a path makes the tables and lists it needs, replacing values
  that are in the way.
* Environment variables `NEARLINK__<SECTION>__<KEY>` (prefix in any case) are settings:
  `true`/`false` in any case are booleans, then integers, then floats; the value of
  `discovery.mediums` that is none of these is split at commas.
* Reading a field converts between kinds: booleans, numbers and text all read as text;
  `1`, `true`, `on`, `yes` (and `0`, `false`, `off`, `no`) read as booleans, as do numbers
  (non-zero is true); text of digits and the boolean words read as numbers, floats round.
  A list must be a list and a section a table. A failure names the key, what was found,
  what was expected and where the value came from.
-/

namespace Proximity

/-- A single value of a configuration source. -/
inductive Scalar where
  | nil
  | bool (b : Bool)
  | int (n : Int)
  | float (x : Float)
  | str (s : String)
  deriving Inhabited

/-- A configuration value with the source it came from, when known. -/
inductive Setting where
  | leaf (origin : Option String) (value : Scalar)
  | list (origin : Option String) (items : List Setting)
  | table (origin : Option String) (members : List (String × Setting))
  deriving Inhabited

/-- What was found where something else was expected. -/
inductive Unexpected where
  | bool (b : Bool)
  | int (n : Int)
  | unsigned (n : Nat)
  | float (x : Float)
  | str (s : String)
  | unit
  | seq
  | map

/-- How the configuration reader describes what it found: integers with their width. -/
def Unexpected.text : Unexpected → String
  | .bool b => "boolean `" ++ toString b ++ "`"
  | .int n => "64-bit integer `" ++ toString n ++ "`"
  | .unsigned n => "64-bit unsigned integer `" ++ toString n ++ "`"
  | .float x => "floating point `" ++ Decimal.plainFloat64 x ++ "`"
  | .str s => "string " ++ Text.quoted s
  | .unit => "unit value"
  | .seq => "sequence"
  | .map => "map"

/-- How a field's own reader describes what it was given: integers without their width,
and a finite float always with a decimal point. -/
def Unexpected.plainText : Unexpected → String
  | .int n => "integer `" ++ toString n ++ "`"
  | .unsigned n => "integer `" ++ toString n ++ "`"
  | .float x =>
    let t := Decimal.plainFloat64 x
    "floating point `" ++ (if x.isFinite && !t.contains '.' then t ++ ".0" else t) ++ "`"
  | u => u.text

/-- A setting the configuration reader could not convert for the field it fills: where
it came from, what it was, what was expected, and the key of the field
(`discovery.mediums[1]`). -/
structure TypeMismatch where
  origin : Option String
  unexpected : Unexpected
  expected : String
  key : Option String := none

namespace TypeMismatch

/-- The failure's text. -/
def message (e : TypeMismatch) : String :=
  "invalid type: " ++ e.unexpected.text ++ ", expected " ++ e.expected
    ++ (match e.key with | some k => " for key `" ++ k ++ "`" | none => "")
    ++ (match e.origin with | some o => " in " ++ o | none => "")

/-- The failure seen from the table that holds the field under `k`. -/
def underKey (k : String) (e : TypeMismatch) : TypeMismatch :=
  { e with key := some (match e.key with
      | none => k
      | some rest => if rest.startsWith "[" then k ++ rest else k ++ "." ++ rest) }

end TypeMismatch

/-- Why a setting does not read as the field it fills: the configuration reader could not
convert it, or the field's reader does not take a setting of its kind at all (a list
where a section is expected, a number where a list is). The second kind names no key and
no source. -/
inductive ReadFault where
  | mismatch (e : TypeMismatch)
  | refused (found : Unexpected) (expected : String)

namespace ReadFault

/-- The failure's text. -/
def message : ReadFault → String
  | mismatch e => e.message
  | refused u expected => "invalid type: " ++ u.plainText ++ ", expected " ++ expected

/-- The failure seen from the table or list that holds the field under `k` (a name, or
a position `[i]`). -/
def underKey (k : String) : ReadFault → ReadFault
  | mismatch e => mismatch (e.underKey k)
  | f => f

end ReadFault

namespace Setting

/-- The source a setting came from. -/
def origin : Setting → Option String
  | leaf o _ => o
  | list o _ => o
  | table o _ => o

/-- How a failure describes a setting. -/
def unexpected : Setting → Unexpected
  | leaf _ .nil => .unit
  | leaf _ (.bool b) => .bool b
  | leaf _ (.int n) => .int n
  | leaf _ (.float x) => .float x
  | leaf _ (.str s) => .str s
  | list _ _ => .seq
  | table _ _ => .map

/-- The failure of converting a setting. -/
def mismatch (s : Setting) (u : Unexpected) (expected : String) : ReadFault :=
  .mismatch { origin := s.origin, unexpected := u, expected }

/-- The failure of a field reader that does not take a setting of this kind. -/
def refuse (s : Setting) (expected : String) : ReadFault := .refused s.unexpected expected

/-- A setting read as text: scalars are written out, nothing else reads. -/
def asString (s : Setting) : Except ReadFault String :=
  match s with
  | leaf _ (.str t) => .ok t
  | leaf _ (.bool b) => .ok (toString b)
  | leaf _ (.int n) => .ok (toString n)
  | leaf _ (.float x) => .ok (Decimal.plainFloat64 x)
  | _ => .error (s.mismatch s.unexpected "a string")

/-- A setting read as a boolean; a text is compared in lower case, and shown so when it
is not a boolean word. -/
def asBool (s : Setting) : Except ReadFault Bool :=
  match s with
  | leaf _ (.bool b) => .ok b
  | leaf _ (.int n) => .ok (n != 0)
  | leaf _ (.float x) => .ok (x != 0)
  | leaf _ (.str t) =>
    let w := Unicode.toLower t
    if w ∈ ["1", "true", "on", "yes"] then .ok true
    else if w ∈ ["0", "false", "off", "no"] then .ok false
    else .error (s.mismatch (.str w) "a boolean")
  | _ => .error (s.mismatch s.unexpected "a boolean")

/-- Unsigned decimal text, with an optional `+`, below 2^64. -/
def unsignedText? (t : String) : Option Nat :=
  let ds := match t.toList with
    | '+' :: r => r
    | cs => cs
  if ds.isEmpty || !ds.all Char.isDigit then none
  else
    let n := ds.foldl (fun n c => 10 * n + (c.toNat - '0'.toNat)) 0
    if n < Nat.pow 2 64 then some n else none

/-- A setting read as an unsigned 64-bit number; a float rounds, and is clamped to the
range. -/
def asUnsigned (s : Setting) : Except ReadFault Nat :=
  match s with
  | leaf _ (.int n) =>
    if n ≥ 0 then .ok n.toNat else .error (s.mismatch (.int n) "an unsigned 64 bit or less integer")
  | leaf _ (.bool b) => .ok (if b then 1 else 0)
  | leaf _ (.float x) => .ok x.round.toUInt64.toNat
  | leaf _ (.str t) =>
    let w := Unicode.toLower t
    if w ∈ ["true", "on", "yes"] then .ok 1
    else if w ∈ ["false", "off", "no"] then .ok 0
    else match unsignedText? t with
      | some n => .ok n
      | none => .error (s.mismatch (.str t) "an integer")
  | _ => .error (s.mismatch s.unexpected "an integer")

/-- A setting read as an unsigned 32-bit number. -/
def asUnsigned32 (s : Setting) : Except ReadFault UInt32 := do
  let n ← s.asUnsigned
  if h : n < UInt32.size then pure (UInt32.ofNatLT n h)
  else throw (.mismatch ⟨none, .unsigned n, "an unsigned 32 bit integer", none⟩)

/-- Whether a setting is the empty scalar. -/
def isNil : Setting → Bool
  | leaf _ .nil => true
  | _ => false

end Setting

/-! ## Merging -/

/-- The member under a key. -/
def memberOf (k : String) (ms : List (String × Setting)) : Option Setting :=
  (ms.find? (·.1 == k)).map (·.2)

/-- Set the member under a key, in place when it is there, else at the end. -/
def upsertMember (k : String) (v : Setting) (ms : List (String × Setting)) :
    List (String × Setting) :=
  if ms.any (·.1 == k) then ms.map fun p => if p.1 == k then (k, v) else p
  else ms ++ [(k, v)]

namespace Setting

/-- The members of a table; anything else counts as an empty table. -/
def membersOrEmpty : Setting → List (String × Setting)
  | table _ ms => ms
  | _ => []

/-- The origin a setting keeps when it stays a table, else none. -/
def tableOrigin : Setting → Option String
  | table o _ => o
  | _ => none

mutual
/-- Merge `v` under `k` into a table: a table merges member by member onto what is there
(a non-table there becomes a table once a member arrives), anything else replaces it. -/
def mergeKey (k : String) : Setting → Setting → Setting
  | table _ incoming, root =>
    let target := (memberOf k root.membersOrEmpty).getD (table none [])
    table root.tableOrigin (upsertMember k (mergeMembers incoming target) root.membersOrEmpty)
  | v, root => table root.tableOrigin (upsertMember k v root.membersOrEmpty)

/-- Merge members one after another. -/
def mergeMembers : List (String × Setting) → Setting → Setting
  | [], t => t
  | (k, v) :: rest, t => mergeMembers rest (mergeKey k v t)
end

end Setting

/-- A step of a setting path: a key of a table or a position in a list (from the end when
negative). -/
inductive PathStep where
  | child (k : String)
  | index (i : Int)
  deriving DecidableEq, Repr

/-- Characters of a path key: ASCII letters and digits, space, `_` and `-`. -/
def isPathChar (c : Char) : Bool :=
  (c.toNat < 128 && c.isAlphanum) || c == ' ' || c == '_' || c == '-'

/-- The steps after the first key of a path: `.key` or `[n]`, up to the end. -/
def pathSteps : Nat → List Char → Option (List PathStep)
  | _, [] => some []
  | 0, _ :: _ => none
  | fuel + 1, '.' :: r =>
    let k := r.takeWhile isPathChar
    if k.isEmpty then none
    else (pathSteps fuel (r.dropWhile isPathChar)).map (.child (String.ofList k) :: ·)
  | fuel + 1, '[' :: r =>
    let body := r.takeWhile (· != ']')
    match r.dropWhile (· != ']') with
    | ']' :: rest =>
      let t := (String.ofList body).trimAscii.toString
      let (negative, ds) := match t.toList with
        | '-' :: ds => (true, ds)
        | ds => (false, ds)
      if ds.isEmpty || !ds.all Char.isDigit then none
      else
        let n : Int := ds.foldl (fun n c => 10 * n + (c.toNat - '0'.toNat)) 0
        (pathSteps fuel rest).map (.index (if negative then -n else n) :: ·)
    | _ => none
  | _ + 1, _ :: _ => none

/-- A key as a path: a first key and the steps after it; none when it is not one. -/
def parsePath (s : String) : Option (List PathStep) :=
  let cs := s.toList
  let k := cs.takeWhile isPathChar
  if k.isEmpty then none
  else (pathSteps cs.length (cs.dropWhile isPathChar)).map (.child (String.ofList k) :: ·)

namespace Setting

/-- The items of a list with room for position `i`: a negative position counts from the
end, and one before the start pads the front with empty values; also the position. -/
def makeRoom (items : List Setting) (i : Int) : List Setting × Nat :=
  if i ≥ 0 then
    let j := i.toNat
    (items ++ List.replicate (j + 1 - items.length) (leaf none .nil), j)
  else if i.natAbs ≤ items.length then (items, items.length - i.natAbs)
  else (List.replicate (i.natAbs - items.length) (leaf none .nil) ++ items, 0)

/-- Change the value at a path, making the tables and lists the path needs. -/
def modifyAt (f : Setting → Setting) : List PathStep → Setting → Setting
  | [], s => f s
  | .child k :: rest, s =>
    let ms := s.membersOrEmpty
    let here := (memberOf k ms).getD (leaf none .nil)
    table s.tableOrigin (upsertMember k (modifyAt f rest here) ms)
  | .index i :: rest, s =>
    let (origin, items) := match s with
      | list o xs => (o, xs)
      | _ => (none, [])
    let (items, j) := makeRoom items i
    list origin (items.set j (modifyAt f rest (items.getD j (leaf none .nil))))

/-- Set a path of the root to a value: a single key merges, a longer path replaces the
value at its end. -/
def setPath (steps : List PathStep) (v : Setting) (root : Setting) : Setting :=
  match steps.getLast?, steps.dropLast with
  | some (.child k), [] => mergeKey k v root
  | some (.child k), init =>
    modifyAt (fun parent => table parent.tableOrigin (upsertMember k v parent.membersOrEmpty))
      init root
  | some (.index i), init =>
    modifyAt (fun parent =>
      let (origin, items) := match parent with
        | list o xs => (o, xs)
        | _ => (none, [])
      let (items, j) := makeRoom items i
      list origin (items.set j v)) init root
  | none, _ => root

/-- Set a key of a source to a value: the key is read as a path when it is one, else it
names a single member. -/
def setKey (key : String) (v : Setting) (root : Setting) : Setting :=
  match parsePath key with
  | some steps => setPath steps v root
  | none => mergeKey key v root

/-! ## Sources -/

/-- Members in byte order of their keys, then under lower-cased keys. -/
def collapseKeys (ms : List (String × Setting)) : List (String × Setting) :=
  let sorted := ms.mergeSort fun a b => decide (a.1 ≤ b.1)
  sorted.foldl (fun acc p => upsertMember (Unicode.toLower p.1) p.2 acc) []

mutual
/-- A TOML value as a setting from `origin`; dates and times become text and keys are
lower-cased (of two keys that then agree, the later in byte order wins). -/
def ofToml (origin : Option String) : TomlValue → Setting
  | .str s => leaf origin (.str s)
  | .int n => leaf origin (.int n)
  | .float x => leaf origin (.float x)
  | .bool b => leaf origin (.bool b)
  | .datetime t => leaf origin (.str t)
  | .arr xs => list origin (ofTomlList origin xs)
  | .table ms => table origin (collapseKeys (ofTomlMembers origin ms))

/-- The elements of a TOML array as settings. -/
def ofTomlList (origin : Option String) : List TomlValue → List Setting
  | [] => []
  | x :: xs => ofToml origin x :: ofTomlList origin xs

/-- The members of a TOML table as settings, each with its key as written. -/
def ofTomlMembers (origin : Option String) : List (String × TomlValue) →
    List (String × Setting)
  | [] => []
  | (k, v) :: rest => (k, ofToml origin v) :: ofTomlMembers origin rest
end

end Setting

/-- Integer text with an optional sign, in the signed 64-bit range. -/
def signedText? (t : String) : Option Int :=
  let (negative, ds) := match t.toList with
    | '-' :: r => (true, r)
    | '+' :: r => (false, r)
    | cs => (false, cs)
  if ds.isEmpty || !ds.all Char.isDigit then none
  else
    let n : Int := ds.foldl (fun n c => 10 * n + (c.toNat - '0'.toNat)) 0
    let n := if negative then -n else n
    if -(Int.pow 2 63) ≤ n && n < Int.pow 2 63 then some n else none

/-- The float of decimal text: an optional sign, then `inf`, `infinity` or `nan` in any
case, or digits with an optional point and exponent (at least one digit before the
exponent). -/
def floatText? (t : String) : Option Float :=
  let (negative, body) := match t.toList with
    | '-' :: r => (true, r)
    | '+' :: r => (false, r)
    | cs => (false, cs)
  let sign (x : Float) : Float := if negative then -x else x
  let word := Text.lowerAscii (String.ofList body)
  if word == "inf" || word == "infinity" then some (sign (Float.ofBits 0x7FF0000000000000))
  else if word == "nan" then some (sign (Float.ofBits 0x7FF8000000000000))
  else
    let whole := body.takeWhile Char.isDigit
    let r := body.dropWhile Char.isDigit
    let (frac, r) := match r with
      | '.' :: r' => (r'.takeWhile Char.isDigit, r'.dropWhile Char.isDigit)
      | _ => ([], r)
    let exponent : Option Int := match r with
      | [] => some 0
      | e :: r' =>
        if e == 'e' || e == 'E' then
          let (minus, ds) := match r' with
            | '-' :: ds => (true, ds)
            | '+' :: ds => (false, ds)
            | ds => (false, ds)
          if ds.isEmpty || !ds.all Char.isDigit then none
          else
            let v : Int := ds.foldl (fun n c => 10 * n + (c.toNat - '0'.toNat)) 0
            some (if minus then -v else v)
        else none
    let pointOnly := whole.isEmpty && frac.isEmpty
    match exponent with
    | some e =>
      if pointOnly then none
      else
        let digits := whole ++ frac
        let m := digits.foldl (fun n c => 10 * n + (c.toNat - '0'.toNat)) 0
        let e := e - frac.length
        let size := (toString m).length
        let x : Float :=
          if m == 0 then 0
          else if size + e > 310 then Float.ofBits 0x7FF0000000000000
          else if size + e < -400 then 0
          else if e ≥ 0 then Float.ofScientific m false e.toNat
          else Float.ofScientific m true e.natAbs
        some (sign x)
    | none => none

/-- The settings of environment variables: those named `NEARLINK__...` in any case, under
their key in lower case with the prefix removed and `__` read as a dot. -/
def environmentSettings (vars : List (String × String)) : List (String × Setting) :=
  let origin := some "the environment"
  let prefix_ := "nearlink__"
  vars.foldl (fun acc (name, value) =>
    let key := Unicode.toLower name
    if !key.startsWith prefix_ then acc
    else
      let key := (key.drop prefix_.length).toString.replace "__" "."
      let lowered := Text.lowerAscii value
      let v : Setting :=
        if lowered == "true" then .leaf origin (.bool true)
        else if lowered == "false" then .leaf origin (.bool false)
        else match signedText? value with
          | some n => .leaf origin (.int n)
          | none =>
            match floatText? value with
            | some x => .leaf origin (.float x)
            | none =>
              if key == "discovery.mediums" then
                .list origin ((value.splitOn ",").map fun s => .leaf origin (.str s))
              else .leaf origin (.str value)
      upsertMember key v acc) []

end Proximity
