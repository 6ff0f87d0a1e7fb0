import Proximity.Text.Blank

/-!
# Instants

An instant is a moment in UTC, to the nanosecond, in the proleptic Gregorian calendar.
It is kept as whole seconds since `1970-01-01T00:00:00Z` and a count of nanoseconds; a
count of `10^9` or more marks a leap second, the sixtieth second of a minute, which sorts
after the fifty-ninth and before the next minute.

## Reading

An instant reads from RFC 3339 text, relaxed: a date `Y-M-D`, then `T`, `t` or a space,
then a time `h:m:s` with an optional fraction of any length (digits after the ninth are
ignored), then `Z`, `z`, `UTC` in any case, or an offset `±hh:mm` (the colon may be left
out or be blanks; U+2212 is a minus sign too). Blanks may stand before each number, before
each `-` and `:` between fields, before the offset and at the end. A year without a sign has at most four digits; with a sign it
may have any number. Each field is checked against its range as soon as it is read; a
second of `60` is a leap second. The date must exist within years `-262143` to `262142`
and the offset must be less than a day; the moment in UTC must lie within those years too,
and one pushed out of them by its offset is impossible rather than out of range.

## Writing

An instant is written `YYYY-MM-DDThh:mm:ssZ`, with a fraction of three, six or nine digits
when the nanoseconds need them, and a leap second written as second `60`. A year outside
`0` to `9999` is written with its sign and at least four digits.
-/

namespace Proximity

/-- Why a text is not an instant. -/
inductive TimeError where
  /-- a field or the whole moment is out of its range -/
  | outOfRange
  /-- a character that does not belong -/
  | invalid
  /-- the text ends too early -/
  | tooShort
  /-- there is text after the instant -/
  | tooLong
  /-- the fields are each in range, but the moment they name in UTC is not -/
  | impossible
  deriving DecidableEq, Repr

/-- The error's own description. -/
def TimeError.message : TimeError → String
  | .outOfRange => "input is out of range"
  | .invalid => "input contains invalid characters"
  | .tooShort => "premature end of input"
  | .tooLong => "trailing input"
  | .impossible => "no possible date and time matching input"

/-- A moment in UTC. -/
structure Instant where
  /-- whole seconds since `1970-01-01T00:00:00Z` -/
  seconds : Int
  /-- nanoseconds into the second; from `10^9` up, into a leap second -/
  nanos : Nat
  deriving DecidableEq, Repr, Inhabited

namespace Instant

/-- Time order: by second, then by nanosecond. -/
instance : LT Instant := ⟨fun a b => a.seconds < b.seconds ∨ (a.seconds = b.seconds ∧ a.nanos < b.nanos)⟩

instance (a b : Instant) : Decidable (a < b) :=
  inferInstanceAs (Decidable (a.seconds < b.seconds ∨ (a.seconds = b.seconds ∧ a.nanos < b.nanos)))

instance : LE Instant := ⟨fun a b => ¬ b < a⟩

instance (a b : Instant) : Decidable (a ≤ b) := inferInstanceAs (Decidable (¬ b < a))

end Instant

namespace Calendar

/-- Whether a year has a 29th of February. -/
def isLeapYear (y : Int) : Bool := y % 4 == 0 && (y % 100 != 0 || y % 400 == 0)

/-- The number of days of a month. -/
def daysInMonth (y : Int) (m : Nat) : Nat :=
  match m with
  | 2 => if isLeapYear y then 29 else 28
  | 4 | 6 | 9 | 11 => 30
  | _ => 31

/-- The first year an instant may fall in. -/
def minYear : Int := -262143

/-- The last year an instant may fall in. -/
def maxYear : Int := 262142

/-- Days from `1970-01-01` to a date, counting in whole eras of 400 years. -/
def daysFromCivil (y : Int) (m d : Nat) : Int :=
  let y' := if m ≤ 2 then y - 1 else y
  let era := y' / 400
  let yoe := y' - era * 400
  let mp : Int := if m > 2 then m - 3 else m + 9
  let doy := (153 * mp + 2) / 5 + d - 1
  let doe := yoe * 365 + yoe / 4 - yoe / 100 + doy
  era * 146097 + doe - 719468

/-- The date a count of days from `1970-01-01` falls on: year, month and day. -/
def civilFromDays (z : Int) : Int × Nat × Nat :=
  let z' := z + 719468
  let era := z' / 146097
  let doe := z' - era * 146097
  let yoe := (doe - doe / 1460 + doe / 36524 - doe / 146096) / 365
  let doy := doe - (365 * yoe + yoe / 4 - yoe / 100)
  let mp := (5 * doy + 2) / 153
  let d := doy - (153 * mp + 2) / 5 + 1
  let m := if mp < 10 then mp + 3 else mp - 9
  let y := yoe + era * 400
  (if m ≤ 2 then y + 1 else y, m.toNat, d.toNat)

end Calendar

namespace TimeText

open Text

/-- The number of bytes of characters in UTF-8. -/
def byteLength (s : List Char) : Nat := (String.ofList s).utf8ByteSize

/-- Text without its leading blanks. -/
def skipBlank (s : List Char) : List Char := s.dropWhile isBlank

/-- The largest value a signed 64-bit count holds. -/
def countMax : Nat := Nat.pow 2 63 - 1

/-- The value of decimal digits. -/
def digitsValue (ds : List Char) : Nat := ds.foldl (fun n c => n * 10 + (c.toNat - '0'.toNat)) 0

/-- Reads between `min` and `max` digits (as many as there are); too many digits for a
signed 64-bit count is out of range. -/
def number (s : List Char) (min max : Nat) : Except TimeError (Nat × List Char) :=
  if byteLength s < min then .error .tooShort
  else
    let ds := (s.take max).takeWhile fun c => '0' ≤ c && c ≤ '9'
    if ds.length < min then .error .invalid
    else
      let v := digitsValue ds
      if v > countMax then .error .outOfRange else .ok (v, s.drop ds.length)

/-- Reads a literal character. -/
def literal (c : Char) (s : List Char) : Except TimeError (List Char) :=
  match s with
  | [] => .error .tooShort
  | d :: rest => if d == c then .ok rest else .error .invalid

/-- Reads an unsigned field of at most `width` digits, blanks before it allowed, and checks
it is in `[lo, hi]`. -/
def field (s : List Char) (width lo hi : Nat) : Except TimeError (Nat × List Char) := do
  let (v, rest) ← number (skipBlank s) 1 width
  if v < lo || v > hi then throw .outOfRange
  pure (v, rest)

/-- Reads a year: four digits at most without a sign, any number with one. -/
def year (s : List Char) : Except TimeError (Int × List Char) := do
  let s := skipBlank s
  let (y, rest) ← match s with
    | '-' :: t => do
      let (v, r) ← number t 1 t.length
      pure ((-(v : Int)), r)
    | '+' :: t => do
      let (v, r) ← number t 1 t.length
      pure ((v : Int), r)
    | _ => do
      let (v, r) ← number s 1 4
      pure ((v : Int), r)
  if y < -(Int.pow 2 31) || y ≥ Int.pow 2 31 then throw .outOfRange
  pure (y, rest)

/-- Reads a fraction of a second after its point: the first nine digits count. -/
def fraction (s : List Char) : Except TimeError (Nat × List Char) := do
  let (v, rest) ← number s 1 9
  let used := s.length - rest.length
  let scaled := v * Nat.pow 10 (9 - used)
  pure (scaled, rest.dropWhile fun c => '0' ≤ c && c ≤ '9')

/-- Two leading ASCII digits, as characters. -/
def twoDigits (s : List Char) : Except TimeError (Char × Char) :=
  if byteLength s < 2 then .error .tooShort
  else match s with
    | a :: b :: _ => .ok (a, b)
    | _ => .error .invalid

/-- Whether a character is an ASCII digit. -/
def isDigit (c : Char) : Bool := '0' ≤ c && c ≤ '9'

/-- The value of an ASCII digit. -/
def digit (c : Char) : Nat := c.toNat - '0'.toNat

/-- Reads an offset from UTC in seconds: `Z`, or a sign, two digits of hours, an optional
colon or blanks, and two digits of minutes below 60. -/
def offset (s : List Char) : Except TimeError (Int × List Char) := do
  match s with
  | 'Z' :: rest | 'z' :: rest => pure (0, rest)
  | [] => throw .tooShort
  | c :: rest =>
    let negative ← match c with
      | '+' => pure false
      | '-' | '−' => pure true
      | _ => throw .invalid
    let (h1, h2) ← twoDigits rest
    if !(isDigit h1 && isDigit h2) then throw .invalid
    let rest := (rest.drop 2).dropWhile fun c => c == ':' || isBlank c
    let (m1, m2) ← twoDigits rest
    if !isDigit m2 then throw .invalid
    if '6' ≤ m1 && m1 ≤ '9' then throw .outOfRange
    if !('0' ≤ m1 && m1 ≤ '5') then throw .invalid
    let secs : Int := (digit h1 * 10 + digit h2) * 3600 + (digit m1 * 10 + digit m2) * 60
    pure (if negative then -secs else secs, rest.drop 2)

/-- Whether the text starts with `UTC` in any case. -/
def startsWithUtc (s : List Char) : Bool :=
  match s with
  | a :: b :: c :: _ => (a == 'U' || a == 'u') && (b == 'T' || b == 't') && (c == 'C' || c == 'c')
  | _ => false

/-- The fields of an instant as written, in the order they are read. -/
structure Fields where
  year : Int
  month : Nat
  day : Nat
  hour : Nat
  minute : Nat
  second : Nat
  nanos : Nat
  offset : Int
  deriving DecidableEq, Repr

/-- Reads the fields and what follows them. -/
def fields (s : List Char) : Except TimeError (Fields × List Char) := do
  let (y, s) ← year s
  let s ← literal '-' (skipBlank s)
  let (mo, s) ← field s 2 1 12
  let s ← literal '-' (skipBlank s)
  let (d, s) ← field s 2 1 31
  let s ← match s with
    | 'T' :: rest | 't' :: rest | ' ' :: rest => pure rest
    | [] => throw .tooShort
    | _ => throw .invalid
  let (h, s) ← field s 2 0 23
  let s ← literal ':' (skipBlank s)
  let (mi, s) ← field s 2 0 59
  let s ← literal ':' (skipBlank s)
  let (sec, s) ← field s 2 0 60
  let (ns, s) ← match s with
    | '.' :: rest => fraction rest
    | _ => pure (0, s)
  let s := skipBlank s
  let (off, s) ← if startsWithUtc s then pure (0, s.drop 3) else offset s
  pure ({ year := y, month := mo, day := d, hour := h, minute := mi, second := sec,
          nanos := ns, offset := off }, s)

/-- The instant fields stand for, if the date exists and the moment is in range. -/
def Fields.toInstant (f : Fields) : Except TimeError Instant := do
  if f.year < Calendar.minYear || f.year > Calendar.maxYear then throw .outOfRange
  if f.day > Calendar.daysInMonth f.year f.month then throw .outOfRange
  if f.offset ≤ -86400 || f.offset ≥ 86400 then throw .outOfRange
  let (second, nanos) := if f.second = 60 then (59, f.nanos + 1000000000) else (f.second, f.nanos)
  let local_ := Calendar.daysFromCivil f.year f.month f.day * 86400 +
    (f.hour * 3600 + f.minute * 60 + second : Nat)
  let seconds := local_ - f.offset
  let (y, _, _) := Calendar.civilFromDays (seconds / 86400)
  if y < Calendar.minYear || y > Calendar.maxYear then throw .impossible
  pure { seconds, nanos }

end TimeText

namespace Instant

/-- Reads an instant from relaxed RFC 3339 text. -/
def parse (text : String) : Except TimeError Instant := do
  let (f, rest) ← TimeText.fields text.toList
  if !(TimeText.skipBlank rest).isEmpty then throw .tooLong
  f.toInstant

/-- A number written with at least `n` digits. -/
def padded (n v : Nat) : String :=
  let s := toString v
  String.ofList (List.replicate (n - s.length) '0') ++ s

/-- The year as written: four digits in `0..9999`, else a sign and at least four digits. -/
def yearText (y : Int) : String :=
  if 0 ≤ y && y ≤ 9999 then padded 4 y.toNat
  else (if y < 0 then "-" else "+") ++ padded 4 y.natAbs

/-- The fraction of a second as written: none, or three, six or nine digits. -/
def fractionText (n : Nat) : String :=
  if n == 0 then ""
  else if n % 1000000 == 0 then "." ++ padded 3 (n / 1000000)
  else if n % 1000 == 0 then "." ++ padded 6 (n / 1000)
  else "." ++ padded 9 n

/-- The RFC 3339 text of an instant, in UTC. -/
def render (t : Instant) : String :=
  let days := t.seconds / 86400
  let secs := (t.seconds % 86400).toNat
  let (y, m, d) := Calendar.civilFromDays days
  let (second, nanos) :=
    if t.nanos ≥ 1000000000 then (secs % 60 + 1, t.nanos - 1000000000) else (secs % 60, t.nanos)
  yearText y ++ "-" ++ padded 2 m ++ "-" ++ padded 2 d ++ "T" ++ padded 2 (secs / 3600) ++ ":" ++
    padded 2 (secs / 60 % 60) ++ ":" ++ padded 2 second ++ fractionText nanos ++ "Z"

end Instant

end Proximity
