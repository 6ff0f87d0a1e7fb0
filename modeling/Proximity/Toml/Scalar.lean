import Proximity.Toml.Fault
import Proximity.Toml.Value
/-!
# TOML strings, numbers, dates and times

Readers for the values that hold no other value, each on the characters left to read and
returning what it read with the rest (`Step`).

* Strings come in four kinds: basic (`"..."`, with escapes), literal (`'...'`, as
  written) and a multi-line form of each (three quotes; a line break right after the
  opening quotes is dropped, `\r\n` reads as `\n`, and in the basic form a backslash at
  the end of a line drops the line break and the blanks after it).
* Integers are decimal without leading zeros, or `0x`, `0o`, `0b` with digits of that
  base; one underscore may stand between two digits. They must fit in 64 signed bits.
* Floats have a fraction, an exponent or both, or are `inf` or `nan` with an optional sign.
* Dates are `YYYY-MM-DD`, optionally followed by `T`, `t` or a blank and a time
  `hh:mm:ss[.fraction]` and an offset (`Z` or `±hh:mm`); a time may also stand alone.
  Day numbers are checked against the month, leap years included.
-/

namespace Proximity.Toml

/-! ## Characters -/

/-- Blanks inside a line: space and tab. -/
def isBlank (c : Char) : Bool := c == ' ' || c == '\t'

/-- The text after the blanks it starts with. -/
def skipBlank (cs : List Char) : List Char := cs.dropWhile isBlank

/-- Characters a comment may hold: tab, printable ASCII and everything beyond ASCII. -/
def isCommentChar (c : Char) : Bool :=
  c == '\t' || (0x20 ≤ c.toNat && c.toNat ≤ 0x7E) || 0x80 ≤ c.toNat

/-- Characters a basic string holds as written: all but quote, backslash and controls. -/
def isBasicChar (c : Char) : Bool :=
  isBlank c || c.toNat == 0x21 || (0x23 ≤ c.toNat && c.toNat ≤ 0x5B)
    || (0x5D ≤ c.toNat && c.toNat ≤ 0x7E) || 0x80 ≤ c.toNat

/-- Characters a literal string may hold: all but the apostrophe and controls. -/
def isLiteralChar (c : Char) : Bool :=
  c == '\t' || (0x20 ≤ c.toNat && c.toNat ≤ 0x26) || (0x28 ≤ c.toNat && c.toNat ≤ 0x7E)
    || 0x80 ≤ c.toNat

/-- Characters of a bare key: ASCII letters and digits, `_` and `-`. -/
def isBareKeyChar (c : Char) : Bool := (c.toNat < 128 && c.isAlphanum) || c == '_' || c == '-'

/-- The text after a line break (`\n` or `\r\n`) that it starts with. -/
def newline? : List Char → Option (List Char)
  | '\n' :: rest => some rest
  | '\r' :: '\n' :: rest => some rest
  | _ => none

/-- The text after the comment it starts with, if it starts with one. -/
def skipComment : List Char → List Char
  | '#' :: rest => rest.dropWhile isCommentChar
  | cs => cs

/-- The text after blanks and line breaks. -/
def skipBlankLines : List Char → List Char
  | ' ' :: r => skipBlankLines r
  | '\t' :: r => skipBlankLines r
  | '\n' :: r => skipBlankLines r
  | '\r' :: '\n' :: r => skipBlankLines r
  | cs => cs

/-! ## Strings -/

/-- The value of a hexadecimal digit. -/
def hexDigit? (c : Char) : Option Nat :=
  if c.isDigit then some (c.toNat - '0'.toNat)
  else if 'a' ≤ c && c ≤ 'f' then some (c.toNat - 'a'.toNat + 10)
  else if 'A' ≤ c && c ≤ 'F' then some (c.toNat - 'A'.toNat + 10)
  else none

/-- At most `n` hexadecimal digits: their value, their number and the rest. -/
def hexRun : Nat → List Char → Nat → Nat → Nat × Nat × List Char
  | 0, cs, v, k => (v, k, cs)
  | n + 1, c :: cs, v, k =>
    match hexDigit? c with
    | some d => hexRun n cs (v * 16 + d) (k + 1)
    | none => (v, k, c :: cs)
  | _ + 1, [], v, k => (v, k, [])

/-- The escapes a backslash may start, as a fault lists them. -/
def escapeNames : List String :=
  ["`b`", "`f`", "`n`", "`r`", "`t`", "`u`", "`U`", "`\\`", "`\"`"]

/-- A character given by exactly `n` hexadecimal digits. -/
def unicodeEscape (n : Nat) (label : String) (cs : List Char) : Step Char :=
  let (v, k, rest) := hexRun n cs 0 0
  if k < n then .cut { label := some label, left := cs.length }
  else if Nat.isValidChar v then .ok (Char.ofNat v) rest
  else .cut { label := some label, cause := some "value is out of range", left := cs.length }

/-- The character an escape stands for; the text starts after the backslash. -/
def escape : List Char → Step Char
  | 'b' :: r => .ok '\x08' r
  | 'f' :: r => .ok '\x0c' r
  | 'n' :: r => .ok '\n' r
  | 'r' :: r => .ok '\r' r
  | 't' :: r => .ok '\t' r
  | '\\' :: r => .ok '\\' r
  | '"' :: r => .ok '"' r
  | 'u' :: r => unicodeEscape 4 "unicode 4-digit hex code" r
  | 'U' :: r => unicodeEscape 8 "unicode 8-digit hex code" r
  | _ :: r => .cut { label := some "escape sequence", expected := escapeNames, left := r.length }
  | [] => .back { left := 0 }

/-- The body of a basic string, after its opening quote, up to and past the closing one. -/
def basicBody : Nat → List Char → List Char → Step String
  | 0, cs, _ => .cut { label := some "basic string", left := cs.length }
  | fuel + 1, cs, acc =>
    match cs with
    | '"' :: r => .ok (String.ofList acc.reverse) r
    | '\\' :: r =>
      match escape r with
      | .ok c r' => basicBody fuel r' (c :: acc)
      | .cut f => .cut f
      | .back _ => .cut { label := some "basic string", left := cs.length }
    | c :: r =>
      if isBasicChar c then basicBody fuel r (c :: acc)
      else .cut { label := some "basic string", left := cs.length }
    | [] => .cut { label := some "basic string", left := 0 }

/-- A basic string; the text starts after the opening quote. -/
def basicString (cs : List Char) : Step String := basicBody (cs.length + 1) cs []

/-- The text after a backslash that ends a line in a multi-line basic string, with the
blanks and line breaks after it. -/
def lineContinuation? (cs : List Char) : Option (List Char) :=
  (newline? (skipBlank cs)).map skipBlankLines

/-- The body of a multi-line string whose quote is `q`, up to and past the three closing
quotes; one or two quotes just before them belong to the body. -/
def closeQuotes (q : Char) (acc : List Char) : List Char → Step String
  | a :: b :: r => if a == q && b == q then .ok (String.ofList (q :: q :: acc).reverse) r
      else if a == q then .ok (String.ofList (q :: acc).reverse) (b :: r)
      else .ok (String.ofList acc.reverse) (a :: b :: r)
  | [a] => if a == q then .ok (String.ofList (q :: acc).reverse) []
      else .ok (String.ofList acc.reverse) [a]
  | [] => .ok (String.ofList acc.reverse) []

/-- The body of a multi-line basic string. -/
def multiBasicBody : Nat → List Char → List Char → Step String
  | 0, cs, _ => .cut { label := some "multiline basic string", left := cs.length }
  | fuel + 1, cs, acc =>
    match cs with
    | '"' :: '"' :: '"' :: r => closeQuotes '"' acc r
    | '"' :: r => multiBasicBody fuel r ('"' :: acc)
    | '\\' :: r =>
      match lineContinuation? r with
      | some r' => multiBasicBody fuel r' acc
      | none =>
        match escape r with
        | .ok c r' => multiBasicBody fuel r' (c :: acc)
        | .cut f => .cut f
        | .back _ => .cut { label := some "multiline basic string", left := cs.length }
    | c :: r =>
      match newline? cs with
      | some r' => multiBasicBody fuel r' ('\n' :: acc)
      | none =>
        if isBasicChar c then multiBasicBody fuel r (c :: acc)
        else .cut { label := some "multiline basic string", left := cs.length }
    | [] => .cut { label := some "multiline basic string", left := 0 }

/-- The body of a literal string, after its opening apostrophe. -/
def literalBody : List Char → List Char → Step String
  | '\'' :: r, acc => .ok (String.ofList acc.reverse) r
  | c :: r, acc =>
    if isLiteralChar c then literalBody r (c :: acc)
    else .cut { label := some "literal string", left := (c :: r).length }
  | [], _ => .cut { label := some "literal string", left := 0 }

/-- The body of a multi-line literal string. -/
def multiLiteralBody : List Char → List Char → Step String
  | '\'' :: '\'' :: '\'' :: r, acc => closeQuotes '\'' acc r
  | '\'' :: r, acc => multiLiteralBody r ('\'' :: acc)
  | '\r' :: '\n' :: r, acc => multiLiteralBody r ('\n' :: acc)
  | '\n' :: r, acc => multiLiteralBody r ('\n' :: acc)
  | c :: r, acc =>
    if isLiteralChar c then multiLiteralBody r (c :: acc)
    else .cut { label := some "multiline literal string", left := (c :: r).length }
  | [], _ => .cut { label := some "multiline literal string", left := 0 }

/-- The text after a line break it starts with, or the text itself. -/
def dropNewline (cs : List Char) : List Char := (newline? cs).getD cs

/-- A string of any of the four kinds. -/
def string (cs : List Char) : Step String :=
  match cs with
  | '"' :: '"' :: '"' :: r =>
    let body := dropNewline r
    multiBasicBody (body.length + 1) body []
  | '"' :: r => basicString r
  | '\'' :: '\'' :: '\'' :: r => multiLiteralBody (dropNewline r) []
  | '\'' :: r => literalBody r []
  | _ => .back { left := cs.length }

/-! ## Numbers -/

/-- Digits after a first one, with single underscores between digits: the digits read
(after those in `acc`, which is reversed) and the rest, or a fault at an underscore that
no digit follows. -/
def digitTail (ok : Char → Bool) : List Char → List Char → Except Fault (List Char × List Char)
  | '_' :: c :: r, acc =>
    if ok c then digitTail ok r (c :: acc)
    else .error { expected := ["digit"], left := (c :: r).length }
  | ['_'], _ => .error { expected := ["digit"], left := 0 }
  | c :: r, acc => if ok c then digitTail ok r (c :: acc) else .ok (acc.reverse, c :: r)
  | [], acc => .ok (acc.reverse, [])

/-- The value of decimal digits. -/
def decimalValue (ds : List Char) : Nat :=
  ds.foldl (fun n c => 10 * n + (c.toNat - '0'.toNat)) 0

/-- A sign, when the text starts with one, and the text after it. -/
def sign? : List Char → Option Char × List Char
  | '+' :: r => (some '+', r)
  | '-' :: r => (some '-', r)
  | cs => (none, cs)

/-- A decimal integer without leading zeros: its sign, its digits and the rest. -/
def decimalInteger (cs : List Char) : Step (Option Char × List Char) :=
  let (s, body) := sign? cs
  match body with
  | c :: r =>
    if '1' ≤ c && c ≤ '9' then
      match digitTail Char.isDigit r [c] with
      | .ok (ds, rest) => .ok (s, ds) rest
      | .error f => .cut (f.within "integer")
    else if c == '0' then .ok (s, ['0']) r
    else .back { label := some "integer", left := body.length }
  | [] => .back { label := some "integer", left := 0 }

/-- The least and greatest integers a document may hold. -/
def intMin : Int := -(Int.pow 2 63)
def intMax : Int := Int.pow 2 63 - 1

/-- An integer in base 2, 8 or 16 after its prefix; `whole` is the text from the prefix. -/
def radixInteger (base : Nat) (label : String) (whole cs : List Char) : Step Int :=
  let digit? (c : Char) : Option Nat := (hexDigit? c).filter (· < base)
  match cs with
  | c :: r =>
    match digit? c with
    | some _ =>
      match digitTail (fun c => (digit? c).isSome) r [c] with
      | .ok (ds, rest) =>
        let n := ds.foldl (fun n c => base * n + ((digit? c).getD 0)) 0
        if (n : Int) > intMax then
          .cut { cause := some "number too large to fit in target type", left := whole.length }
        else .ok n rest
      | .error f => .cut (f.within label)
    | none => .cut { label := some label, left := cs.length }
  | [] => .cut { label := some label, left := 0 }

/-- An integer. -/
def integer (cs : List Char) : Step Int :=
  match cs with
  | '0' :: 'x' :: r => radixInteger 16 "hexadecimal integer" cs r
  | '0' :: 'o' :: r => radixInteger 8 "octal integer" cs r
  | '0' :: 'b' :: r => radixInteger 2 "binary integer" cs r
  | _ =>
    match decimalInteger cs with
    | .ok (s, ds) rest =>
      let n : Int := if s == some '-' then -(decimalValue ds : Int) else decimalValue ds
      if n > intMax then
        .cut { cause := some "number too large to fit in target type", left := rest.length }
      else if n < intMin then
        .cut { cause := some "number too small to fit in target type", left := rest.length }
      else .ok n rest
    | .back f => .back f
    | .cut f => .cut f

/-- Positive infinity. -/
def infinity : Float := Float.ofBits 0x7FF0000000000000

/-- The quiet not-a-number with the sign bit clear. -/
def notANumber : Float := Float.ofBits 0x7FF8000000000000

/-- The nearest float to `significand · 10^exponent`; beyond the range of floats it is
infinite or zero. -/
def decimalFloat (significand : Nat) (exponent : Int) : Float :=
  if significand == 0 then 0
  else
    let size := (toString significand).length
    if size + exponent > 310 then infinity
    else if size + exponent < -400 then 0
    else if exponent ≥ 0 then Float.ofScientific significand false exponent.toNat
    else Float.ofScientific significand true exponent.natAbs

/-- Digits that may start with zero, with single underscores between them. -/
def plainDigits (cs : List Char) : Except Fault (Option (List Char × List Char)) :=
  match cs with
  | c :: r => if c.isDigit then (digitTail Char.isDigit r [c]).map some else .ok none
  | [] => .ok none

/-- The exponent after `e` or `E`. -/
def exponentPart (cs : List Char) : Step Int :=
  let (s, body) := sign? cs
  match plainDigits body with
  | .ok (some (ds, rest)) =>
    .ok (if s == some '-' then -(decimalValue ds : Int) else decimalValue ds) rest
  | .ok none => .cut { left := body.length }
  | .error f => .cut f

/-- A float written with a fraction, an exponent or both: its sign, significand, power of
ten and the rest. -/
def floatParts (cs : List Char) : Step (Bool × Nat × Int) :=
  match decimalInteger cs with
  | .back f => .back f
  | .cut f => .cut f
  | .ok (s, ds) rest =>
    let negative := s == some '-'
    let withExponent (m : Nat) (shift : Int) (r : List Char) : Step (Bool × Nat × Int) :=
      match r with
      | 'e' :: r' | 'E' :: r' =>
        match exponentPart r' with
        | .ok e r'' => .ok (negative, m, e + shift) r''
        | .back f => .back f
        | .cut f => .cut f
      | _ => .ok (negative, m, shift) r
    match rest with
    | 'e' :: _ | 'E' :: _ => withExponent (decimalValue ds) 0 rest
    | '.' :: r =>
      match plainDigits r with
      | .ok (some (fs, r')) =>
        withExponent (decimalValue (ds ++ fs)) (-(fs.length : Int)) r'
      | .ok none => .cut { expected := ["digit"], left := r.length }
      | .error f => .cut f
    | _ => .back { left := rest.length }

/-- `inf` or `nan` with an optional sign. -/
def specialFloat (cs : List Char) : Step Float :=
  let (s, body) := sign? cs
  let sign (x : Float) : Float := if s == some '-' then -x else x
  match body with
  | 'i' :: 'n' :: 'f' :: r => .ok (sign infinity) r
  | 'n' :: 'a' :: 'n' :: r => .ok (sign notANumber) r
  | _ => .back { left := body.length }

/-- A float. -/
def float (cs : List Char) : Step Float :=
  let read : Step Float :=
    match floatParts cs with
    | .ok (negative, m, e) rest =>
      let x := decimalFloat m e
      let x := if negative then -x else x
      if x == infinity then .cut { left := rest.length } else .ok x rest
    | .cut f => .cut f
    | .back _ => specialFloat cs
  read.mapFault (Fault.within "floating-point number")

/-! ## Dates and times -/

/-- Exactly two digits and their value. -/
def twoDigits? : List Char → Option (Nat × List Char)
  | a :: b :: r =>
    if a.isDigit && b.isDigit then some (decimalValue [a, b], r) else none
  | _ => none

/-- Exactly four digits and their value. -/
def fourDigits? : List Char → Option (Nat × List Char)
  | a :: b :: c :: d :: r =>
    if a.isDigit && b.isDigit && c.isDigit && d.isDigit then some (decimalValue [a, b, c, d], r)
    else none
  | _ => none

/-- A number written with at least `width` digits. -/
def padded (width n : Nat) : String :=
  let s := toString n
  String.ofList (List.replicate (width - s.length) '0') ++ s

/-- Days in a month of a year. -/
def daysInMonth (year month : Nat) : Nat :=
  if month == 2 then
    if year % 4 == 0 && (year % 100 != 0 || year % 400 == 0) then 29 else 28
  else if month == 4 || month == 6 || month == 9 || month == 11 then 30
  else 31

/-- The fault of a number out of its range. -/
def outOfRange (left : Nat) : Fault := { cause := some "value is out of range", left }

/-- A two-digit field at most `hi` (at least `lo`), after which the read cannot go back. -/
def boundedField (lo hi : Nat) (cs : List Char) : Step Nat :=
  match twoDigits? cs with
  | some (n, r) => if lo ≤ n && n ≤ hi then .ok n r else .cut (outOfRange cs.length)
  | none => .cut { left := cs.length }

/-- A date `YYYY-MM-DD`, as text. -/
def fullDate (cs : List Char) : Step String :=
  match fourDigits? cs with
  | some (year, '-' :: r) =>
    match boundedField 1 12 r with
    | .ok month ('-' :: r') =>
      match boundedField 1 31 r' with
      | .ok day r'' =>
        if day > daysInMonth year month then .cut (outOfRange r'.length)
        else .ok (padded 4 year ++ "-" ++ padded 2 month ++ "-" ++ padded 2 day) r''
      | .back f => .cut f
      | .cut f => .cut f
    | .ok _ r' => .cut { left := r'.length }
    | .back f => .cut f
    | .cut f => .cut f
  | _ => .back { left := cs.length }

/-- The fraction of a second after the point: nanoseconds from its first nine digits. -/
def secondFraction : List Char → Option (Nat × List Char)
  | '.' :: r =>
    let ds := r.takeWhile Char.isDigit
    if ds.isEmpty then none
    else
      let kept := ds.take 9
      some (decimalValue kept * Nat.pow 10 (9 - kept.length), r.dropWhile Char.isDigit)
  | _ => none

/-- Nanoseconds as a fraction: a point and the digits without trailing zeros, or nothing. -/
def fractionText (nanos : Nat) : String :=
  if nanos == 0 then ""
  else "." ++ String.ofList ((padded 9 nanos).toList.reverse.dropWhile (· == '0')).reverse

/-- A time `hh:mm:ss[.fraction]`, as text. -/
def partialTime (cs : List Char) : Step String :=
  match twoDigits? cs with
  | some (hour, ':' :: r) =>
    if hour > 23 then .back (outOfRange cs.length)
    else
      match boundedField 0 59 r with
      | .ok minute (':' :: r') =>
        match boundedField 0 60 r' with
        | .ok second r'' =>
          let (nanos, rest) := (secondFraction r'').getD (0, r'')
          .ok (padded 2 hour ++ ":" ++ padded 2 minute ++ ":" ++ padded 2 second
            ++ fractionText nanos) rest
        | .back f => .cut f
        | .cut f => .cut f
      | .ok _ r' => .cut { left := r'.length }
      | .back f => .cut f
      | .cut f => .cut f
  | some (hour, r) =>
    if hour > 23 then .back (outOfRange cs.length) else .back { left := r.length }
  | none => .back { left := cs.length }

/-- An offset `Z` or `±hh:mm`, as text; a zero offset is written with `+`. -/
def timeOffset (cs : List Char) : Step String :=
  let read : Step String :=
    match cs with
    | 'Z' :: r | 'z' :: r => .ok "Z" r
    | s :: r =>
      if s == '+' || s == '-' then
        match boundedField 0 23 r with
        | .ok hours (':' :: r') =>
          match boundedField 0 59 r' with
          | .ok minutes r'' =>
            let sign := if s == '-' && hours + minutes > 0 then "-" else "+"
            .ok (sign ++ padded 2 hours ++ ":" ++ padded 2 minutes) r''
          | .back f => .cut f
          | .cut f => .cut f
        | .ok _ r' => .cut { left := r'.length }
        | .back f => .cut f
        | .cut f => .cut f
      else .back { left := cs.length }
    | [] => .back { left := 0 }
  read.mapFault (Fault.within "time offset")

/-- A date, a date and time with or without an offset, or a time, as text. -/
def dateTime (cs : List Char) : Step String :=
  match fullDate cs with
  | .cut f => .cut (f.within "date-time")
  | .ok date r =>
    match r with
    | d :: r' =>
      if d == 'T' || d == 't' || d == ' ' then
        match partialTime r' with
        | .ok time r'' =>
          match timeOffset r'' with
          | .ok offset r3 => .ok (date ++ "T" ++ time ++ offset) r3
          | .back _ => .ok (date ++ "T" ++ time) r''
          | .cut f => .cut (f.within "date-time")
        | .back _ => .ok date r
        | .cut f => .cut (f.within "date-time")
      else .ok date r
    | [] => .ok date r
  | .back _ => (partialTime cs).mapFault (Fault.within "time")

/-- A date or time, a float or an integer: whichever reads first, in that order. -/
def numberOrDate (cs : List Char) : Step TomlValue :=
  match dateTime cs with
  | .ok t r => .ok (.datetime t) r
  | .cut f => .cut f
  | .back _ =>
    match float cs with
    | .ok x r => .ok (.float x) r
    | .cut f => .cut f
    | .back _ => (integer cs).map .int

end Proximity.Toml
