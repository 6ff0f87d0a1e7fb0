import Proximity.Json.Value
import Proximity.Json.Error

/-!
# Reading JSON text

A byte-level reader of JSON text (RFC 8259) that reports the first fault with its place.

* A fault is placed at the bytes read so far (`failHere`) or one byte further, when it
  was noticed by looking at the next byte (`failAhead`).
* Integers keep their kind: below `2^64` they are natural numbers, from `-2^63` to `-1`
  negative integers; every other number, `-0` included, is a 64-bit float. A float is
  built from its digits by one multiplication or division by a power of ten, so long
  fractions may round differently from the nearest float; a finite number too large for
  a float is an error.
* Strings must be valid: no control character, no unknown escape, no lone surrogate.
* Arrays and objects nest at most 127 deep.
* An object keeps one member per key, the last one written, in the order of the keys.

The reader is a state over a `Cursor` below an exception, so after a failure the cursor
still shows where reading stopped; the typed readers of `Json.Shape` rely on that.
-/

namespace Proximity.Json

/-- Where a reader stands: the bytes of the text, the offset of the next byte, and how
many more arrays or objects may open before the nesting limit. -/
structure Cursor where
  bytes : ByteArray
  pos : Nat := 0
  depth : Nat := 128

/-- A reader of JSON text. -/
abbrev Reader := ExceptT ReadError (StateM Cursor)

/-- The line and column of a byte offset: lines count from one, and the column is the
number of bytes after the last newline before the offset. -/
def lineColumn (bytes : ByteArray) (i : Nat) : Nat × Nat :=
  let (line, start) := (List.range i).foldl
    (fun (acc : Nat × Nat) j => if bytes[j]? == some 10 then (acc.1 + 1, j + 1) else acc)
    (1, 0)
  (line, i - start)

/-- The offset of the first byte at or after `i` that is not a blank (space, tab,
newline, carriage return). -/
def blankEnd (b : ByteArray) (i : Nat) : Nat :=
  if h : i < b.size then
    let x := b[i]
    if x == 32 || x == 10 || x == 9 || x == 13 then blankEnd b (i + 1) else i
  else i
termination_by b.size - i

/-- The offset of the first byte at or after `i` that is not an ASCII digit. -/
def digitEnd (b : ByteArray) (i : Nat) : Nat :=
  if h : i < b.size then
    let x := b[i]
    if 48 ≤ x && x ≤ 57 then digitEnd b (i + 1) else i
  else i
termination_by b.size - i

/-- A byte as a character, for matching on ASCII. -/
def byteChar (b : UInt8) : Char := Char.ofNat b.toNat

/-- The value of an ASCII digit byte. -/
def digitValue (b : UInt8) : Nat := b.toNat - 48

/-- Whether a byte is an ASCII digit. -/
def isDigitByte (b : UInt8) : Bool := 48 ≤ b && b ≤ 57

/-- Whether `acc * 10 + d` would exceed `limit`. -/
def overflows (acc d limit : Nat) : Bool :=
  acc ≥ limit / 10 && (acc > limit / 10 || d > limit % 10)

/-- The largest value of an unsigned 64-bit integer. -/
def u64Max : Nat := Nat.pow 2 64 - 1

/-- The largest value of a signed 32-bit integer. -/
def i32Max : Nat := Nat.pow 2 31 - 1

/-- Reads digits from `i` into `acc` while the value stays below `2^64`; gives the value,
the offset reached, the number of digits read, and whether it stopped before a digit that
would overflow. -/
def accumulate (b : ByteArray) (i acc count : Nat) : Nat × Nat × Nat × Bool :=
  if h : i < b.size then
    let x := b[i]
    if isDigitByte x then
      if overflows acc (digitValue x) u64Max then (acc, i, count, true)
      else accumulate b (i + 1) (acc * 10 + digitValue x) (count + 1)
    else (acc, i, count, false)
  else (acc, i, count, false)
termination_by b.size - i

/-- A 32-bit signed integer saturated at its bounds. -/
def saturate32 (n : Int) : Int := max (-(Int.pow 2 31)) (min (Int.pow 2 31 - 1) n)

/-- `10^k` as a float, for `k ≤ 308`. -/
def pow10 (k : Nat) : Float := Float.ofScientific 1 false k

namespace Reader

/-- The next byte, if any, without reading it. -/
def peek : Reader (Option UInt8) := do
  let c ← get
  pure c.bytes[c.pos]?

/-- Counts the next byte as read. -/
def bump : Reader Unit := modify fun c => { c with pos := c.pos + 1 }

/-- Reads the next byte, if any. -/
def next : Reader (Option UInt8) := do
  let b ← peek
  if b.isSome then bump
  pure b

/-- Fails at the bytes read so far. -/
def failHere (code : ErrorCode) : Reader α := do
  let c ← get
  let (line, column) := lineColumn c.bytes c.pos
  throw { code, line, column }

/-- Fails one byte further than the bytes read so far (but not past the end). -/
def failAhead (code : ErrorCode) : Reader α := do
  let c ← get
  let (line, column) := lineColumn c.bytes (min c.bytes.size (c.pos + 1))
  throw { code, line, column }

/-- Gives an error that has no place yet the place where reading stopped. -/
def placed (r : Reader α) : Reader α :=
  tryCatch r fun e => do
    if e.line == 0 then
      let c ← get
      let (line, column) := lineColumn c.bytes c.pos
      throw { e with line, column }
    else throw e

/-- Runs a reader and hands back its outcome, keeping the cursor where it stopped. -/
def attempt (r : Reader α) : Reader (Except ReadError α) :=
  tryCatch (Except.ok <$> r) fun e => pure (.error e)

/-- Skips blanks and shows the next byte. -/
def skipBlank : Reader (Option UInt8) := do
  modify fun c => { c with pos := blankEnd c.bytes c.pos }
  peek

/-- Reads the rest of a literal name such as the `ull` of `null`. -/
def ident (rest : String) : Reader Unit :=
  rest.toUTF8.toList.forM fun expected => do
    match ← next with
    | none => failHere .eofWhileParsingValue
    | some b => if b != expected then failHere .expectedSomeIdent

/-- Enters an array or object: fails when the nesting limit is reached, else runs the
body one level deeper. -/
def nested (body : Reader α) : Reader α := do
  let c ← get
  if c.depth ≤ 1 then
    set { c with depth := 0 }
    failAhead .recursionLimitExceeded
  else
    set { c with depth := c.depth - 1 }
    let r ← attempt body
    modify fun c => { c with depth := c.depth + 1 }
    match r with
    | .ok v => pure v
    | .error e => throw e

/-! ## Numbers -/

/-- The float `±significand · 10^exponent`, by one multiplication or division by a power
of ten; a finite value too large for a float is an error. -/
def fromParts (positive : Bool) (significand : Nat) (exponent : Int) : Reader Float :=
  let rec go (f : Float) (exponent : Int) : Nat → Reader Float
    | 0 => pure f
    | fuel + 1 =>
      if exponent.natAbs ≤ 308 then
        if exponent ≥ 0 then
          let g := f * pow10 exponent.natAbs
          if g.isInf then failHere .numberOutOfRange else pure g
        else pure (f / pow10 exponent.natAbs)
      else if f == 0 then pure f
      else if exponent ≥ 0 then failHere .numberOutOfRange
      else go (f / pow10 308) (exponent + 308) fuel
  do
    let f ← go (Float.ofNat significand) exponent 8
    pure (if positive then f else -f)

/-- Skips the digits at the cursor. -/
def skipDigits : Reader Unit := modify fun c => { c with pos := digitEnd c.bytes c.pos }

/-- Reads an exponent (the cursor is at `e` or `E`) and finishes the float. -/
def exponentPart (positive : Bool) (significand : Nat) (start : Int) : Reader Float := do
  bump
  let positiveExp ← do
    match ← peek with
    | some 43 => bump; pure true
    | some 45 => bump; pure false
    | _ => pure true
  match ← next with
  | none => failHere .eofWhileParsingValue
  | some d =>
    if !isDigitByte d then failHere .invalidNumber
    else
      let c ← get
      let rec digits (i exp : Nat) (fuel : Nat) : Option Nat × Nat :=
        match fuel with
        | 0 => (some exp, i)
        | fuel + 1 =>
          match c.bytes[i]? with
          | some x =>
            if isDigitByte x then
              if overflows exp (digitValue x) i32Max then (none, i + 1)
              else digits (i + 1) (exp * 10 + digitValue x) fuel
            else (some exp, i)
          | none => (some exp, i)
      let (exp?, stop) := digits c.pos (digitValue d) (c.bytes.size - c.pos)
      set { c with pos := stop }
      match exp? with
      | some exp =>
        let final := saturate32 (if positiveExp then start + exp else start - exp)
        fromParts positive significand final
      | none =>
        if significand != 0 && positiveExp then failHere .numberOutOfRange
        else
          skipDigits
          pure (if positive then 0.0 else -0.0)

/-- Reads a fraction (the cursor is at `.`) and finishes the float. -/
def fractionPart (positive : Bool) (significand : Nat) (start : Int) : Reader Float := do
  bump
  let c ← get
  let (sig, stop, count, overflowed) := accumulate c.bytes c.pos significand 0
  set { c with pos := stop }
  let exponent := start - count
  if overflowed then
    skipDigits
    match ← peek with
    | some 101 | some 69 => exponentPart positive sig exponent
    | _ => fromParts positive sig exponent
  else if count == 0 then
    match ← peek with
    | some _ => failAhead .invalidNumber
    | none => failAhead .eofWhileParsingValue
  else
    match ← peek with
    | some 101 | some 69 => exponentPart positive sig exponent
    | _ => fromParts positive sig exponent

/-- What follows the integer digits of a number that fit in 64 bits. -/
def numberTail (positive : Bool) (significand : Nat) : Reader Json := do
  match ← peek with
  | some 46 => .float <$> fractionPart positive significand 0
  | some 101 | some 69 => .float <$> exponentPart positive significand 0
  | _ =>
    if positive then pure (.nat significand)
    else if significand == 0 || significand > Nat.pow 2 63 then
      pure (.float (-(Float.ofNat significand)))
    else pure (.neg (-(significand : Int)))

/-- Reads a number after its sign. -/
def integer (positive : Bool) : Reader Json := do
  match ← next with
  | none => failHere .eofWhileParsingValue
  | some b =>
    if b == 48 then
      match ← peek with
      | some d => if isDigitByte d then failAhead .invalidNumber else numberTail positive 0
      | none => numberTail positive 0
    else if isDigitByte b then
      let c ← get
      let (sig, stop, _, overflowed) := accumulate c.bytes c.pos (digitValue b) 0
      set { c with pos := stop }
      if overflowed then
        -- digits beyond 64 bits only scale the value
        let c ← get
        let stop := digitEnd c.bytes c.pos
        set { c with pos := stop }
        let exponent : Int := stop - c.pos
        match ← peek with
        | some 46 => .float <$> fractionPart positive sig exponent
        | some 101 | some 69 => .float <$> exponentPart positive sig exponent
        | _ => .float <$> fromParts positive sig exponent
      else numberTail positive sig
    else failHere .invalidNumber

/-! ## Strings -/

/-- Reads four hexadecimal digits. -/
def hexQuad : Reader Nat := do
  let c ← get
  if c.pos + 4 ≤ c.bytes.size then
    set { c with pos := c.pos + 4 }
    let digit (i : Nat) : Option Nat :=
      match c.bytes[c.pos + i]? with
      | some x =>
        if 48 ≤ x && x ≤ 57 then some (x.toNat - 48)
        else if 97 ≤ x && x ≤ 102 then some (x.toNat - 87)
        else if 65 ≤ x && x ≤ 70 then some (x.toNat - 55)
        else none
      | none => none
    match digit 0, digit 1, digit 2, digit 3 with
    | some a, some b, some d, some e => pure (((a * 16 + b) * 16 + d) * 16 + e)
    | _, _, _, _ => failHere .invalidEscape
  else
    set { c with pos := c.bytes.size }
    failHere .eofWhileParsingString

/-- The UTF-8 bytes of a code point. -/
def utf8 (n : Nat) : ByteArray := (String.singleton (Char.ofNat n)).toUTF8

/-- Reads a `\u` escape; a surrogate must be a leading one followed by a `\u` escape of a
trailing one. -/
def unicodeEscape (acc : ByteArray) : Reader ByteArray := do
  let n ← hexQuad
  if 0xDC00 ≤ n && n ≤ 0xDFFF then failHere .loneLeadingSurrogateInHexEscape
  else if n < 0xD800 || n > 0xDBFF then pure (acc ++ utf8 n)
  else
    match ← peek with
    | none => failHere .eofWhileParsingString
    | some 92 => bump
    | some _ => bump; failHere .unexpectedEndOfHexEscape
    match ← peek with
    | none => failHere .eofWhileParsingString
    | some 117 => bump
    | some _ => bump; failHere .unexpectedEndOfHexEscape
    let n2 ← hexQuad
    if n2 < 0xDC00 || n2 > 0xDFFF then failHere .loneLeadingSurrogateInHexEscape
    else pure (acc ++ utf8 ((n - 0xD800) * 0x400 + (n2 - 0xDC00) + 0x10000))

/-- Reads an escape after its backslash. -/
def escape (acc : ByteArray) : Reader ByteArray := do
  match ← next with
  | none => failHere .eofWhileParsingString
  | some e =>
    match byteChar e with
    | '"' => pure (acc.push 34)
    | '\\' => pure (acc.push 92)
    | '/' => pure (acc.push 47)
    | 'b' => pure (acc.push 8)
    | 'f' => pure (acc.push 12)
    | 'n' => pure (acc.push 10)
    | 'r' => pure (acc.push 13)
    | 't' => pure (acc.push 9)
    | 'u' => unicodeEscape acc
    | _ => failHere .invalidEscape

/-- Reads the contents of a string up to and including its closing quote. -/
def stringBody (acc : ByteArray) : Nat → Reader ByteArray
  | 0 => failHere .eofWhileParsingString
  | fuel + 1 => do
    match ← next with
    | none => failHere .eofWhileParsingString
    | some b =>
      if b == 34 then pure acc
      else if b == 92 then
        let acc ← escape acc
        stringBody acc fuel
      else if b < 32 then failHere .controlCharacterWhileParsingString
      else stringBody (acc.push b) fuel

/-- Reads a string after its opening quote. -/
def string : Reader String := do
  let c ← get
  let bytes ← stringBody ByteArray.empty (c.bytes.size - c.pos + 1)
  match String.fromUTF8? bytes with
  | some s => pure s
  | none => failHere .invalidUnicodeCodePoint

/-! ## Skipping a value -/

/-- Skips an escape after its backslash; any `\u` escape is accepted. -/
def skipEscape : Reader Unit := do
  match ← next with
  | none => failHere .eofWhileParsingString
  | some e =>
    match byteChar e with
    | '"' | '\\' | '/' | 'b' | 'f' | 'n' | 'r' | 't' => pure ()
    | 'u' => discard hexQuad
    | _ => failHere .invalidEscape

/-- Skips the contents of a string up to and including its closing quote. -/
def skipStringBody : Nat → Reader Unit
  | 0 => failHere .eofWhileParsingString
  | fuel + 1 => do
    match ← peek with
    | none => failHere .eofWhileParsingString
    | some b =>
      if b == 34 then bump
      else if b == 92 then
        bump
        skipEscape
        skipStringBody fuel
      else if b < 32 then failHere .controlCharacterWhileParsingString
      else
        bump
        skipStringBody fuel

/-- Skips a string after its opening quote. -/
def skipString : Reader Unit := do
  let c ← get
  skipStringBody (c.bytes.size - c.pos + 1)

/-- Skips an exponent (the cursor is at `e` or `E`). -/
def skipExponent : Reader Unit := do
  bump
  match ← peek with
  | some 43 | some 45 => bump
  | _ => pure ()
  match ← next with
  | some d => if isDigitByte d then skipDigits else failHere .invalidNumber
  | none => failHere .invalidNumber

/-- Skips a number after its sign. -/
def skipNumber : Reader Unit := do
  match ← next with
  | some 48 =>
    match ← peek with
    | some d => if isDigitByte d then failAhead .invalidNumber else pure ()
    | none => pure ()
  | some d => if isDigitByte d && d != 48 then skipDigits else failHere .invalidNumber
  | none => failHere .invalidNumber
  match ← peek with
  | some 46 =>
    bump
    let c ← get
    let stop := digitEnd c.bytes c.pos
    if stop == c.pos then failAhead .invalidNumber
    else
      set { c with pos := stop }
      match ← peek with
      | some 101 | some 69 => skipExponent
      | _ => pure ()
  | some 101 | some 69 => skipExponent
  | _ => pure ()

/-- Skips one scalar or opens an array or object; gives the opening byte of a container. -/
def skipScalar : Reader (Option UInt8) := do
  match ← skipBlank with
  | none => failAhead .eofWhileParsingValue
  | some b =>
    match byteChar b with
    | 'n' => bump; ident "ull"; pure none
    | 't' => bump; ident "rue"; pure none
    | 'f' => bump; ident "alse"; pure none
    | '-' => bump; skipNumber; pure none
    | '"' => bump; skipString; pure none
    | '[' => bump; pure (some 91)
    | '{' => bump; pure (some 123)
    | _ => if isDigitByte b then do skipNumber; pure none else failAhead .expectedSomeValue

/-- Closes finished containers after a value: `frames` holds the open containers, innermost
first, and `comma` tells whether a value was just read. Gives the open containers once a
new value is due, or none when the outermost one closed. -/
def closeFrames (frames : List UInt8) (comma : Bool) : Nat → Reader (Option (List UInt8))
  | 0 => pure none
  | fuel + 1 => do
    match frames with
    | [] => pure none
    | frame :: outer =>
      match ← skipBlank with
      | some 44 =>
        if comma then bump
        pure (some frames)
      | some b =>
        if (b == 93 && frame == 91) || (b == 125 && frame == 123) then
          bump
          if outer.isEmpty then pure none else closeFrames outer true fuel
        else if comma then
          failAhead (if frame == 91 then .expectedListCommaOrEnd else .expectedObjectCommaOrEnd)
        else pure (some frames)
      | none =>
        failAhead (if frame == 91 then .eofWhileParsingList else .eofWhileParsingObject)

/-- Before a value inside an object: its key and colon. -/
def skipKey : Reader Unit := do
  match ← skipBlank with
  | some 34 => bump
  | some _ => failAhead .keyMustBeAString
  | none => failAhead .eofWhileParsingValue
  skipString
  match ← skipBlank with
  | some 58 => bump
  | some _ => failAhead .expectedColon
  | none => failAhead .eofWhileParsingObject

/-- Skips values until every container opened so far is closed. -/
def skipLoop (frames : List UInt8) : Nat → Reader Unit
  | 0 => pure ()
  | fuel + 1 => do
    match frames with
    | frame :: _ => if frame == 123 then skipKey
    | [] => pure ()
    match ← skipScalar with
    | some opened =>
      match ← closeFrames (opened :: frames) false (frames.length + 2) with
      | some open_ => skipLoop open_ fuel
      | none => pure ()
    | none =>
      if frames.isEmpty then pure ()
      else
        match ← closeFrames frames true (frames.length + 1) with
        | some open_ => skipLoop open_ fuel
        | none => pure ()

/-- Skips one value of any shape, checking only that it is JSON. -/
def skipValue : Reader Unit := do
  let c ← get
  skipLoop [] (c.bytes.size - c.pos + 1)

/-! ## Values -/

/-- Reads the colon between a key and its value. -/
def colon : Reader Unit := do
  match ← skipBlank with
  | some 58 => bump
  | some _ => failAhead .expectedColon
  | none => failAhead .eofWhileParsingObject

/-- Reads the closing bracket of an array. -/
def endArray : Reader Unit := do
  match ← skipBlank with
  | some 93 => bump
  | some 44 =>
    bump
    match ← skipBlank with
    | some 93 => failAhead .trailingComma
    | _ => failAhead .trailingCharacters
  | some _ => failAhead .trailingCharacters
  | none => failAhead .eofWhileParsingList

/-- Reads the closing brace of an object. -/
def endObject : Reader Unit := do
  match ← skipBlank with
  | some 125 => bump
  | some 44 => failAhead .trailingComma
  | some _ => failAhead .trailingCharacters
  | none => failAhead .eofWhileParsingObject

mutual

/-- Reads one value. -/
def value : Nat → Reader Json
  | 0 => failAhead .eofWhileParsingValue
  | fuel + 1 => do
    match ← skipBlank with
    | none => failAhead .eofWhileParsingValue
    | some b =>
      match byteChar b with
      | 'n' => bump; ident "ull"; pure .null
      | 't' => bump; ident "rue"; pure (.bool true)
      | 'f' => bump; ident "alse"; pure (.bool false)
      | '-' => bump; integer false
      | '"' => bump; .str <$> string
      | '[' =>
        let r ← attempt (nested (do bump; items fuel true []))
        let closed ← attempt endArray
        match r, closed with
        | .ok v, .ok () => pure (.arr v)
        | .error e, _ => throw e
        | _, .error e => throw e
      | '{' =>
        let r ← attempt (nested (do bump; members fuel true []))
        let closed ← attempt endObject
        match r, closed with
        | .ok v, .ok () => pure (.obj (normalizeMembers v))
        | .error e, _ => throw e
        | _, .error e => throw e
      | _ => if isDigitByte b then integer true else failAhead .expectedSomeValue

/-- Reads the items of an array up to (not including) its closing bracket. -/
def items : Nat → Bool → List Json → Reader (List Json)
  | 0, _, acc => pure acc.reverse
  | fuel + 1, first, acc => do
    let ahead ← do
      match ← skipBlank with
      | some 93 => pure none
      | some 44 =>
        if first then failAhead .expectedSomeValue
        else
          bump
          pure (some (← skipBlank))
      | some b => if first then pure (some (some b)) else failAhead .expectedListCommaOrEnd
      | none => failAhead .eofWhileParsingList
    match ahead with
    | none => pure acc.reverse
    | some (some 93) => failAhead .trailingComma
    | some (some _) =>
      let v ← value fuel
      items fuel false (v :: acc)
    | some none => failAhead .eofWhileParsingValue

/-- Reads the members of an object up to (not including) its closing brace. -/
def members : Nat → Bool → List (String × Json) → Reader (List (String × Json))
  | 0, _, acc => pure acc.reverse
  | fuel + 1, first, acc => do
    let ahead ← do
      match ← skipBlank with
      | some 125 => pure none
      | some 44 =>
        if first then failAhead .keyMustBeAString
        else
          bump
          pure (some (← skipBlank))
      | some b => if first then pure (some (some b)) else failAhead .expectedObjectCommaOrEnd
      | none => failAhead .eofWhileParsingObject
    match ahead with
    | none => pure acc.reverse
    | some (some 34) =>
      bump
      let k ← string
      colon
      let v ← value fuel
      members fuel false ((k, v) :: acc)
    | some (some 125) => failAhead .trailingComma
    | some (some _) => failAhead .keyMustBeAString
    | some none => failAhead .eofWhileParsingValue

end

/-- Checks that only blanks follow a document. -/
def finish : Reader Unit := do
  match ← skipBlank with
  | none => pure ()
  | some _ => failAhead .trailingCharacters

/-- Runs a reader over a whole text: after it only blanks may follow. -/
def runText (r : Reader α) (text : String) : Except ReadError α :=
  let run : Reader α := do
    let v ← r
    finish
    pure v
  (run.run.run { bytes := text.toUTF8 }).1

/-- A budget of steps large enough for any reader over this text. -/
def budget (text : String) : Nat := text.utf8ByteSize + 2

end Reader

/-- Reads a JSON document. -/
def parse (text : String) : Except ReadError Json :=
  Reader.runText (Reader.value (Reader.budget text)) text

end Proximity.Json
