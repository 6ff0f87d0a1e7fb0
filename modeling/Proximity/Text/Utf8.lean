/-!
# UTF-8 bytes as text

`decodeLossy` reads bytes as UTF-8 and puts one replacement character `U+FFFD` in place
of each maximal part of an ill-formed sequence: a byte that cannot start a sequence, or a
start byte with the continuation bytes that still fitted before the sequence broke off.
`decode?` reads only well-formed bytes.
-/

namespace Proximity.Text

/-- The ranges the continuation bytes after a start byte must lie in, or none when the
byte cannot start a sequence of more than one byte. -/
def continuationRanges (b : Nat) : Option (List (Nat × Nat)) :=
  if 0xC2 ≤ b && b ≤ 0xDF then some [(0x80, 0xBF)]
  else if b == 0xE0 then some [(0xA0, 0xBF), (0x80, 0xBF)]
  else if b == 0xED then some [(0x80, 0x9F), (0x80, 0xBF)]
  else if 0xE1 ≤ b && b ≤ 0xEF then some [(0x80, 0xBF), (0x80, 0xBF)]
  else if b == 0xF0 then some [(0x90, 0xBF), (0x80, 0xBF), (0x80, 0xBF)]
  else if b == 0xF4 then some [(0x80, 0x8F), (0x80, 0xBF), (0x80, 0xBF)]
  else if 0xF1 ≤ b && b ≤ 0xF3 then some [(0x80, 0xBF), (0x80, 0xBF), (0x80, 0xBF)]
  else none

/-- The value bits a start byte contributes to its character. -/
def leadBits (b : Nat) : Nat :=
  if b < 0xE0 then b % 0x20 else if b < 0xF0 then b % 0x10 else b % 0x08

/-- Continuation bytes that fit their ranges: the value so far, how many fitted, and the
rest of the bytes. -/
def continuation : List (Nat × Nat) → List UInt8 → Nat → Nat × Bool × List UInt8
  | [], bs, v => (v, true, bs)
  | (lo, hi) :: more, b :: bs, v =>
    if lo ≤ b.toNat && b.toNat ≤ hi then continuation more bs (v * 64 + b.toNat % 64)
    else (v, false, b :: bs)
  | _ :: _, [], v => (v, false, [])

/-- One character from the front of the bytes, or none for an ill-formed part; and the
rest. -/
def nextChar : List UInt8 → Option (Option Char × List UInt8)
  | [] => none
  | b :: bs =>
    if b.toNat < 0x80 then some (some (Char.ofNat b.toNat), bs)
    else match continuationRanges b.toNat with
      | none => some (none, bs)
      | some ranges =>
        let (v, whole, rest) := continuation ranges bs (leadBits b.toNat)
        if whole then some (some (Char.ofNat v), rest) else some (none, rest)

/-- The characters of bytes, with `U+FFFD` for each ill-formed part, reversed onto `acc`. -/
def decodeInto : Nat → List UInt8 → List Char → List Char
  | 0, _, acc => acc
  | fuel + 1, bs, acc =>
    match nextChar bs with
    | none => acc
    | some (c, rest) => decodeInto fuel rest ((c.getD '\uFFFD') :: acc)

/-- Bytes read as UTF-8, ill-formed parts replaced. -/
def decodeLossy (bs : List UInt8) : String :=
  String.ofList (decodeInto (bs.length + 1) bs []).reverse

/-- Bytes read as UTF-8, when they are well-formed. -/
def decode? (bs : List UInt8) : Option String :=
  String.fromUTF8? (ByteArray.mk bs.toArray)

end Proximity.Text
