/-!
# Punycode

The bootstring encoding of RFC 3492 with the parameters of IDNA: base 36, `tmin` 1,
`tmax` 26, skew 38, damp 700, initial bias 72 and initial code point 128.

`encode` writes a label's ASCII characters, a `-` when there are any, and then the other
code points as variable-length deltas in ascending order of code point. `decode` reads
that form back. It fails, as a decoder with 32-bit counters does, when a digit is not a
letter or a digit, when the text ends inside a delta, when a counter would pass
`2^32 - 1`, when the part before the last `-` is not ASCII, or when a decoded code point
is not a character.
-/

namespace Proximity.Url.Punycode

/-- The digit of a value below 36: `a` to `z`, then `0` to `9`. -/
def digitChar (d : Nat) : Char :=
  if d < 26 then Char.ofNat (d + 97) else Char.ofNat (d - 26 + 48)

/-- The value of a digit: letters in either case, then decimal digits. -/
def digitValue? (c : Char) : Option Nat :=
  let n := c.toNat
  if 0x61 ≤ n && n ≤ 0x7A then some (n - 0x61)
  else if 0x41 ≤ n && n ≤ 0x5A then some (n - 0x41)
  else if 0x30 ≤ n && n ≤ 0x39 then some (n - 0x30 + 26)
  else none

/-- The threshold of the digit at position `k`. -/
def threshold (k bias : Nat) : Nat :=
  if k ≤ bias then 1 else if k ≥ bias + 26 then 26 else k - bias

/-- The bias adaptation after a delta, with `numPoints` code points handled so far. -/
def adapt (delta numPoints : Nat) (first : Bool) : Nat :=
  let delta := if first then delta / 700 else delta / 2
  let delta := delta + delta / numPoints
  let rec go (delta k : Nat) : Nat → Nat
    | 0 => k
    | fuel + 1 => if delta > 455 then go (delta / 35) (k + 36) fuel else k + 36 * delta / (delta + 38)
  go delta 0 16

/-- The digits that write a delta with a bias. -/
def deltaDigits (q bias : Nat) : List Char :=
  let rec go (q k : Nat) : Nat → List Char
    | 0 => []
    | fuel + 1 =>
      let t := threshold k bias
      if q < t then [digitChar q]
      else digitChar (t + (q - t) % (36 - t)) :: go ((q - t) / (36 - t)) (k + 36) fuel
  go q 36 64

/-- The encoded form of a label, without the `xn--` that marks it in a domain. -/
def encode (label : List Char) : String :=
  let codes := label.map Char.toNat
  let basic := label.filter fun c => c.toNat < 0x80
  let b := basic.length
  let out0 := basic ++ (if b > 0 then ['-'] else [])
  let rec go (n delta bias h : Nat) (out : List Char) : Nat → List Char
    | 0 => out
    | fuel + 1 =>
      if h ≥ codes.length then out
      else
        let m := (codes.filter (· ≥ n)).foldl min 0x110000
        let delta := delta + (m - n) * (h + 1)
        let (delta, bias, h, out) := codes.foldl (fun (acc : Nat × Nat × Nat × List Char) c =>
          let (delta, bias, h, out) := acc
          if c < m then (delta + 1, bias, h, out)
          else if c == m then
            (0, adapt delta (h + 1) (h == b), h + 1, out ++ deltaDigits delta bias)
          else (delta, bias, h, out)) (delta, bias, h, out)
        go (m + 1) (delta + 1) bias h out fuel
  String.ofList (go 0x80 0 72 b out0 (codes.length + 1))

/-- The largest value of a 32-bit counter. -/
def counterMax : Nat := Nat.pow 2 32 - 1

/-- Reads one delta, adding it to `i` with weight `w` from position `k`: the new `i` and
the rest of the text, or none when a digit is bad, a counter overflows or the text ends
inside the delta. -/
def readDelta (bias : Nat) : List Char → Nat → Nat → Nat → Option (Nat × List Char)
  | [], _, _, _ => none
  | c :: rest, k, w, i =>
    match digitValue? c with
    | none => none
    | some d =>
      if d > (counterMax - i) / w then none
      else
        let i := i + d * w
        let t := threshold k bias
        if d < t then some (i, rest)
        else if w > counterMax / (36 - t) then none
        else readDelta bias rest (k + 36) (w * (36 - t)) i

/-- Reads the deltas after the basic part, inserting each decoded code point into `out`. -/
def decodeLoop (bias n i : Nat) (out : List Char) : Nat → List Char → Option (List Char)
  | _, [] => some out
  | 0, _ :: _ => none
  | fuel + 1, c :: cs =>
    match readDelta bias (c :: cs) 36 1 i with
    | none => none
    | some (i', rest) =>
      let len := out.length + 1
      let n' := n + i' / len
      if n' > counterMax || !n'.isValidChar then none
      else
        let pos := i' % len
        decodeLoop (adapt (i' - i) len (i == 0)) n' (pos + 1) (out.insertIdx pos (Char.ofNat n'))
          fuel rest

/-- Decodes a label's encoded form (without `xn--`). -/
def decode (input : List Char) : Option (List Char) :=
  let (basic, deltas) := match input.reverse.span (· != '-') with
    | (tail, []) => ([], tail.reverse)
    | (tail, _ :: head) => (head.reverse, tail.reverse)
  if basic.any (fun c => c.toNat ≥ 0x80) then none
  else decodeLoop 72 0x80 0 basic (deltas.length + 1) deltas

end Proximity.Url.Punycode
