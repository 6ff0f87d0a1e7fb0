/-!
# Shortest decimals of binary floating-point values

A finite binary floating-point value `m * 2^q` stands for every real that rounds to it
under round-to-nearest, ties to even: the interval from halfway to the neighbour below to
halfway to the neighbour above, both ends included exactly when `m` is even. Below a
power of two the neighbour below is half as far away as the one above.

`shortest` returns a decimal `digits * 10^exp` in that interval with as few significant
digits as possible; among the candidates of that length it takes the one nearest the
value, and an exact tie between two candidates is settled by the caller's `Tie`. All
comparisons are exact, on natural numbers.

The same function serves 64-bit and 32-bit values; `Format` holds the widths of their
fields.
-/

namespace Proximity.Decimal

/-- A finite non-negative binary value `m * 2^q`. -/
structure Binary where
  m : Nat
  q : Int
  /-- the gap to the value below is half the gap to the value above -/
  narrowBelow : Bool
  deriving Repr, DecidableEq

/-- The field widths of a binary interchange format. -/
structure Format where
  fracBits : Nat
  expBits : Nat
  deriving Repr, DecidableEq

/-- 64-bit values: 52 fraction bits and 11 exponent bits. -/
def Format.binary64 : Format := ⟨52, 11⟩

/-- 32-bit values: 23 fraction bits and 8 exponent bits. -/
def Format.binary32 : Format := ⟨23, 8⟩

/-- The exponent bias of a format. -/
def Format.bias (f : Format) : Nat := Nat.pow 2 (f.expBits - 1) - 1

/-- The sign of a value's bits. -/
def Format.signOf (f : Format) (b : Nat) : Bool := (b / Nat.pow 2 (f.fracBits + f.expBits)) % 2 == 1

/-- The exponent field of a value's bits. -/
def Format.expField (f : Format) (b : Nat) : Nat := (b / Nat.pow 2 f.fracBits) % Nat.pow 2 f.expBits

/-- The fraction field of a value's bits. -/
def Format.fracField (f : Format) (b : Nat) : Nat := b % Nat.pow 2 f.fracBits

/-- Whether the bits are a NaN or an infinity. -/
def Format.isSpecial (f : Format) (b : Nat) : Bool := f.expField b == Nat.pow 2 f.expBits - 1

/-- The magnitude of finite bits. -/
def Format.binaryOf (f : Format) (b : Nat) : Binary :=
  let e := f.expField b
  let frac := f.fracField b
  if e == 0 then ⟨frac, (1 : Int) - f.bias - f.fracBits, false⟩
  else ⟨Nat.pow 2 f.fracBits + frac, (e : Int) - f.bias - f.fracBits, frac == 0 && e > 1⟩

/-- `digits * 10^exp` -/
structure Dec where
  digits : Nat
  exp : Int
  deriving Repr, DecidableEq

/-- How an exact tie between two candidates of the same length is settled. -/
inductive Tie where
  | toEven
  | up
  deriving Repr, DecidableEq

/-- Compare `a * 10^i` with `n * 2^j`, exactly. -/
def cmpScaled (a : Nat) (i : Int) (n : Nat) (j : Int) : Ordering :=
  compare (a * Nat.pow 10 i.toNat * Nat.pow 2 (-j).toNat) (n * Nat.pow 2 j.toNat * Nat.pow 10 (-i).toNat)

/-- The decimal lies among the reals that round to the value. -/
def Binary.readsBack (x : Binary) (d : Dec) : Bool :=
  let lo := if x.narrowBelow then 4 * x.m - 1 else 4 * x.m - 2
  let hi := 4 * x.m + 2
  let incl := x.m % 2 == 0
  let cl := cmpScaled d.digits d.exp lo (x.q - 2)
  let ch := cmpScaled d.digits d.exp hi (x.q - 2)
  (cl == .gt || (incl && cl == .eq)) && (ch == .lt || (incl && ch == .eq))

/-- The value as a fraction `num / den` of naturals. -/
def Binary.num (x : Binary) : Nat := x.m * Nat.pow 2 x.q.toNat
def Binary.den (x : Binary) : Nat := Nat.pow 2 (-x.q).toNat

/-- The value is below `10^k`. -/
def Binary.below (x : Binary) (k : Int) : Bool :=
  cmpScaled 1 k x.m x.q == .gt

/-- The least `k` with the value below `10^k`, searched upward from `k`. -/
def Binary.scaleUp (x : Binary) (k : Int) : Nat → Int
  | 0 => k
  | fuel + 1 => if x.below k then k else x.scaleUp (k + 1) fuel

/-- The least `k` with the value below `10^k`, for a positive value: an estimate from the
binary logarithm, lowered until the value is no longer below `10^(k-1)`. -/
def Binary.scale (x : Binary) : Int :=
  let e : Int := (Nat.log2 x.m : Int) + x.q
  let est : Int := (e * 30103).fdiv 100000 - 1
  let rec down (k : Int) : Nat → Int
    | 0 => k
    | fuel + 1 => if x.below (k - 1) then down (k - 1) fuel else k
  x.scaleUp (down est 4) 8

/-- `⌊value / 10^g⌋` -/
def Binary.floorScaled (x : Binary) (g : Int) : Nat :=
  if g ≥ 0 then x.num / (x.den * Nat.pow 10 g.toNat) else x.num * Nat.pow 10 (-g).toNat / x.den

/-- Compare `s * 10^g` with twice the value. -/
def Binary.cmpTwice (x : Binary) (s : Nat) (g : Int) : Ordering :=
  cmpScaled s g (2 * x.m) x.q

/-- Of two candidates on the grid `10^g`, the one to keep. -/
def Binary.pick (x : Binary) (tie : Tie) (c : Nat) (g : Int) : Option Nat :=
  let lo := x.readsBack ⟨c, g⟩
  let hi := x.readsBack ⟨c + 1, g⟩
  if lo && hi then
    -- the midpoint of the two candidates against the value
    match x.cmpTwice (2 * c + 1) g with
    | .gt => some c
    | .lt => some (c + 1)
    | .eq => match tie with
      | .toEven => if c % 2 == 0 then some c else some (c + 1)
      | .up => some (c + 1)
  else if lo then some c
  else if hi then some (c + 1)
  else none

/-- Trailing zeros of the digits moved into the exponent. -/
def Dec.strip : Dec → Nat → Dec
  | d, 0 => d
  | d, fuel + 1 =>
    if d.digits != 0 && d.digits % 10 == 0 then Dec.strip ⟨d.digits / 10, d.exp + 1⟩ fuel else d

/-- The search over grids of one, two, … significant digits. -/
def Binary.search (x : Binary) (tie : Tie) (k : Int) : Nat → Nat → Option Dec
  | _, 0 => none
  | n, fuel + 1 =>
    let g := k - n
    match x.pick tie (x.floorScaled g) g with
    | some c => some ⟨c, g⟩
    | none => x.search tie k (n + 1) fuel

/-- The exact decimal value of `m * 2^q`, used only if no shorter decimal is found. -/
def Binary.exact (x : Binary) : Dec :=
  if x.q ≥ 0 then ⟨x.num, 0⟩ else ⟨x.m * Nat.pow 5 (-x.q).toNat, x.q⟩

/-- The shortest decimal that reads back as the value, nearest among those of its length. -/
def Binary.shortest (x : Binary) (tie : Tie) : Dec :=
  if x.m == 0 then ⟨0, 0⟩
  else
    let d := (x.search tie x.scale 1 17).getD x.exact
    d.strip 400

/-- The decimal digits of a natural number, most significant first. -/
def digitsOf (n : Nat) : List Char :=
  (Nat.toDigits 10 n)

end Proximity.Decimal
