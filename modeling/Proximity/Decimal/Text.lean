import Proximity.Decimal.Shortest

/-!
# Writing decimals

A decimal `digits * 10^exp` is written positionally or in exponent form. `Layout` records
the choices of one output format: up to which size an integer is written out, how small
a fraction is still written with leading zeros, whether a whole number gets `.0`, and
whether exponent form is used at all. The texts of NaN and the infinities belong to the
format too.

The layouts used are `Layout.json64` and `Layout.json32`, for numbers in JSON text
(exponent form for large and small magnitudes, `.0` on whole numbers), `Layout.message64`,
the same with a `+` on positive exponents, for values quoted in messages, and
`Layout.plain`, which never uses an exponent and writes whole numbers bare.
-/

namespace Proximity.Decimal

/-- How a decimal is written. -/
structure Layout where
  /-- decimals with at most this many integer digits are written positionally -/
  maxIntegerDigits : Nat
  /-- fractions whose first significant digit is at most this many places after the
  point are written with leading zeros -/
  maxLeadingZeros : Nat
  /-- whether large and small values switch to exponent form -/
  exponentForm : Bool
  /-- whether a whole number is written with `.0` -/
  pointZero : Bool
  /-- whether a positive exponent is written with `+` -/
  exponentPlus : Bool := false
  nan : String
  infinity : String
  deriving Repr

/-- JSON numbers of 64-bit values. -/
def Layout.json64 : Layout := ⟨16, 4, true, true, false, "null", "null"⟩

/-- JSON numbers of 32-bit values. -/
def Layout.json32 : Layout := ⟨13, 5, true, true, false, "null", "null"⟩

/-- 64-bit values quoted in messages: as in JSON, but a positive exponent has its sign. -/
def Layout.message64 : Layout := ⟨16, 4, true, true, true, "NaN", "inf"⟩

/-- Plain decimals, never in exponent form. -/
def Layout.plain : Layout := ⟨0, 0, false, false, false, "NaN", "inf"⟩

/-- `n` zeros. -/
def zeros (n : Nat) : String := String.ofList (List.replicate n '0')

/-- A decimal with `digits` as its significant digits, written by the layout. -/
def Layout.render (l : Layout) (d : Dec) : String :=
  let ds := Nat.toDigits 10 d.digits
  let len : Int := ds.length
  let kk : Int := len + d.exp
  let text := String.ofList ds
  if d.digits == 0 then (if l.pointZero then "0.0" else "0")
  else if d.exp ≥ 0 && (!l.exponentForm || kk ≤ l.maxIntegerDigits) then
    text ++ zeros d.exp.toNat ++ (if l.pointZero then ".0" else "")
  else if 0 < kk && (!l.exponentForm || kk ≤ l.maxIntegerDigits) then
    String.ofList (ds.take kk.toNat) ++ "." ++ String.ofList (ds.drop kk.toNat)
  else if kk ≤ 0 && (!l.exponentForm || -kk ≤ l.maxLeadingZeros) then
    "0." ++ zeros (-kk).toNat ++ text
  else
    let e := (if l.exponentPlus && kk > 1 then "+" else "") ++ toString (kk - 1)
    match ds with
    | [c] => String.ofList [c] ++ "e" ++ e
    | c :: rest => String.ofList [c] ++ "." ++ String.ofList rest ++ "e" ++ e
    | [] => "0"

/-- A value given by its bits in a format, written by a layout. -/
def Layout.writeBits (l : Layout) (f : Format) (tie : Tie) (b : Nat) : String :=
  let sign := if f.signOf b then "-" else ""
  if f.isSpecial b then
    if f.fracField b == 0 then sign ++ l.infinity else l.nan
  else sign ++ l.render ((f.binaryOf b).shortest tie)

/-- A 64-bit value in JSON text. -/
def jsonFloat64 (x : Float) : String :=
  Layout.json64.writeBits .binary64 .toEven x.toBits.toNat

/-- A 32-bit value in JSON text. -/
def jsonFloat32 (x : Float32) : String :=
  Layout.json32.writeBits .binary32 .toEven x.toBits.toNat

/-- A 64-bit value as messages quote it. -/
def messageFloat64 (x : Float) : String :=
  Layout.message64.writeBits .binary64 .toEven x.toBits.toNat

/-- A 64-bit value as a plain decimal, ties of the last digit rounded up. -/
def plainFloat64 (x : Float) : String :=
  Layout.plain.writeBits .binary64 .up x.toBits.toNat

end Proximity.Decimal
