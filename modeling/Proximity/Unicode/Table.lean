/-!
# Code point tables

Character properties from the Unicode character database are kept as text, one table a
string: a comma-separated list of entries in ascending order of code point. An entry
starts with a code point, or a range `first-last`, in lower-case hexadecimal, and what
follows it (its tail) is the value the table gives those code points:

* nothing, in a table that is a set of code points;
* `:` and a value, such as a combining class or a bidirectional class;
* `=` and code points separated by blanks: what the code point maps to;
* `+d` or `-d` after a range: each code point maps to itself moved by `d`;
* `~+d` or `~-d` after a range: every second code point from the first maps to itself
  moved by `d`, and the ones between keep their own value;
* a capital letter, a status of the table's own.

`Span.find?` looks a code point up by halving, so a table is read once into an array of
spans and then searched.
-/

namespace Proximity.Unicode

/-- The value of lower-case hexadecimal digits; other characters count as zero. -/
def hexValue (s : String) : Nat :=
  s.foldl (fun n c =>
    let d := if '0' ≤ c && c ≤ '9' then c.toNat - '0'.toNat
      else if 'a' ≤ c && c ≤ 'f' then c.toNat - 'a'.toNat + 10 else 0
    16 * n + d) 0

/-- Whether a character is a lower-case hexadecimal digit. -/
def isHexDigit (c : Char) : Bool := ('0' ≤ c && c ≤ '9') || ('a' ≤ c && c ≤ 'f')

/-- A range of code points, both ends included, with the tail of its entry. -/
structure Span where
  first : Nat
  last : Nat
  tail : String
  deriving Repr, Inhabited

/-- Reads one entry: its code point or range, then its tail. -/
def Span.ofEntry (entry : String) : Span :=
  let cs := entry.toList
  let first := cs.takeWhile isHexDigit
  let rest := cs.drop first.length
  match rest with
  | '-' :: more =>
    let last := more.takeWhile isHexDigit
    if last.isEmpty then ⟨hexValue (String.ofList first), hexValue (String.ofList first), String.ofList rest⟩
    else ⟨hexValue (String.ofList first), hexValue (String.ofList last), String.ofList (more.drop last.length)⟩
  | _ => ⟨hexValue (String.ofList first), hexValue (String.ofList first), String.ofList rest⟩

/-- The spans of a table, in its order. -/
def spans (table : String) : Array Span :=
  ((table.splitOn ",").filter (!·.isEmpty)).toArray.map Span.ofEntry

/-- The span of a sorted array that holds a code point, found by halving: the last span
starting at or below it, if that one reaches it. -/
def Span.find? (a : Array Span) (n : Nat) : Option Span :=
  let rec go (lo hi : Nat) : Option Span :=
    if _h : lo < hi then
      match a[(lo + hi) / 2]? with
      | some s => if s.first ≤ n then go ((lo + hi) / 2 + 1) hi else go lo ((lo + hi) / 2)
      | none => none
    else
      match a[lo - 1]? with
      | some s => if lo > 0 && s.first ≤ n && n ≤ s.last then some s else none
      | none => none
  termination_by hi - lo
  go 0 a.size

/-- Whether a code point lies in a table that is a set. -/
def Span.mem (a : Array Span) (n : Nat) : Bool := (Span.find? a n).isSome

/-- The code points after `=` in a tail. -/
def codePoints (tail : String) : List Nat :=
  ((tail.drop 1).toString.splitOn " ").filter (!·.isEmpty) |>.map hexValue

/-- What a span maps a code point in it to, by its tail: none when the tail gives no
mapping for that code point. -/
def Span.mapping (s : Span) (n : Nat) : Option (List Nat) :=
  match s.tail.toList with
  | '=' :: _ => some (codePoints s.tail)
  | '+' :: d => some [n + hexValue (String.ofList d)]
  | '-' :: d => some [n - hexValue (String.ofList d)]
  | '~' :: '+' :: d => if (n - s.first) % 2 == 0 then some [n + hexValue (String.ofList d)] else none
  | '~' :: '-' :: d => if (n - s.first) % 2 == 0 then some [n - hexValue (String.ofList d)] else none
  | _ => none

end Proximity.Unicode
