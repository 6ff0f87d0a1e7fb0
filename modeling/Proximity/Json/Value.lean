import Proximity.Decimal.Text

/-!
# JSON values

A JSON value as this library reads and writes it. Numbers keep the kind the reader gave
them: a natural number below `2^64`, a negative integer not below `-2^63`, or a 64-bit
float for everything else (a fraction, an exponent, an integer out of those ranges, or
`-0`). A value written from a 32-bit float keeps that width, so that it is written with
the digits of a 32-bit float. Objects keep their members in the order they were written.

`Json.render` writes compact JSON: no blanks, strings escaped with the two-character
escapes for quote, backslash, backspace, form feed, newline, carriage return and tab,
`\u00XX` for the other control characters, and every other character as itself.
-/

namespace Proximity

/-- A JSON value. -/
inductive Json where
  | null
  | bool (b : Bool)
  /-- a natural number below `2^64` -/
  | nat (n : Nat)
  /-- a negative integer not below `-2^63` -/
  | neg (n : Int)
  | float (x : Float)
  /-- a 32-bit float, written with the fewest digits that read back as it -/
  | float32 (x : Float32)
  | str (s : String)
  | arr (items : List Json)
  | obj (members : List (String × Json))
  deriving Inhabited

namespace Json

/-- The value of the last member with this key. -/
def get? (j : Json) (key : String) : Option Json :=
  match j with
  | obj ms => (ms.reverse.find? (·.1 == key)).map (·.2)
  | _ => none

/-- The value of a member, or `null` when there is none. -/
def getD (j : Json) (key : String) : Json := (j.get? key).getD null

/-- Whether the value is `null`. -/
def isNull : Json → Bool
  | null => true
  | _ => false

/-- The four hexadecimal digits of a code unit, lower case. -/
def hex4 (n : Nat) : String :=
  let d (k : Nat) : Char := "0123456789abcdef".toList.getD ((n / Nat.pow 16 k) % 16) '0'
  String.ofList [d 3, d 2, d 1, d 0]

/-- A character as it is written inside a JSON string. -/
def escapeChar (c : Char) : List Char :=
  match c with
  | '"' => ['\\', '"']
  | '\\' => ['\\', '\\']
  | '\n' => ['\\', 'n']
  | '\r' => ['\\', 'r']
  | '\t' => ['\\', 't']
  | c =>
    if c.toNat == 8 then ['\\', 'b']
    else if c.toNat == 12 then ['\\', 'f']
    else if c.toNat < 0x20 then ('\\' :: 'u' :: (hex4 c.toNat).toList)
    else [c]

/-- A string as a JSON string literal. -/
def quote (s : String) : String :=
  String.ofList ('"' :: (s.toList.flatMap escapeChar ++ ['"']))

/-- A number of a float member as JSON text. -/
def floatText (x : Float) : String := Decimal.jsonFloat64 x

mutual
/-- Compact JSON text. -/
def render : Json → String
  | null => "null"
  | bool b => if b then "true" else "false"
  | nat n => toString n
  | neg n => toString n
  | float x => floatText x
  | float32 x => Decimal.jsonFloat32 x
  | str s => quote s
  | arr items => "[" ++ renderItems items ++ "]"
  | obj ms => "\x7b" ++ renderMembers ms ++ "\x7d"

/-- The items of an array, separated by commas. -/
def renderItems : List Json → String
  | [] => ""
  | [j] => render j
  | j :: js => render j ++ "," ++ renderItems js

/-- The members of an object, separated by commas. -/
def renderMembers : List (String × Json) → String
  | [] => ""
  | [(k, v)] => quote k ++ ":" ++ render v
  | (k, v) :: ms => quote k ++ ":" ++ render v ++ "," ++ renderMembers ms
end

/-- Members sorted by key, the last of equal keys kept: the order and content of a map
keyed by text. -/
def normalizeMembers (ms : List (String × Json)) : List (String × Json) :=
  let last := ms.reverse.foldl
    (fun acc (kv : String × Json) => if acc.any (·.1 == kv.1) then acc else kv :: acc) []
  last.mergeSort (fun a b => decide (a.1 ≤ b.1))

mutual
/-- The value with every object's members sorted by key and duplicate keys dropped,
the last one kept. -/
def normalize : Json → Json
  | arr items => arr (normalizeList items)
  | obj ms => obj (normalizeMembers (normalizePairs ms))
  | j => j

def normalizeList : List Json → List Json
  | [] => []
  | j :: js => normalize j :: normalizeList js

def normalizePairs : List (String × Json) → List (String × Json)
  | [] => []
  | (k, v) :: ms => (k, normalize v) :: normalizePairs ms
end

mutual
/-- The number of values in a value, itself included. -/
def weight : Json → Nat
  | arr items => weightList items + 1
  | obj ms => weightPairs ms + 1
  | _ => 1

def weightList : List Json → Nat
  | [] => 0
  | j :: js => weight j + weightList js

def weightPairs : List (String × Json) → Nat
  | [] => 0
  | (_, v) :: ms => weight v + weightPairs ms
end

end Json

end Proximity
