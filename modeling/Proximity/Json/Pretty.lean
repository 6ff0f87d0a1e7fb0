import Proximity.Json.Value

/-!
# Indented JSON

`Json.pretty` writes a value over several lines: each item of a non-empty array and each
member of a non-empty object on a line of its own, indented two spaces deeper than the
line that opened it, and a member's key followed by `": "`. Empty arrays and objects stay
`[]` and `{}`, and scalars are written as `Json.render` writes them.
-/

namespace Proximity.Json

/-- Two spaces per level. -/
def indentText (level : Nat) : String := String.ofList (List.replicate (2 * level) ' ')

mutual
/-- The indented text of a value whose first line stands at `level`. -/
def prettyAt (level : Nat) : Json → String
  | arr [] => "[]"
  | arr items => "[" ++ prettyItems (level + 1) items ++ "\n" ++ indentText level ++ "]"
  | obj [] => "\x7b\x7d"
  | obj ms => "\x7b" ++ prettyMembers (level + 1) ms ++ "\n" ++ indentText level ++ "\x7d"
  | j => render j

/-- Items, each on a new line at `level`, separated by commas. -/
def prettyItems (level : Nat) : List Json → String
  | [] => ""
  | [j] => "\n" ++ indentText level ++ prettyAt level j
  | j :: js => "\n" ++ indentText level ++ prettyAt level j ++ "," ++ prettyItems level js

/-- Members, each on a new line at `level`, separated by commas. -/
def prettyMembers (level : Nat) : List (String × Json) → String
  | [] => ""
  | [(k, v)] => "\n" ++ indentText level ++ quote k ++ ": " ++ prettyAt level v
  | (k, v) :: ms => "\n" ++ indentText level ++ quote k ++ ": " ++ prettyAt level v ++ "," ++
    prettyMembers level ms
end

/-- The indented text of a value. -/
def pretty (j : Json) : String := prettyAt 0 j

end Proximity.Json
