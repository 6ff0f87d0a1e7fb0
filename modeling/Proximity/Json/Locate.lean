import Proximity.Json.Read

/-!
# Locating a value in JSON text

`Json.sourceAt` gives the text of the value reached from the root of a document by a path
of object keys and array indices, exactly as the document writes it: numbers keep their
spelling and blanks inside the value stay, while blanks around it are left out. When an
object has a key twice, the last member counts, as it does for `Json.parse`.
-/

namespace Proximity.Json

namespace Reader

mutual

/-- Reads one value whole and gives where the value at `path` inside it starts and ends. -/
def locate : Nat → List PathStep → Reader (Option (Nat × Nat))
  | 0, _ => pure none
  | _ + 1, [] => do
    let _ ← skipBlank
    let start := (← get).pos
    skipValue
    pure (some (start, (← get).pos))
  | fuel + 1, step :: rest => do
    match ← skipBlank, step with
    | some 123, .key k =>
      bump
      locateMembers fuel k rest none
    | some 91, .index i =>
      bump
      locateItems fuel i rest 0 none
    | _, _ =>
      skipValue
      pure none

/-- Reads the members of an object through its closing brace, following `path` into the
last member named `k`. -/
def locateMembers : Nat → String → List PathStep → Option (Nat × Nat) →
    Reader (Option (Nat × Nat))
  | 0, _, _, found => pure found
  | fuel + 1, k, rest, found => do
    match ← skipBlank with
    | some 125 =>
      bump
      pure found
    | some 44 =>
      bump
      locateMembers fuel k rest found
    | some 34 =>
      bump
      let key ← string
      colon
      if key == k then
        let r ← locate fuel rest
        locateMembers fuel k rest r
      else
        skipValue
        locateMembers fuel k rest found
    | _ => pure found

/-- Reads the items of an array through its closing bracket, following `path` into the
item at index `i`; `n` counts the items read so far. -/
def locateItems : Nat → Nat → List PathStep → Nat → Option (Nat × Nat) →
    Reader (Option (Nat × Nat))
  | 0, _, _, _, found => pure found
  | fuel + 1, i, rest, n, found => do
    match ← skipBlank with
    | some 93 =>
      bump
      pure found
    | some 44 =>
      bump
      locateItems fuel i rest n found
    | some _ =>
      if n == i then
        let r ← locate fuel rest
        locateItems fuel i rest (n + 1) r
      else
        skipValue
        locateItems fuel i rest (n + 1) found
    | none => pure found

end

end Reader

/-- The text of the value at a path in a JSON document, as the document writes it. -/
def sourceAt (text : String) (path : List PathStep) : Option String :=
  let bytes := text.toUTF8
  match ((Reader.locate (Reader.budget text) path).run.run { bytes }).1 with
  | .ok (some (a, b)) => String.fromUTF8? (bytes.extract a b)
  | _ => none

end Proximity.Json
