/-!
# Why a TOML document could not be read

A reader that stops says what it was reading (the label: "invalid table header"), what it
expected at that point (`.` or `]`) and, for a fault found after the text was read, the
cause ("duplicate key `x` in document root"). The report names the line and column and
shows the line with carets under the fault:

```
TOML parse error at line 1, column 11
  |
1 | [discovery
  |           ^
invalid table header
expected `.`, `]`
```

Columns count characters, except that a fault on a character of more than one byte
counts the bytes before it on its line.
-/

namespace Proximity.Toml

/-- What a reader was doing when it stopped, what it expected there, and why it failed;
`left` is the number of characters of the document still unread at the fault. -/
structure Fault where
  label : Option String := none
  expected : List String := []
  cause : Option String := none
  left : Nat
  deriving Inhabited, Repr

namespace Fault

/-- The message: `invalid <label>`, `expected <a>, <b>` and the cause, one per line. -/
def message (f : Fault) : String :=
  let parts := (f.label.map fun l => "invalid " ++ l).toList
    ++ (if f.expected.isEmpty then [] else ["expected " ++ ", ".intercalate f.expected])
    ++ f.cause.toList
  "\n".intercalate parts

/-- Name what was being read, unless an inner reader already did. -/
def within (l : String) (f : Fault) : Fault :=
  if f.label.isSome then f else { f with label := some l }

end Fault

/-- One reading step: a value and the text after it, a failure that an alternative may
still recover from, or a failure that ends the read. -/
inductive Step (α : Type) where
  | ok (a : α) (rest : List Char)
  | back (f : Fault)
  | cut (f : Fault)

namespace Step

/-- Change the value read. -/
def map (g : α → β) : Step α → Step β
  | ok a r => ok (g a) r
  | back f => back f
  | cut f => cut f

/-- Change the fault. -/
def mapFault (g : Fault → Fault) : Step α → Step α
  | ok a r => ok a r
  | back f => back (g f)
  | cut f => cut (g f)

/-- Make a recoverable failure final. -/
def commit : Step α → Step α
  | back f => cut f
  | s => s

end Step

/-- A clash between two parts of a document that each read well. -/
inductive Clash where
  /-- A key given twice, with the table it is in when that is known. -/
  | duplicate (key : String) (table : Option (List String))
  /-- A dotted key that runs through a value that is not a table. -/
  | extend (path : List String) (actual : String)
  deriving Repr

/-- What a clash says. -/
def Clash.message : Clash → String
  | .duplicate key none => "duplicate key `" ++ key ++ "`"
  | .duplicate key (some []) => "duplicate key `" ++ key ++ "` in document root"
  | .duplicate key (some path) =>
    "duplicate key `" ++ key ++ "` in table `" ++ ".".intercalate path ++ "`"
  | .extend path actual =>
    "dotted key `" ++ ".".intercalate path ++ "` attempted to extend non-table type ("
      ++ actual ++ ")"

/-- A document that could not be read: the message and the byte offset of the fault, when
there is one, in the text. -/
structure ReadError where
  message : String
  offset : Option Nat
  text : String
  deriving Repr

namespace ReadError

/-- Line (from 0) and column of a byte offset: the column counts the characters before
it on its line, or its bytes when the character at the offset is not whole in the line's
first bytes up to it. -/
def position (bytes : List UInt8) (index : Nat) : Nat × Nat :=
  if bytes.isEmpty then (0, index)
  else
    let safe := min index (bytes.length - 1)
    let before := bytes.take safe
    let lineStart := match (before.reverse.findIdx? (· == 10)) with
      | some k => safe - k
      | none => 0
    let line := (bytes.take lineStart).count 10
    let piece := (bytes.drop lineStart).take (safe - lineStart + 1)
    let column := match String.fromUTF8? (ByteArray.mk piece.toArray) with
      | some s => s.length - 1
      | none => safe - lineStart
    (line, column + (index - safe))

/-- How many bytes the character starting with a byte takes. -/
def charWidth (lead : UInt8) : Nat :=
  if lead < 0xC0 then 1 else if lead < 0xE0 then 2 else if lead < 0xF0 then 3 else 4

/-- The report: position, the line with carets under the fault, and the message. The
carets span the bytes of the character at the fault (one at the end of the text), but
no more than the line has bytes left after the column. -/
def render (e : ReadError) : String :=
  match e.offset with
  | none => e.message ++ "\n"
  | some index =>
    let bytes := e.text.toUTF8.toList
    let (line, column) := position bytes index
    let number := toString (line + 1)
    let gutter := String.ofList (List.replicate (number.length + 1) ' ')
    let content := ((e.text.splitOn "\n").drop line).headD ""
    let width := match bytes[index]? with
      | some b => charWidth b
      | none => 0
    let carets := max 1 (min width (content.utf8ByteSize - column))
    "TOML parse error at line " ++ number ++ ", column " ++ toString (column + 1) ++ "\n"
      ++ gutter ++ "|\n"
      ++ number ++ " | " ++ content ++ "\n"
      ++ gutter ++ "|" ++ String.ofList (List.replicate (column + 1) ' ')
      ++ String.ofList (List.replicate carets '^') ++ "\n"
      ++ e.message ++ "\n"

end ReadError

end Proximity.Toml
