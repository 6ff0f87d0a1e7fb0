import Proximity.Toml.Value
import Proximity.Decimal.Text
/-!
# Writing a TOML document

A document is written as its root values (`key = value`, one per line), then each table
under a `[a.b]` header and each table of an array of tables under a `[[a.b]]` header,
parent before child, with a blank line before every header but the first line of the
text. A table that holds only tables gets no header of its own.

Arrays of up to one element stay on one line (`[]`, `["a"]`); longer ones put each element
on its own line, indented four spaces and followed by a comma. Inline tables are written
`{ a = 1, b = 2 }`.

A string is written as a literal (`'...'`, or `'''...'''` when it holds an apostrophe)
when it holds a backslash, no control character but tab and line break, no run of three
apostrophes and does not end with one; otherwise it is a basic string with escapes. A
string with a line break is written over several lines, between triple quotes. Keys are
bare when they can be, else quoted on one line.
-/

namespace Proximity.Toml

/-- How a string is written: over several lines or one, and whether as a literal. -/
structure StringStyle where
  multiline : Bool
  tripleQuoted : Bool
  literal : Bool
  deriving Repr

/-- What a scan of a string has seen so far. -/
structure StyleScan where
  multiline : Bool := false
  mostApostrophes : Nat := 0
  apostrophes : Nat := 0
  backslash : Bool := false
  literalPossible : Bool := true

/-- Whether a character is a control character for string writing. -/
def isControl (c : Char) : Bool := c.toNat ≤ 0x1F || c.toNat == 0x7F

/-- One character of the scan. -/
def StyleScan.step (st : StyleScan) (c : Char) : StyleScan :=
  if st.literalPossible then
    let st :=
      if c == '\'' then
        let n := st.apostrophes + 1
        { st with apostrophes := n, literalPossible := n < 3 }
      else { st with mostApostrophes := max st.mostApostrophes st.apostrophes, apostrophes := 0 }
    if c == '\t' then st
    else if c == '\\' then { st with backslash := true }
    else if c == '\n' then { st with multiline := true }
    else if isControl c then { st with literalPossible := false }
    else st
  else if c == '\n' then { st with multiline := true }
  else st

/-- The style a string is written in. -/
def stringStyle (s : String) : StringStyle :=
  let st := s.toList.foldl StyleScan.step {}
  let possible := st.literalPossible && st.backslash
    && !(st.apostrophes > 0 && s.endsWith "'")
  if !possible then { multiline := st.multiline, tripleQuoted := false, literal := false }
  else
    let most := max st.mostApostrophes st.apostrophes
    { multiline := st.multiline, tripleQuoted := !st.multiline && most ≥ 1, literal := true }

/-- Four uppercase hexadecimal digits. -/
def hex4 (n : Nat) : String :=
  let d (k : Nat) : Char :=
    let v := (n / Nat.pow 16 k) % 16
    if v < 10 then Char.ofNat (48 + v) else Char.ofNat (55 + v)
  String.ofList [d 3, d 2, d 1, d 0]

/-- A character inside a basic string; line breaks stay as written in a multi-line one. -/
def escapeChar (multiline : Bool) (c : Char) : String :=
  if c == '\x08' then "\\b"
  else if c == '\t' then "\\t"
  else if c == '\n' then (if multiline then "\n" else "\\n")
  else if c == '\x0c' then "\\f"
  else if c == '\r' then "\\r"
  else if c == '"' then "\\\""
  else if c == '\\' then "\\\\"
  else if isControl c then "\\u" ++ hex4 c.toNat
  else c.toString

/-- A string in a given style. -/
def quoteIn (style : StringStyle) (s : String) : String :=
  if style.literal then
    if style.multiline then "'''\n" ++ s ++ "'''"
    else if style.tripleQuoted then "'''" ++ s ++ "'''"
    else "'" ++ s ++ "'"
  else
    let body := String.join (s.toList.map (escapeChar style.multiline))
    if style.multiline then "\"\"\"\n" ++ body ++ "\"\"\"" else "\"" ++ body ++ "\""

/-- A string value. -/
def quoteString (s : String) : String := quoteIn (stringStyle s) s

/-- A key: bare when it is a non-empty word of letters, digits, `_` and `-`. -/
def keyText (k : String) : String :=
  let bare (c : Char) : Bool := (c.toNat < 128 && c.isAlphanum) || c == '_' || c == '-'
  if !k.isEmpty && k.toList.all bare then k
  else quoteIn { (stringStyle k) with multiline := false, tripleQuoted := false } k

/-- A float: integral values keep `.0`, zero keeps its sign, NaN is `nan`. -/
def floatText (x : Float) : String :=
  let negative := x.toBits >>> 63 == 1
  if x.isNaN then (if negative then "-nan" else "nan")
  else if x == 0 then (if negative then "-0.0" else "0.0")
  else
    let t := Decimal.plainFloat64 x
    if !x.isInf && x == x.round then t ++ ".0" else t

/-- Whether an item sits in a table as a table of its own. -/
def isTableItem : TomlValue → Bool
  | .table _ => true
  | _ => false

/-- Whether an item sits in a table as an array of tables: a non-empty array of tables. -/
def isTableArray : TomlValue → Bool
  | .arr [] => false
  | .arr xs => xs.all isTableItem
  | _ => false

mutual
/-- A value on one line or, for a long array, several. -/
def valueText : TomlValue → String
  | .str s => quoteString s
  | .int n => toString n
  | .float x => floatText x
  | .bool b => if b then "true" else "false"
  | .datetime t => t
  | .arr [] => "[]"
  | .arr [x] => "[" ++ valueText x ++ "]"
  | .arr (x :: y :: rest) => "[" ++ longItems (x :: y :: rest) ++ "\n]"
  | .table [] => "\x7b\x7d"
  | .table ms => "\x7b " ++ inlineMembers ms ++ " \x7d"

/-- The elements of a long array, each on its own line with a comma. -/
def longItems : List TomlValue → String
  | [] => ""
  | x :: rest => "\n    " ++ valueText x ++ "," ++ longItems rest

/-- The members of an inline table. -/
def inlineMembers : List (String × TomlValue) → String
  | [] => ""
  | [(k, v)] => keyText k ++ " = " ++ valueText v
  | (k, v) :: rest => keyText k ++ " = " ++ valueText v ++ ", " ++ inlineMembers rest
end

/-- The `key = value` lines of a table's own values. -/
def pairLines (ms : List (String × TomlValue)) : String :=
  String.join (ms.filterMap fun (k, v) =>
    if isTableItem v || isTableArray v then none
    else some (keyText k ++ " = " ++ valueText v ++ "\n"))

/-- A table to write: its key, whether it is a table of an array of tables, and members. -/
structure Section where
  path : List String
  inArray : Bool
  members : List (String × TomlValue)

mutual
/-- The tables below the members of a table, each before the tables below it. -/
def childSections (path : List String) : List (String × TomlValue) → List Section
  | [] => []
  | (k, .table ms) :: rest =>
    (⟨path ++ [k], false, ms⟩ :: childSections (path ++ [k]) ms) ++ childSections path rest
  | (k, .arr xs) :: rest =>
    (if isTableArray (.arr xs) then arraySections (path ++ [k]) xs else [])
      ++ childSections path rest
  | _ :: rest => childSections path rest

/-- The tables of an array of tables, each before the tables below it. -/
def arraySections (path : List String) : List TomlValue → List Section
  | [] => []
  | .table ms :: rest => (⟨path, true, ms⟩ :: childSections path ms) ++ arraySections path rest
  | _ :: rest => arraySections path rest
end

/-- A table and the tables below it, parent first. -/
def sectionsOf (path : List String) (inArray : Bool) (ms : List (String × TomlValue)) :
    List Section :=
  ⟨path, inArray, ms⟩ :: childSections path ms

/-- Whether a section gets a header line: a table of an array always does, another table
when it holds values of its own or nothing at all. -/
def Section.hasHeader (s : Section) : Bool :=
  !s.path.isEmpty && (s.inArray || s.members.isEmpty
    || s.members.any fun (_, v) => !(isTableItem v || isTableArray v))

/-- The header line of a section. -/
def Section.headerText (s : Section) : String :=
  let key := ".".intercalate (s.path.map keyText)
  if s.inArray then "[[" ++ key ++ "]]\n" else "[" ++ key ++ "]\n"

/-- The sections written one after another; `started` tells whether anything was written. -/
def writeSections : Bool → List Section → String
  | _, [] => ""
  | started, s :: rest =>
    let body := pairLines s.members
    if s.hasHeader then
      (if started then "\n" else "") ++ s.headerText ++ body ++ writeSections true rest
    else body ++ writeSections (started || !body.isEmpty) rest

end Proximity.Toml

namespace Proximity.TomlValue

/-- The text of a document whose root table has these members. -/
def writeTable (ms : List (String × TomlValue)) : String :=
  Toml.writeSections false (Toml.sectionsOf [] false ms)

end Proximity.TomlValue
