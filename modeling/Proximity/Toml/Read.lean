import Proximity.Toml.Scalar
/-!
# Reading a TOML document

A document is read line by line: blank lines and comments, key/value pairs, and table
headers (`[a.b]` opens a table, `[[a.b]]` adds a table to an array of tables). Pairs go to
the table the last header opened, or to the root before any header.

Keys are bare words or quoted strings, joined by dots (`a.b = 1` puts `b` in a table `a`).
Values are strings, numbers, booleans, dates, arrays (`[1, 2,]`, over several lines and
with comments if need be) and inline tables (`{ a = 1, b.c = 2 }`, on one line).

A table may be defined once. A header may open a table that was only implied by an earlier
header (`[a.b]` before `[a]`), but not one that dotted keys made, and dotted keys may not
reach into a table that a header defined or into an inline table. Arrays and inline tables
nest at most 80 deep.

`TomlValue.readTable` gives the root table, or a `ReadError` whose report names the line
and column of the fault.
-/

namespace Proximity.Toml

/-! ## Tables under construction -/

/-- A table entry while a document is read: a value (inline tables included), a table with
whether it was only implied so far and whether dotted keys made it, or an array of tables. -/
inductive Entry where
  | value (v : TomlValue)
  | table (implicit dotted : Bool) (entries : List (String × Entry))
  | tables (elements : List (List (String × Entry)))
  deriving Inhabited

mutual
/-- The value an entry stands for. -/
def Entry.toValue : Entry → TomlValue
  | .value v => v
  | .table _ _ es => .table (entriesToValue es)
  | .tables ts => .arr (tablesToValue ts)

/-- The members a list of entries stands for. -/
def entriesToValue : List (String × Entry) → List (String × TomlValue)
  | [] => []
  | (k, e) :: rest => (k, e.toValue) :: entriesToValue rest

/-- The tables an array of tables stands for. -/
def tablesToValue : List (List (String × Entry)) → List TomlValue
  | [] => []
  | t :: ts => .table (entriesToValue t) :: tablesToValue ts
end

/-- The entry under a key. -/
def lookupEntry (k : String) (es : List (String × Entry)) : Option Entry :=
  (es.find? (·.1 == k)).map (·.2)

/-- Replace the entry under a key (which is present). -/
def replaceEntry (k : String) (e : Entry) (es : List (String × Entry)) : List (String × Entry) :=
  es.map fun p => if p.1 == k then (k, e) else p

/-- Apply `f` to the table at `path` below `es`, creating tables on the way; `f` is told
whether that table was made by dotted keys. A dotted walk (`dotted`) may only pass
through tables that are still implied; an array of tables is entered at its last table.
In an inline table (`inline`) a nested inline table cannot be entered at all. `full` is the
whole path walked, so that a fault names it up to the key that is not a table. -/
def modifyAt (inline dotted : Bool) (full : List String)
    (f : Bool → List (String × Entry) → Except Clash (List (String × Entry) × β)) :
    List String → Bool → List (String × Entry) → Except Clash (List (String × Entry) × β)
  | [], here, es => f here es
  | k :: ks, _, es =>
    match lookupEntry k es with
    | none => do
      let (inner, b) ← modifyAt inline dotted full f ks dotted []
      pure (es ++ [(k, .table true dotted inner)], b)
    | some (.value v) =>
      match inline, v with
      | true, .table _ => .error (.duplicate k none)
      | _, _ => .error (.extend (full.take (full.length - ks.length)) v.typeName)
    | some (.tables ts) =>
      match ts.getLast? with
      | some last => do
        let (inner, b) ← modifyAt inline dotted full f ks false last
        pure (replaceEntry k (.tables (ts.dropLast ++ [inner])) es, b)
      | none => .error (.duplicate k none)
    | some (.table implicit d inner) =>
      if dotted && !implicit then .error (.duplicate k none)
      else do
        let (inner', b) ← modifyAt inline dotted full f ks d inner
        pure (replaceEntry k (.table implicit d inner') es, b)

/-- Put a value under a dotted key in a table; `table` names the table for the fault
when a key is given twice (none inside an inline table). -/
def insertPair (inline : Bool) (table : Option (List String)) (keys : List String)
    (v : TomlValue) (es : List (String × Entry)) : Except Clash (List (String × Entry)) := do
  let path := keys.dropLast
  let last := keys.getLast?.getD ""
  let (es', _) ← modifyAt inline true path (fun d inner =>
      if d == path.isEmpty then .error (.duplicate last none)
      else if (lookupEntry last inner).isSome then .error (.duplicate last table)
      else .ok (inner ++ [(last, .value v)], ())) path false es
  pure es'

/-- The document read so far: the root, the table the last header opened (kept apart
until the next header), its key, and whether it belongs to an array of tables. -/
structure Sheet where
  root : List (String × Entry) := []
  current : List (String × Entry) := []
  path : List String := []
  inArray : Bool := false

/-- The clash of a header whose last key is already taken. -/
def headerClash (path : List String) : Clash :=
  .duplicate (path.getLast?.getD "") (some path.dropLast)

namespace Sheet

/-- Put the open table into the root. -/
def close (s : Sheet) : Except Clash Sheet :=
  match s.path.getLast? with
  | none => .ok { root := s.current }
  | some last => do
    let (root, _) ← modifyAt false false s.path.dropLast (fun _ es =>
        match lookupEntry last es, s.inArray with
        | none, true => .ok (es ++ [(last, .tables [s.current])], ())
        | some (.tables ts), true => .ok (replaceEntry last (.tables (ts ++ [s.current])) es, ())
        | none, false => .ok (es ++ [(last, .table false false s.current)], ())
        | some (.table true _ _), false =>
          .ok (replaceEntry last (.table false false s.current) es, ())
        | _, _ => .error (headerClash s.path)) s.path.dropLast false s.root
    pure { root }

/-- Open the table of a `[path]` header; a table only implied so far keeps its entries. -/
def openTable (path : List String) (s : Sheet) : Except Clash Sheet := do
  let s ← s.close
  let last := path.getLast?.getD ""
  let (root, current) ← modifyAt false false path.dropLast (fun _ es =>
      match lookupEntry last es with
      | none => .ok (es, [])
      | some (.table true false inner) => .ok (es.filter (·.1 != last), inner)
      | some _ => .error (headerClash path)) path.dropLast false s.root
  pure { root, current, path, inArray := false }

/-- Open a new table of the array of tables of a `[[path]]` header. -/
def openArrayTable (path : List String) (s : Sheet) : Except Clash Sheet := do
  let s ← s.close
  let last := path.getLast?.getD ""
  let (root, _) ← modifyAt false false path.dropLast (fun _ es =>
      match lookupEntry last es with
      | none => .ok (es ++ [(last, .tables [])], ())
      | some (.tables _) => .ok (es, ())
      | some _ => .error (headerClash path)) path.dropLast false s.root
  pure { root, current := [], path, inArray := true }

/-- Add a pair to the open table. -/
def addPair (keys : List String) (v : TomlValue) (s : Sheet) : Except Clash Sheet := do
  let current ← insertPair false (some s.path) keys v s.current
  pure { s with current }

end Sheet

/-! ## Keys and values -/

/-- One key part: a bare word, a basic string or a literal string. -/
def simpleKey (cs : List Char) : Step String :=
  match cs with
  | '"' :: r => basicString r
  | '\'' :: r => literalBody r []
  | _ =>
    let word := cs.takeWhile isBareKeyChar
    if word.isEmpty then .back { left := cs.length }
    else .ok (String.ofList word) (cs.dropWhile isBareKeyChar)

/-- Further key parts, each after a dot; the text starts after a part and its blanks. A dot
that no part follows is left unread. -/
def dottedParts : Nat → List Char → List String → Step (List String)
  | 0, cs, acc => .ok acc.reverse cs
  | fuel + 1, cs, acc =>
    match cs with
    | '.' :: r =>
      match simpleKey (skipBlank r) with
      | .ok k r' => dottedParts fuel (skipBlank r') (k :: acc)
      | .back _ => .ok acc.reverse cs
      | .cut f => .cut f
    | _ => .ok acc.reverse cs

/-- A key: parts joined by dots, with blanks allowed around each part. -/
def key (cs : List Char) : Step (List String) :=
  let start := skipBlank cs
  match simpleKey start with
  | .ok k r =>
    let rest := skipBlank r
    dottedParts (rest.length + 1) rest [k]
  | .back f => .back (f.within "key")
  | .cut f => .cut (f.within "key")

/-- Blanks, line breaks and comments between the parts of an array. A comment must end
with a line break. -/
def skipTrivia : Nat → List Char → Except Fault (List Char)
  | 0, cs => .ok cs
  | fuel + 1, cs =>
    let cs := skipBlank cs
    match cs with
    | '#' :: _ =>
      let r := skipComment cs
      match newline? r with
      | some r' => skipTrivia fuel r'
      | none => .error { left := r.length }
    | '\n' :: r => skipTrivia fuel r
    | '\r' :: r =>
      match newline? cs with
      | some r' => skipTrivia fuel r'
      | none => .error { left := r.length }
    | _ => .ok cs

/-- `skipTrivia` with enough fuel. -/
def trivia (cs : List Char) : Except Fault (List Char) := skipTrivia (cs.length + 1) cs

/-- How deep arrays and inline tables may nest. -/
def nestingLimit : Nat := 80

/-- The fault of a value that does not start like one. -/
def notAValue (left : Nat) : Fault :=
  { label := some "string", expected := ["`\"`", "`'`"], left }

/-- A word, such as `true`, that stands for a value. -/
def word (w : String) (v : TomlValue) (cs : List Char) : Step TomlValue :=
  if w.toList.isPrefixOf cs then .ok v (cs.drop w.length) else .back (notAValue cs.length)

mutual
/-- One value; `depth` counts the arrays and inline tables around it. -/
def value : Nat → Nat → List Char → Step TomlValue
  | 0, _, cs => .cut { cause := some "recursion limit exceeded", left := cs.length }
  | fuel + 1, depth, cs =>
    match cs with
    | '"' :: _ | '\'' :: _ => (string cs).map .str
    | '[' :: r =>
      if depth + 1 ≥ nestingLimit then
        .cut { cause := some "recursion limit exceeded", left := r.length }
      else
        match arrayItems fuel (depth + 1) r [] with
        | .ok items rest =>
          match trivia rest with
          | .error f => .cut f
          | .ok (']' :: r') => .ok (.arr items) r'
          | .ok r' => .cut { label := some "array", expected := ["`]`"], left := r'.length }
        | .back f => .cut f
        | .cut f => .cut f
    | '{' :: r =>
      if depth + 1 ≥ nestingLimit then
        .cut { cause := some "recursion limit exceeded", left := r.length }
      else
        match inlinePairs fuel (depth + 1) r r [] with
        | .ok pairs rest =>
          let build := pairs.foldlM (fun es p => insertPair true none p.1 p.2 es) []
          match build with
          | .error clash => .cut { cause := some clash.message, left := r.length }
          | .ok es =>
            match skipBlank rest with
            | '}' :: r' => .ok (.table (entriesToValue es)) r'
            | r' => .cut { label := some "inline table", expected := ["`\x7d`"], left := r'.length }
        | .back f => .cut f
        | .cut f => .cut f
    | 't' :: _ => (word "true" (.bool true) cs).commit
    | 'f' :: _ => (word "false" (.bool false) cs).commit
    | 'i' :: _ => word "inf" (.float infinity) cs
    | 'n' :: _ => word "nan" (.float notANumber) cs
    | '_' :: _ => ((integer cs).map TomlValue.int).mapFault
        fun f => { f with expected := f.expected ++ ["leading digit"] }
    | '.' :: _ => ((float cs).map TomlValue.float).mapFault
        fun f => { f with expected := f.expected ++ ["leading digit"] }
    | c :: _ =>
      if c == '+' || c == '-' || c.isDigit then numberOrDate cs
      else .back (notAValue cs.length)
    | [] => .back { left := 0 }

/-- The elements of an array, from after the opening bracket or a comma; an element that
does not read ends the list there. -/
def arrayItems : Nat → Nat → List Char → List TomlValue → Step (List TomlValue)
  | 0, _, cs, acc => .ok acc.reverse cs
  | fuel + 1, depth, cs, acc =>
    match trivia cs with
    | .error _ => .ok acc.reverse cs
    | .ok start =>
      match value fuel depth start with
      | .ok v r =>
        match trivia r with
        | .error _ => .ok acc.reverse cs
        | .ok (',' :: r') => arrayItems fuel depth r' (v :: acc)
        | .ok r' => .ok (v :: acc).reverse r'
      | .back _ => .ok acc.reverse cs
      | .cut f => .cut f

/-- The pairs of an inline table, from after the opening brace or a comma; `resume` is
where reading goes on when no pair follows. -/
def inlinePairs : Nat → Nat → List Char → List Char → List (List String × TomlValue) →
    Step (List (List String × TomlValue))
  | 0, _, _, resume, acc => .ok acc.reverse resume
  | fuel + 1, depth, cs, resume, acc =>
    match key cs with
    | .back _ => .ok acc.reverse resume
    | .cut f => .cut f
    | .ok path r =>
      match r with
      | '=' :: r' =>
        match value fuel depth (skipBlank r') with
        | .ok v r'' =>
          match skipBlank r'' with
          | ',' :: r3 => inlinePairs fuel depth r3 (skipBlank r'') ((path, v) :: acc)
          | r3 => .ok ((path, v) :: acc).reverse r3
        | .back f => .cut f
        | .cut f => .cut f
      | _ => .cut { expected := ["`.`", "`=`"], left := r.length }
end

/-- Enough fuel to read a value from the text. -/
def valueFuel (cs : List Char) : Nat := 2 * cs.length + 4

/-! ## Lines -/

/-- Blanks, an optional comment, then a line break or the end of the text. -/
def lineEnd (cs : List Char) : Except Fault (List Char) :=
  match skipComment (skipBlank cs) with
  | [] => .ok []
  | r =>
    match newline? r with
    | some r' => .ok r'
    | none => .error { expected := ["newline", "`#`"], left := r.length }

/-- A table header, at its opening bracket: whether it is an array header, its key, and
the text after its line. -/
def header (cs : List Char) : Step (Bool × List String) :=
  let read : Step (Bool × List String) :=
    match cs with
    | ['['] => .cut { left := 1 }
    | '[' :: '[' :: r =>
      match key r with
      | .ok path (']' :: ']' :: r') =>
        match lineEnd r' with
        | .ok rest => .ok (true, path) rest
        | .error f => .cut f
      | .ok _ r' => .cut { expected := ["`.`", "`]]`"], left := r'.length }
      | .back f => .cut f
      | .cut f => .cut f
    | '[' :: r =>
      match key r with
      | .ok path (']' :: r') =>
        match lineEnd r' with
        | .ok rest => .ok (false, path) rest
        | .error f => .cut f
      | .ok _ r' => .cut { expected := ["`.`", "`]`"], left := r'.length }
      | .back f => .cut f
      | .cut f => .cut f
    | _ => .back { left := cs.length }
  read.mapFault (Fault.within "table header")

/-- A key/value line. -/
def pairLine (cs : List Char) : Except Fault (List String × TomlValue × List Char) :=
  match key cs with
  | .ok path ('=' :: r) =>
    let start := skipBlank r
    match value (valueFuel start) 0 start with
    | .ok v r' =>
      match lineEnd r' with
      | .ok rest => .ok (path, v, rest)
      | .error f => .error f
    | .back f => .error f
    | .cut f => .error f
  | .ok _ r => .error { expected := ["`.`", "`=`"], left := r.length }
  | .back f => .error f
  | .cut f => .error f

/-- The lines of a document, into the sheet. -/
def lines : Nat → List Char → Sheet → Except Fault Sheet
  | 0, _, s => .ok s
  | fuel + 1, cs, s =>
    let cs := skipBlank cs
    match cs with
    | [] => .ok s
    | '#' :: _ =>
      match skipComment cs with
      | [] => .ok s
      | r =>
        match newline? r with
        | some r' => lines fuel r' s
        | none => .error { left := r.length }
    | '\n' :: r => lines fuel r s
    | '\r' :: _ =>
      match newline? cs with
      | some r => lines fuel r s
      | none => .error { left := cs.length }
    | '[' :: _ =>
      match header cs with
      | .ok (isArray, path) rest =>
        let opened := if isArray then s.openArrayTable path else s.openTable path
        match opened with
        | .ok s' => lines fuel rest s'
        | .error clash =>
          .error { label := some "table header", cause := some clash.message, left := cs.length }
      | .back f => .error f
      | .cut f => .error f
    | _ =>
      match pairLine cs with
      | .ok (path, v, rest) =>
        match s.addPair path v with
        | .ok s' => lines fuel rest s'
        | .error clash => .error { cause := some clash.message, left := cs.length }
      | .error f => .error f

/-- The byte offset of the character `count` characters into the text. -/
def byteOffset (cs : List Char) (count : Nat) : Nat :=
  (String.ofList (cs.take count)).utf8ByteSize

end Proximity.Toml

namespace Proximity.TomlValue

open Toml in
/-- The root table of a TOML document. -/
def readTable (text : String) : Except ReadError (List (String × TomlValue)) :=
  let all := text.toList
  let body := match all with
    | '\uFEFF' :: rest => rest
    | cs => cs
  match lines (body.length + 1) body {} with
  | .error f =>
    let offset := byteOffset all (all.length - f.left)
    .error { message := f.message, offset := some offset, text }
  | .ok s =>
    match s.close with
    | .ok s' => .ok (entriesToValue s'.root)
    | .error clash => .error { message := clash.message, offset := none, text }

end Proximity.TomlValue
