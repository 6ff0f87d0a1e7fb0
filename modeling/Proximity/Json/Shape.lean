import Proximity.Json.Read
import Proximity.Text.Quoted

/-!
# Typed reading of JSON

A `Shape` says what a value must look like: a boolean, an unsigned integer of some width,
a 32-bit float, a checked string, a list, an optional value, a record with named fields,
or one of a few names. A shape is checked in two ways:

* `Shape.decode` checks a value that is already parsed. Record members are visited in the
  order of their keys, and a record may also be given as a list of its fields in order.
* `Shape.parseText` reads JSON text directly, and places every error at the line and
  column where it was noticed, with the path to the value that was being read.

Both give the value in a canonical form: a record becomes an object with every field in
the order of the shape, missing fields filled with their defaults (`null` for an optional
field); a 32-bit float becomes the float it denotes.

Errors name what was found and what was expected, as in
`invalid type: string "5", expected u32` or ``missing field `mac` ``.
-/

namespace Proximity.Json

/-- What was found where something else was expected. -/
inductive Unexpected where
  | null
  | bool (b : Bool)
  | unsigned (n : Nat)
  | signed (n : Int)
  | float (x : Float)
  | str (s : String)
  | seq
  | map

/-- How an error names what was found. -/
def Unexpected.text : Unexpected → String
  | .null => "null"
  | .bool b => s!"boolean `{b}`"
  | .unsigned n => s!"integer `{n}`"
  | .signed n => s!"integer `{n}`"
  | .float x => "floating point `" ++ Decimal.messageFloat64 x ++ "`"
  | .str s => "string " ++ Text.quoted s
  | .seq => "sequence"
  | .map => "map"

/-- What a parsed value is, as an error names it. -/
def Unexpected.ofJson : Json → Unexpected
  | .null => .null
  | .bool b => .bool b
  | .nat n => .unsigned n
  | .neg n => .signed n
  | .float x => .float x
  | .float32 x => .float x.toFloat
  | .str s => .str s
  | .arr _ => .seq
  | .obj _ => .map

/-- The message for a value of the wrong kind. -/
def invalidType (u : Unexpected) (expected : String) : String :=
  "invalid type: " ++ u.text ++ ", expected " ++ expected

/-- The message for a value of the right kind out of its range. -/
def invalidValue (u : Unexpected) (expected : String) : String :=
  "invalid value: " ++ u.text ++ ", expected " ++ expected

/-- The message for a list of the wrong length. -/
def invalidLength (n : Nat) (expected : String) : String :=
  s!"invalid length {n}, expected " ++ expected

/-- The message for a required field that is absent. -/
def missingField (name : String) : String := "missing field `" ++ name ++ "`"

/-- The message for a field given twice. -/
def duplicateField (name : String) : String := "duplicate field `" ++ name ++ "`"

/-- The names a choice accepts, as a message lists them. -/
def oneOf (names : List String) : String :=
  let tick (n : String) := "`" ++ n ++ "`"
  match names with
  | [] => "nothing"
  | [a] => tick a
  | [a, b] => tick a ++ " or " ++ tick b
  | _ => "one of " ++ ", ".intercalate (names.map tick)

/-- The message for a name that is not one of the choices. -/
def unknownVariant (name : String) (names : List String) : String :=
  if names.isEmpty then "unknown variant `" ++ name ++ "`, there are no variants"
  else "unknown variant `" ++ name ++ "`, expected " ++ oneOf names

/-- A field of a record: its name, its shape, and its default when it may be absent. -/
structure FieldSpec (σ : Type) where
  name : String
  shape : σ
  fallback : Option Json := none

/-- What a JSON value must look like. -/
inductive Shape where
  | bool
  /-- an unsigned integer below `2^bits` -/
  | unsigned (bits : Nat)
  /-- a number, read as the nearest 32-bit float -/
  | f32
  /-- a string accepted by `check` (which gives the error text otherwise); `expecting`
  names it in errors; a `late` check runs after the string was read, so its error is
  placed where the enclosing record ends -/
  | text (expecting : String) (check : String → Option String) (late : Bool)
  | seq (item : Shape)
  /-- `null` or a value of the inner shape -/
  | option (inner : Shape)
  /-- an object with named fields, or a list of the fields in order -/
  | record (name : String) (fields : List (FieldSpec Shape))
  /-- one of some names, as a string -/
  | variants (names : List String)

namespace Shape

/-- Any string. -/
def string : Shape := .text "a string" (fun _ => none) false

/-- How errors name what a shape expects. -/
def expecting : Shape → String
  | .bool => "a boolean"
  | .unsigned bits => s!"u{bits}"
  | .f32 => "f32"
  | .text e _ _ => e
  | .seq _ => "a sequence"
  | .option _ => "option"
  | .record name _ => "struct " ++ name
  | .variants _ => "string or map"

/-- The number a value of shape `unsigned bits` or `f32` stands for, if it is in range. -/
def visitNumber (s : Shape) (n : Json) : Except String Json :=
  match s, n with
  | .unsigned bits, .nat k =>
    if k < Nat.pow 2 bits then .ok (.nat k) else .error (invalidValue (.unsigned k) s.expecting)
  | .unsigned _, .neg k => .error (invalidValue (.signed k) s.expecting)
  | .f32, .nat k => .ok (.float32 (Float32.ofNat k))
  | .f32, .neg k => .ok (.float32 (-(Float32.ofNat k.natAbs)))
  | .f32, .float x => .ok (.float32 x.toFloat32)
  | _, j => .error (invalidType (.ofJson j) s.expecting)

/-- Whether a text check runs late. -/
def isLate : Shape → Bool
  | .text _ _ late => late
  | _ => false

/-- The late check of a shape on a value read for it. -/
def lateCheck (s : Shape) (j : Json) : Option String :=
  match s, j with
  | .text _ check true, .str v => check v
  | _, _ => none

/-- The position of a field by name. -/
def fieldIndex (fields : List (FieldSpec Shape)) (key : String) : Option Nat :=
  fields.findIdx? (·.name == key)

/-- The value of an absent field: its default, `null` when it is optional, else an error. -/
def absent (f : FieldSpec Shape) : Except String Json :=
  match f.fallback, f.shape with
  | some d, _ => .ok d
  | none, .option _ => .ok .null
  | none, _ => .error (missingField f.name)

/-- The record of found fields, with absent ones filled in, in the order of the shape. -/
def complete (fields : List (FieldSpec Shape)) (found : List (Option Json)) :
    Except String Json := do
  let values ← (fields.zip (found ++ List.replicate (fields.length - found.length) none)).mapM
    fun (f, v) => match v with
      | some j => pure (f.name, j)
      | none => do pure (f.name, ← absent f)
  pure (.obj values)

/-- Records a value for the field at position `i`. -/
def setAt (found : List (Option Json)) (i : Nat) (j : Json) : List (Option Json) :=
  found.set i (some j)

/-! ## Checking parsed values -/

/-- Puts a member in front of an object's members. -/
def prepend (m : String × Json) : Json → Json
  | .obj ms => .obj (m :: ms)
  | j => j

mutual

/-- Checks a parsed value against a shape and gives its canonical form. -/
def decodeWith : Nat → Shape → Json → Except String Json
  | 0, _, _ => .error "value nested too deeply"
  | fuel + 1, shape, j =>
    match shape, j with
    | .bool, .bool b => .ok (.bool b)
    | .bool, _ => .error (invalidType (.ofJson j) "a boolean")
    | .unsigned bits, .nat _ | .unsigned bits, .neg _ | .unsigned bits, .float _ =>
      visitNumber (.unsigned bits) j
    | .unsigned bits, _ => .error (invalidType (.ofJson j) (expecting (.unsigned bits)))
    | .f32, .nat _ | .f32, .neg _ | .f32, .float _ => visitNumber .f32 j
    | .f32, _ => .error (invalidType (.ofJson j) "f32")
    | .text _ check _, .str v =>
      match check v with
      | none => .ok (.str v)
      | some m => .error m
    | .text e _ _, _ => .error (invalidType (.ofJson j) e)
    | .seq item, .arr items => .arr <$> decodeItems fuel item items
    | .seq _, _ => .error (invalidType (.ofJson j) "a sequence")
    | .option _, .null => .ok .null
    | .option inner, _ => decodeWith fuel inner j
    | .record _ fields, .obj members => do
      let found ← decodeMembers fuel fields (normalizeMembers members)
        (List.replicate fields.length none)
      complete fields found
    | .record name fields, .arr items =>
      decodeFieldList fuel name fields.length 0 fields items
    | .record name _, _ => .error (invalidType (.ofJson j) ("struct " ++ name))
    | .variants names, .str v =>
      if names.contains v then .ok (.str v) else .error (unknownVariant v names)
    | .variants names, .obj [(v, payload)] =>
      if !names.contains v then .error (unknownVariant v names)
      else match payload with
        | .null => .ok (.str v)
        | _ => .error (invalidType (.ofJson payload) "unit")
    | .variants _, .obj _ => .error (invalidValue .map "map with a single key")
    | .variants _, _ => .error (invalidType (.ofJson j) "string or map")

/-- Checks the items of a list. -/
def decodeItems : Nat → Shape → List Json → Except String (List Json)
  | 0, _, _ => .error "value nested too deeply"
  | _ + 1, _, [] => .ok []
  | fuel + 1, item, j :: js => do
    let v ← decodeWith fuel item j
    let vs ← decodeItems fuel item js
    pure (v :: vs)

/-- Checks the members of an object in key order; members without a field are ignored. -/
def decodeMembers : Nat → List (FieldSpec Shape) → List (String × Json) → List (Option Json) →
    Except String (List (Option Json))
  | 0, _, _, _ => .error "value nested too deeply"
  | _ + 1, _, [], found => .ok found
  | fuel + 1, fields, (k, j) :: rest, found =>
    match fieldIndex fields k with
    | some i => do
      let v ← decodeField fuel fields i j
      decodeMembers fuel fields rest (setAt found i v)
    | none => decodeMembers fuel fields rest found

/-- Checks the value of the field at position `i`. -/
def decodeField : Nat → List (FieldSpec Shape) → Nat → Json → Except String Json
  | 0, _, _, _ => .error "value nested too deeply"
  | _ + 1, [], _, j => .ok j
  | fuel + 1, f :: _, 0, j => decodeWith fuel f.shape j
  | fuel + 1, _ :: fs, i + 1, j => decodeField fuel fs i j

/-- Checks a record given as the list of its fields in order. -/
def decodeFieldList : Nat → String → Nat → Nat → List (FieldSpec Shape) → List Json →
    Except String Json
  | 0, _, _, _, _, _ => .error "value nested too deeply"
  | _ + 1, _, _, _, [], [] => .ok (.obj [])
  | _ + 1, _, _, index, [], extra =>
    .error (invalidLength (index + extra.length) "fewer elements in array")
  | fuel + 1, name, count, index, f :: fs, [] =>
    match f.fallback with
    | some d => do
      let rest ← decodeFieldList fuel name count (index + 1) fs []
      pure (prepend (f.name, d) rest)
    | none => .error (invalidLength index s!"struct {name} with {count} elements")
  | fuel + 1, name, count, index, f :: fs, j :: js => do
    let v ← decodeWith fuel f.shape j
    let rest ← decodeFieldList fuel name count (index + 1) fs js
    pure (prepend (f.name, v) rest)

end

/-- Checks a parsed value against a shape and gives its canonical form. -/
def decode (s : Shape) (j : Json) : Except String Json :=
  decodeWith (4 * j.weight + 64) s j

end Shape

/-! ## Reading text -/

namespace Reader

/-- Gives an error that has no path yet the path of the value being read. -/
def tracked (path : List PathStep) (r : Reader α) : Reader α :=
  tryCatch r fun e => throw (if e.path.isNone then { e with path := some path } else e)

/-- Fails with a data error that has no place yet. -/
def failData (text : String) : Reader α := throw (ReadError.data text)

/-- Reads what stands where a value of another kind was expected, and fails naming it. -/
def wrongKind (expected : String) : Reader α := do
  let found ← do
    match ← peek with
    | some 110 => bump; ident "ull"; pure Unexpected.null
    | some 116 => bump; ident "rue"; pure (.bool true)
    | some 102 => bump; ident "alse"; pure (.bool false)
    | some 45 => bump; pure (Unexpected.ofJson (← integer false))
    | some 34 => bump; pure (.str (← string))
    | some 91 => pure .seq
    | some 123 => pure .map
    | some b =>
      if isDigitByte b then pure (Unexpected.ofJson (← integer true))
      else failAhead .expectedSomeValue
    | none => failAhead .expectedSomeValue
  placed (failData (invalidType found expected))

/-- Runs a body, then a closing step even when the body failed; the body's error wins. -/
def thenClose (body : Reader α) (close : Reader Unit) : Reader α := do
  let r ← attempt body
  let closed ← attempt close
  match r, closed with
  | .ok v, .ok () => pure v
  | .error e, _ => throw e
  | _, .error e => throw e

/-- Lifts the outcome of a check into a reader, as a data error without a place. -/
def ofCheck : Except String α → Reader α
  | .ok v => pure v
  | .error m => failData m

/-- Reads the separator before the next item of a list: gives none at the closing bracket. -/
def itemAhead (first : Bool) : Reader (Option Unit) := do
  let ahead ← do
    match ← skipBlank with
    | some 93 => pure none
    | some 44 =>
      if first then failAhead .expectedSomeValue
      else
        bump
        pure (some (← skipBlank))
    | some b => if first then pure (some (some b)) else failAhead .expectedListCommaOrEnd
    | none => failAhead .eofWhileParsingList
  match ahead with
  | none => pure none
  | some (some 93) => failAhead .trailingComma
  | some (some _) => pure (some ())
  | some none => failAhead .eofWhileParsingValue

/-- Reads the separator before the next member of an object: gives none at the closing
brace, else reads the key. -/
def keyAhead (first : Bool) : Reader (Option String) := do
  let ahead ← do
    match ← skipBlank with
    | some 125 => pure none
    | some 44 =>
      if first then failAhead .keyMustBeAString
      else
        bump
        pure (some (← skipBlank))
    | some b => if first then pure (some (some b)) else failAhead .expectedObjectCommaOrEnd
    | none => failAhead .eofWhileParsingObject
  match ahead with
  | none => pure none
  | some (some 34) =>
    bump
    pure (some (← string))
  | some (some 125) => failAhead .trailingComma
  | some (some _) => failAhead .keyMustBeAString
  | some none => failAhead .eofWhileParsingValue

mutual

/-- Reads a value of a shape; `path` leads to it from the top of the document. -/
def typed : Nat → Shape → List PathStep → Reader Json
  | 0, _, _ => failAhead .eofWhileParsingValue
  | fuel + 1, shape, path => tracked path do
    let j ← typedNow fuel shape path
    match shape.lateCheck j with
    | some m => failData m
    | none => pure j

/-- Reads a value of a shape, before any late check. -/
def typedNow : Nat → Shape → List PathStep → Reader Json
  | 0, _, _ => failAhead .eofWhileParsingValue
  | fuel + 1, shape, path =>
    match shape with
    | .option inner => do
      match ← skipBlank with
      | some 110 => bump; ident "ull"; pure .null
      | _ => typedNow fuel inner path
    | .seq item => placed do
      match ← skipBlank with
      | none => failAhead .eofWhileParsingValue
      | some 91 =>
        let items ← thenClose (nested (bump *> typedItems fuel item path 0 [])) endArray
        pure (.arr items)
      | some _ => wrongKind "a sequence"
    | .record name fields => placed do
      match ← skipBlank with
      | none => failAhead .eofWhileParsingValue
      | some 91 =>
        thenClose (nested (bump *> typedFieldList fuel name fields path 0 fields [])) endArray
      | some 123 =>
        let found ← thenClose
          (nested (bump *> typedMembers fuel fields path true
            (List.replicate fields.length none)))
          endObject
        ofCheck (Shape.complete fields found)
      | some _ => wrongKind ("struct " ++ name)
    | .variants names => do
      match ← skipBlank with
      | some 34 => placed do
        bump
        let v ← string
        if names.contains v then pure (.str v) else failData (unknownVariant v names)
      | some 123 =>
        let v ← nested do
          bump
          let v ← placed do
            match ← skipBlank with
            | some 34 =>
              bump
              let v ← string
              if names.contains v then pure v else failData (unknownVariant v names)
            | none => failAhead .eofWhileParsingValue
            | some _ => wrongKind "variant identifier"
          colon
          tracked (path ++ [.key v]) <| placed do
            match ← skipBlank with
            | some 110 => bump; ident "ull"
            | none => failAhead .eofWhileParsingValue
            | some _ => wrongKind "unit"
          pure v
        match ← skipBlank with
        | some 125 => bump; pure (.str v)
        | some _ => failHere .expectedSomeValue
        | none => failHere .eofWhileParsingObject
      | some _ => failAhead .expectedSomeValue
      | none => failAhead .eofWhileParsingValue
    | .bool => placed do
      match ← skipBlank with
      | some 116 => bump; ident "rue"; pure (.bool true)
      | some 102 => bump; ident "alse"; pure (.bool false)
      | none => failAhead .eofWhileParsingValue
      | some _ => wrongKind "a boolean"
    | .text e check late => placed do
      match ← skipBlank with
      | some 34 =>
        bump
        let v ← string
        match (if late then none else check v) with
        | some m => failData m
        | none => pure (.str v)
      | none => failAhead .eofWhileParsingValue
      | some _ => wrongKind e
    | .unsigned _ | .f32 => placed do
      match ← skipBlank with
      | some 45 =>
        bump
        ofCheck (shape.visitNumber (← integer false))
      | some b =>
        if isDigitByte b then ofCheck (shape.visitNumber (← integer true))
        else wrongKind shape.expecting
      | none => failAhead .eofWhileParsingValue

/-- Reads the items of a list up to its closing bracket. -/
def typedItems : Nat → Shape → List PathStep → Nat → List Json → Reader (List Json)
  | 0, _, _, _, acc => pure acc.reverse
  | fuel + 1, item, path, index, acc => do
    match ← itemAhead (index == 0) with
    | none => pure acc.reverse
    | some () =>
      let v ← typed fuel item (path ++ [.index index])
      typedItems fuel item path (index + 1) (v :: acc)

/-- Reads the members of an object up to its closing brace, keeping the values of fields
by position. -/
def typedMembers : Nat → List (FieldSpec Shape) → List PathStep → Bool → List (Option Json) →
    Reader (List (Option Json))
  | 0, _, _, _, found => pure found
  | fuel + 1, fields, path, first, found => do
    match ← keyAhead first with
    | none => pure found
    | some key =>
      match Shape.fieldIndex fields key with
      | some i =>
        if (found.getD i none).isSome then failData (duplicateField key)
        else
          colon
          let v ← typedField fuel fields i (path ++ [.key key])
          typedMembers fuel fields path false (Shape.setAt found i v)
      | none =>
        colon
        tracked (path ++ [.key key]) skipValue
        typedMembers fuel fields path false found

/-- Reads the value of the field at position `i`. -/
def typedField : Nat → List (FieldSpec Shape) → Nat → List PathStep → Reader Json
  | 0, _, _, _ => failAhead .eofWhileParsingValue
  | fuel + 1, fields, i, path =>
    match fields, i with
    | f :: _, 0 => typed fuel f.shape path
    | _ :: fs, i + 1 => typedField fuel fs i path
    | [], _ => skipValue *> pure .null

/-- Reads a record given as the list of its fields in order. -/
def typedFieldList : Nat → String → List (FieldSpec Shape) → List PathStep → Nat →
    List (FieldSpec Shape) → List (String × Json) → Reader Json
  | 0, _, _, _, _, _, acc => pure (.obj acc.reverse)
  | fuel + 1, name, all, path, index, rest, acc =>
    match rest with
    | [] => pure (.obj acc.reverse)
    | f :: fs => do
      match ← itemAhead (index == 0) with
      | none =>
        match f.fallback with
        | some d => typedFieldList fuel name all path (index + 1) fs ((f.name, d) :: acc)
        | none =>
          let count := all.length
          failData (invalidLength index s!"struct {name} with {count} elements")
      | some () =>
        let v ← typed fuel f.shape (path ++ [.index index])
        typedFieldList fuel name all path (index + 1) fs ((f.name, v) :: acc)

end

end Reader

namespace Shape

/-- Reads a JSON text as a value of a shape; only blanks may follow it. -/
def parseText (s : Shape) (text : String) : Except ReadError Json :=
  Reader.runText (Reader.typed (2 * Reader.budget text + 8) s []) text

end Shape

end Proximity.Json
