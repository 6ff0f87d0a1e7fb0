/-!
# Errors of reading JSON text

Reading JSON text fails for two kinds of reasons: the text is not JSON (a syntax error,
or the end of the text comes too early), or it is JSON but not of the expected shape (a
data error, such as a missing field). Each error may carry the place it was found: the
line, counted from one, and the column, the number of bytes read on that line. An error
found while checking an already parsed value has no place.
-/

namespace Proximity.Json

/-- What went wrong while reading JSON text. -/
inductive ErrorCode where
  /-- a data error, with its text -/
  | message (text : String)
  | eofWhileParsingList
  | eofWhileParsingObject
  | eofWhileParsingString
  | eofWhileParsingValue
  | expectedColon
  | expectedListCommaOrEnd
  | expectedObjectCommaOrEnd
  | expectedSomeIdent
  | expectedSomeValue
  | invalidEscape
  | invalidNumber
  | numberOutOfRange
  | invalidUnicodeCodePoint
  | controlCharacterWhileParsingString
  | keyMustBeAString
  | loneLeadingSurrogateInHexEscape
  | trailingComma
  | trailingCharacters
  | unexpectedEndOfHexEscape
  | recursionLimitExceeded
  deriving DecidableEq, Repr, Inhabited

/-- The kind of an error: the text ended early, the text is not JSON, or the JSON is not
of the expected shape. -/
inductive ErrorKind where
  | eof
  | malformed
  | data
  deriving DecidableEq, Repr

namespace ErrorCode

/-- The text of an error code. -/
def text : ErrorCode → String
  | message t => t
  | eofWhileParsingList => "EOF while parsing a list"
  | eofWhileParsingObject => "EOF while parsing an object"
  | eofWhileParsingString => "EOF while parsing a string"
  | eofWhileParsingValue => "EOF while parsing a value"
  | expectedColon => "expected `:`"
  | expectedListCommaOrEnd => "expected `,` or `]`"
  | expectedObjectCommaOrEnd => "expected `,` or `\x7d`"
  | expectedSomeIdent => "expected ident"
  | expectedSomeValue => "expected value"
  | invalidEscape => "invalid escape"
  | invalidNumber => "invalid number"
  | numberOutOfRange => "number out of range"
  | invalidUnicodeCodePoint => "invalid unicode code point"
  | controlCharacterWhileParsingString =>
    "control character (\\u0000-\\u001F) found while parsing a string"
  | keyMustBeAString => "key must be a string"
  | loneLeadingSurrogateInHexEscape => "lone leading surrogate in hex escape"
  | trailingComma => "trailing comma"
  | trailingCharacters => "trailing characters"
  | unexpectedEndOfHexEscape => "unexpected end of hex escape"
  | recursionLimitExceeded => "recursion limit exceeded"

/-- The kind of an error code. -/
def kind : ErrorCode → ErrorKind
  | message _ => .data
  | eofWhileParsingList | eofWhileParsingObject | eofWhileParsingString
  | eofWhileParsingValue => .eof
  | _ => .malformed

end ErrorCode

/-- One step of the path from the top of a document to the value being read. -/
inductive PathStep where
  | index (i : Nat)
  | key (k : String)
  deriving DecidableEq, Repr

/-- An error of reading JSON, with its place when it has one (line 0 when it has none),
and, when a reader tracks it, the path to the value being read when it was found,
outermost step first. -/
structure ReadError where
  code : ErrorCode
  line : Nat := 0
  column : Nat := 0
  path : Option (List PathStep) := none
  deriving Repr, Inhabited

namespace ReadError

/-- A data error without a place. -/
def data (text : String) : ReadError := { code := .message text }

/-- The text of the error, with its place when it has one. -/
def message (e : ReadError) : String :=
  if e.line == 0 then e.code.text
  else
    let text := e.code.text
    let line := e.line
    let column := e.column
    s!"{text} at line {line} column {column}"

/-- A path written with keys joined by dots and indices in brackets. -/
def pathText (steps : List PathStep) : String :=
  let rec go (first : Bool) : List PathStep → String
    | [] => ""
    | .index i :: rest => s!"[{i}]" ++ go false rest
    | .key k :: rest => (if first then "" else ".") ++ k ++ go false rest
  go true steps

/-- The text of the error, led by its path when the path has a step. -/
def messageWithPath (e : ReadError) : String :=
  match e.path with
  | some (step :: steps) => pathText (step :: steps) ++ ": " ++ e.message
  | _ => e.message

end ReadError

end Proximity.Json
