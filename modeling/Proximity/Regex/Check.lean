import Proximity.Unicode.Letters
import Proximity.Regex.Property

/-!
# Regular expression syntax

`Regex.check` reads a regular expression the way a DFA-building regex engine does before
it builds anything, and gives the first reason the expression is refused:

* a syntax error, found while reading left to right: an unclosed or unopened group, a
  repetition with nothing to repeat, an unclosed class, a bad escape, a bad flag, a bad
  capture name, a bad counted repetition, look-around or a backreference;
* when the syntax is sound, a translation error, the first in the same order: a Unicode
  property that does not exist, or, with Unicode turned off (`(?-u)`), something that
  could match bytes that are not UTF-8 (`.`, `\xFF`, `\W`, `[^a]`) or Unicode inside a
  byte class;
* when both are sound, a Unicode word boundary (`\b`, `\B`, `\<`, `\>` with Unicode on),
  which a DFA cannot be built for.

A syntax or translation error is shown with the expression and carets under the part
that is wrong (`Error.render`).

The reader keeps what a parser's stacks would: the open groups with the flags to restore
when they close, the open classes, whether the expression so far ends in something a
repetition can apply to, the capture names seen, and, for classes read without Unicode,
which bytes from `0x80` up they hold.
-/

namespace Proximity.Regex

/-- A place in an expression: the characters before it, and its line and column, counted
from one. -/
structure Position where
  offset : Nat
  line : Nat
  column : Nat
  deriving DecidableEq, Repr, Inhabited

/-- The characters from `start` up to `stop`, which is not included. -/
structure Span where
  start : Position
  stop : Position
  deriving DecidableEq, Repr, Inhabited

/-- What is wrong with an expression. -/
inductive ErrorKind where
  | classEscapeInvalid
  | classRangeInvalid
  | classRangeLiteral
  | classUnclosed
  | decimalEmpty
  | decimalInvalid
  | escapeHexEmpty
  | escapeHexInvalid
  | escapeHexInvalidDigit
  | escapeUnexpectedEof
  | escapeUnrecognized
  | flagDanglingNegation
  | flagDuplicate
  | flagRepeatedNegation
  | flagUnexpectedEof
  | flagUnrecognized
  | groupNameDuplicate
  | groupNameEmpty
  | groupNameInvalid
  | groupNameUnexpectedEof
  | groupUnclosed
  | groupUnopened
  | repetitionCountInvalid
  | repetitionCountDecimalEmpty
  | repetitionCountUnclosed
  | repetitionMissing
  | specialWordBoundaryUnclosed
  | specialWordBoundaryUnrecognized
  | specialWordOrRepetitionUnexpectedEof
  | unicodeClassInvalid
  | unsupportedBackreference
  | unsupportedLookAround
  | unicodeNotAllowed
  | invalidUtf8
  | propertyNotFound
  | propertyValueNotFound
  deriving DecidableEq, Repr

/-- The words for what is wrong. -/
def ErrorKind.message : ErrorKind → String
  | .classEscapeInvalid => "invalid escape sequence found in character class"
  | .classRangeInvalid => "invalid character class range, the start must be <= the end"
  | .classRangeLiteral => "invalid range boundary, must be a literal"
  | .classUnclosed => "unclosed character class"
  | .decimalEmpty => "decimal literal empty"
  | .decimalInvalid => "decimal literal invalid"
  | .escapeHexEmpty => "hexadecimal literal empty"
  | .escapeHexInvalid => "hexadecimal literal is not a Unicode scalar value"
  | .escapeHexInvalidDigit => "invalid hexadecimal digit"
  | .escapeUnexpectedEof => "incomplete escape sequence, reached end of pattern prematurely"
  | .escapeUnrecognized => "unrecognized escape sequence"
  | .flagDanglingNegation => "dangling flag negation operator"
  | .flagDuplicate => "duplicate flag"
  | .flagRepeatedNegation => "flag negation operator repeated"
  | .flagUnexpectedEof => "expected flag but got end of regex"
  | .flagUnrecognized => "unrecognized flag"
  | .groupNameDuplicate => "duplicate capture group name"
  | .groupNameEmpty => "empty capture group name"
  | .groupNameInvalid => "invalid capture group character"
  | .groupNameUnexpectedEof => "unclosed capture group name"
  | .groupUnclosed => "unclosed group"
  | .groupUnopened => "unopened group"
  | .repetitionCountInvalid => "invalid repetition count range, the start must be <= the end"
  | .repetitionCountDecimalEmpty => "repetition quantifier expects a valid decimal"
  | .repetitionCountUnclosed => "unclosed counted repetition"
  | .repetitionMissing => "repetition operator missing expression"
  | .specialWordBoundaryUnclosed =>
    "special word boundary assertion is either unclosed or contains an invalid character"
  | .specialWordBoundaryUnrecognized =>
    "unrecognized special word boundary assertion, valid choices are: start, end, " ++
      "start-half or end-half"
  | .specialWordOrRepetitionUnexpectedEof =>
    "found either the beginning of a special word boundary or a bounded repetition on a " ++
      "\\b with an opening brace, but no closing brace"
  | .unicodeClassInvalid => "invalid Unicode character class"
  | .unsupportedBackreference => "backreferences are not supported"
  | .unsupportedLookAround =>
    "look-around, including look-ahead and look-behind, is not supported"
  | .unicodeNotAllowed => "Unicode not allowed here"
  | .invalidUtf8 => "pattern can match invalid UTF-8"
  | .propertyNotFound => "Unicode property not found"
  | .propertyValueNotFound => "Unicode property value not found"

/-- An error in an expression: what, where, and for a duplicate, where the first one
stands. -/
structure Error where
  kind : ErrorKind
  span : Span
  aux : Option Span := none
  deriving Repr

/-! ## Showing an error -/

/-- `n` copies of a character. -/
def repeatChar (c : Char) (n : Nat) : String := String.ofList (List.replicate n c)

/-- The lines of a text: cut at line feeds, a carriage return before one dropped, and no
empty line after a final line feed. -/
def textLines (s : String) : List String :=
  let parts := s.splitOn "\n"
  let ended := parts.dropLast.map fun l =>
    if l.endsWith "\r" then String.ofList l.toList.dropLast else l
  if s.isEmpty then []
  else if s.endsWith "\n" then ended
  else ended ++ parts.getLast?.toList

/-- The carets under one line for the spans on it, in order, after `indent` blanks. -/
def caretLine (indent : Nat) (spans : List Span) : String :=
  let step := fun (acc : String × Nat) (sp : Span) =>
    let (out, pos) := acc
    let gap := sp.start.column - 1 - pos
    let width := max 1 (sp.stop.column - sp.start.column)
    (out ++ repeatChar ' ' gap ++ repeatChar '^' width, pos + gap + width)
  repeatChar ' ' indent ++ (spans.foldl step ("", 0)).1

/-- The spans of an error, in order of place. -/
def Error.spans (e : Error) : List Span :=
  match e.aux with
  | none => [e.span]
  | some a => if a.start.offset < e.span.start.offset ||
      (a.start.offset == e.span.start.offset && a.stop.offset < e.span.stop.offset)
    then [a, e.span] else [e.span, a]

/-- An error as the engine shows it: the expression with carets under the parts that are
wrong, then the words. An expression of several lines is shown between rules, with line
numbers, and spans that cross lines are named by their lines and columns. -/
def Error.render (pattern : String) (e : Error) : String :=
  let lines := textLines pattern
  let count := lines.length + (if pattern.endsWith "\n" then 1 else 0)
  let spans := e.spans
  let oneLine := spans.filter fun s => s.start.line == s.stop.line
  let across := spans.filter fun s => s.start.line != s.stop.line
  let width := if count ≤ 1 then 0 else (toString count).length
  let noted := String.join (lines.zipIdx.map fun (l, i) =>
    let label := if width == 0 then "    "
      else repeatChar ' ' (width - (toString (i + 1)).length) ++ toString (i + 1) ++ ": "
    let here := oneLine.filter (·.start.line == i + 1)
    label ++ l ++ "\n" ++
      (if here.isEmpty then "" else caretLine (if width == 0 then 4 else width + 2) here ++ "\n"))
  if pattern.contains '\n' then
    let rule := repeatChar '~' 79
    let notes := across.map fun s =>
      "on line " ++ toString s.start.line ++ " (column " ++ toString s.start.column ++
        ") through line " ++ toString s.stop.line ++ " (column " ++
        toString (s.stop.column - 1) ++ ")"
    "regex parse error:\n" ++ rule ++ "\n" ++ noted ++ rule ++ "\n" ++
      (if notes.isEmpty then "" else "\n".intercalate notes ++ "\n") ++
      "error: " ++ e.kind.message
  else "regex parse error:\n" ++ noted ++ "error: " ++ e.kind.message

/-! ## The reader's state -/

/-- A group that is open, or an alternation open at the current depth. A group keeps the
flags to restore when it closes. -/
inductive Frame where
  | group (span : Span) (ignoreSpace unicode : Bool)
  | alternation

/-- What the current run of an expression ends in: nothing, a flag setting such as
`(?i)`, or something a repetition can apply to. -/
inductive Last where
  | nothing
  | flags
  | item
  deriving DecidableEq

/-- A set operation between parts of a class. -/
inductive SetOp where
  | intersection
  | difference
  | symmetricDifference

/-- The high bytes, `0x80` to `0xFF`, as the 128 bits of a number. -/
def allHigh : Nat := Nat.pow 2 128 - 1

/-- The high bytes from `lo` to `hi`. -/
def highRange (lo hi : Nat) : Nat :=
  let lo := max lo 0x80
  let hi := min hi 0xFF
  if hi < lo then 0 else (Nat.pow 2 (hi - 0x80 + 1) - 1) - (Nat.pow 2 (lo - 0x80) - 1)

/-- The high bytes a set operation leaves. -/
def SetOp.apply : SetOp → Nat → Nat → Nat
  | .intersection, a, b => a &&& b
  | .difference, a, b => a &&& (allHigh ^^^ b)
  | .symmetricDifference, a, b => a ^^^ b

/-- A class that is open: where its bracket stands, whether it is negated, the high bytes
of the items read since the last set operation, and the operation waiting for them. -/
structure ClassFrame where
  span : Span
  negated : Bool
  high : Nat := 0
  pending : Option (SetOp × Nat) := none

/-- The high bytes a class frame holds so far. -/
def ClassFrame.value (f : ClassFrame) : Nat :=
  match f.pending with
  | none => f.high
  | some (op, lhs) => op.apply lhs f.high

/-- The state of the reader. -/
structure Parser where
  chars : Array Char
  pos : Position := ⟨0, 1, 1⟩
  ignoreSpace : Bool := false
  unicode : Bool := true
  last : Last := .nothing
  groups : List Frame := []
  classes : List ClassFrame := []
  names : List (String × Span) := []
  translation : Option Error := none
  wordBoundary : Bool := false

/-- The reader: a state, and an error that stops it. -/
abbrev ParseM := StateT Parser (Except Error)

/-- Stop with an error. -/
def fail (kind : ErrorKind) (span : Span) : ParseM α :=
  throw { kind, span }

/-- Stop with an error that names a second place, where the first of a duplicate
stands. -/
def failAt (kind : ErrorKind) (span original : Span) : ParseM α :=
  throw { kind, span, aux := some original }

/-- Stop with an error that was read as a value. -/
def ofExcept : Except Error α → ParseM α
  | .ok a => pure a
  | .error e => throw e

/-- Note a translation error; only the first counts. -/
def noteTranslation (kind : ErrorKind) (span : Span) : ParseM Unit :=
  modify fun p => if p.translation.isSome then p else { p with translation := some { kind, span } }

/-- The character at the reader, if any. -/
def current : ParseM (Option Char) := do
  let p ← get
  pure p.chars[p.pos.offset]?

/-- The character at the reader, or a NUL past the end. -/
def currentChar : ParseM Char := do
  pure ((← current).getD '\x00')

/-- Whether the reader is past the end. -/
def atEnd : ParseM Bool := do
  pure (← current).isNone

/-- Where the reader is. -/
def position : ParseM Position := do
  pure (← get).pos

/-- The position after a character. -/
def Position.next (p : Position) (c : Char) : Position :=
  if c == '\n' then ⟨p.offset + 1, p.line + 1, 1⟩ else ⟨p.offset + 1, p.line, p.column + 1⟩

/-- Move to `pos`. -/
def moveTo (pos : Position) : ParseM Unit :=
  modify fun p => { p with pos }

/-- Step over the character at the reader; whether one is left after it. -/
def bump : ParseM Bool := do
  let p ← get
  match p.chars[p.pos.offset]? with
  | none => pure false
  | some c =>
    let pos := p.pos.next c
    set { p with pos }
    pure (pos.offset < p.chars.size)

/-- The empty span at the reader. -/
def spanHere : ParseM Span := do
  let pos ← position
  pure ⟨pos, pos⟩

/-- The span of the character at the reader. -/
def spanChar : ParseM Span := do
  let pos ← position
  pure ⟨pos, pos.next (← currentChar)⟩

/-- Skips a comment up to and including its line feed. -/
def skipComment : Nat → ParseM Unit
  | 0 => pure ()
  | fuel + 1 => do
    match ← current with
    | none => pure ()
    | some c =>
      let _ ← bump
      if c == '\n' then pure () else skipComment fuel

/-- With blanks ignored (`x`), skips blanks and comments. -/
def skipBlanks : Nat → ParseM Unit
  | 0 => pure ()
  | fuel + 1 => do
    match ← current with
    | none => pure ()
    | some c =>
      if Unicode.isWhiteSpace c then
        let _ ← bump
        skipBlanks fuel
      else if c == '#' then
        let _ ← bump
        skipComment (← get).chars.size
        skipBlanks fuel
      else pure ()

/-- Skips blanks and comments when blanks are ignored. -/
def bumpSpace : ParseM Unit := do
  let p ← get
  if p.ignoreSpace then skipBlanks p.chars.size

/-- Steps over a character and the blanks after it; whether one is left. -/
def bumpAndBumpSpace : ParseM Bool := do
  if !(← bump) then return false
  bumpSpace
  pure !(← atEnd)

/-- Steps over `s` if the text at the reader starts with it. -/
def bumpIf (s : List Char) : ParseM Bool := do
  let p ← get
  if (p.chars.toList.drop p.pos.offset).take s.length == s then
    for _ in s do
      let _ ← bump
    pure true
  else pure false

/-- The character after the one at the reader. -/
def peek : ParseM (Option Char) := do
  let p ← get
  if p.pos.offset ≥ p.chars.size then pure none else pure p.chars[p.pos.offset + 1]?

/-- The first character after the one at the reader that is not a blank or in a comment,
when blanks are ignored; when all that follows is blank, the one right after. -/
def peekSpace : ParseM (Option Char) := do
  let p ← get
  if !p.ignoreSpace then peek
  else if p.pos.offset ≥ p.chars.size then pure none
  else
    let start := p.pos.offset + 1
    let rest := (p.chars.toList.drop start).zipIdx
    let step := fun (acc : Bool × Option Nat) (ci : Char × Nat) =>
      match acc with
      | (_, some i) => (false, some i)
      | (inComment, none) =>
        let (c, i) := ci
        if Unicode.isWhiteSpace c then (inComment, none)
        else if !inComment && c == '#' then (true, none)
        else if inComment && c == '\n' then (false, none)
        else (inComment, some (start + i))
    match (rest.foldl step (false, none)).2 with
    | some i => pure p.chars[i]?
    | none => pure p.chars[start]?

/-- Set what the current run ends in. -/
def setLast (l : Last) : ParseM Unit := modify fun p => { p with last := l }

/-! ## Escapes -/

/-- What an escape or a single character reads as. -/
inductive Primitive where
  /-- A character; `byte` when written `\xHH`, which names a byte without Unicode. -/
  | literal (c : Char) (byte : Bool) (span : Span)
  /-- An assertion; `word` for the word boundaries. -/
  | assertion (word : Bool) (span : Span)
  /-- Any character. -/
  | dot (span : Span)
  /-- `\d`, `\s`, `\w` or their negations. -/
  | perl (negated : Bool) (span : Span)
  /-- A Unicode class `\pL` or `\p{...}`. -/
  | unicode (query : PropertyQuery) (span : Span)

/-- Where a primitive stands. -/
def Primitive.span : Primitive → Span
  | .literal _ _ s | .assertion _ s | .dot s | .perl _ s | .unicode _ s => s

/-- Whether a character is a hexadecimal digit. -/
def isHexChar (c : Char) : Bool :=
  ('0' ≤ c && c ≤ '9') || ('a' ≤ c && c ≤ 'f') || ('A' ≤ c && c ≤ 'F')

/-- The value of hexadecimal digits. -/
def hexNumber (ds : List Char) : Nat :=
  ds.foldl (fun n c =>
    let d := if c ≤ '9' then c.toNat - '0'.toNat
      else if c ≤ 'F' then c.toNat - 'A'.toNat + 10 else c.toNat - 'a'.toNat + 10
    16 * n + d) 0

/-- Reads a fixed number of hexadecimal digits after `\x`, `\u` or `\U`. -/
def hexDigits (count : Nat) (byte : Bool) : ParseM Primitive := do
  let start ← position
  let rec go : Nat → Nat → List Char → ParseM (List Char)
    | 0, _, acc => pure acc
    | k + 1, i, acc => do
      if i > 0 then
        if !(← bumpAndBumpSpace) then fail .escapeUnexpectedEof (← spanHere)
      let c ← currentChar
      if !isHexChar c then fail .escapeHexInvalidDigit (← spanChar)
      go k (i + 1) (acc ++ [c])
  let ds ← go count 0 []
  let _ ← bumpAndBumpSpace
  let stop ← position
  let n := hexNumber ds
  if n.isValidChar then pure (.literal (Char.ofNat n) byte ⟨start, stop⟩)
  else fail .escapeHexInvalid ⟨start, stop⟩

/-- Reads hexadecimal digits between braces after `\x`, `\u` or `\U`. -/
def hexBrace : ParseM Primitive := do
  let bracePos ← position
  let start := (← spanChar).stop
  let rec go : Nat → List Char → ParseM (List Char)
    | 0, acc => pure acc
    | fuel + 1, acc => do
      if !(← bumpAndBumpSpace) then return acc
      let c ← currentChar
      if c == '}' then return acc
      if !isHexChar c then fail .escapeHexInvalidDigit (← spanChar)
      go fuel (acc ++ [c])
  let ds ← go (← get).chars.size []
  if ← atEnd then fail .escapeUnexpectedEof ⟨bracePos, ← position⟩
  let stop ← position
  let _ ← bumpAndBumpSpace
  if ds.isEmpty then fail .escapeHexEmpty ⟨bracePos, ← position⟩
  let n := hexNumber ds
  if n.isValidChar then pure (.literal (Char.ofNat n) false ⟨start, stop⟩)
  else fail .escapeHexInvalid ⟨start, stop⟩

/-- Reads a hexadecimal escape; the reader is on `x`, `u` or `U`. -/
def parseHex : ParseM Primitive := do
  let kind ← currentChar
  if !(← bumpAndBumpSpace) then fail .escapeUnexpectedEof (← spanHere)
  if (← currentChar) == '{' then hexBrace
  else hexDigits (if kind == 'x' then 2 else if kind == 'u' then 4 else 8) (kind == 'x')

/-- Reads a Unicode class after `\p` or `\P`; the reader is on the `p`. -/
def parseUnicodeClass : ParseM Primitive := do
  if !(← bumpAndBumpSpace) then fail .escapeUnexpectedEof (← spanHere)
  if (← currentChar) == '{' then
    let start := (← spanChar).stop
    let rec go : Nat → List Char → ParseM (List Char)
      | 0, acc => pure acc
      | fuel + 1, acc => do
        if !(← bumpAndBumpSpace) then return acc
        let c ← currentChar
        if c == '}' then return acc
        go fuel (acc ++ [c])
    let name ← go (← get).chars.size []
    if ← atEnd then fail .escapeUnexpectedEof (← spanHere)
    let _ ← bump
    pure (.unicode (PropertyQuery.ofBraces (String.ofList name)) ⟨start, ← position⟩)
  else
    let start ← position
    let c ← currentChar
    if c == '\\' then fail .unicodeClassInvalid (← spanChar)
    let _ ← bumpAndBumpSpace
    pure (.unicode (.oneLetter c) ⟨start, ← position⟩)

/-- Whether a character stands for itself after a backslash because it has a meaning
of its own. -/
def isMetaChar (c : Char) : Bool :=
  "\\.+*?()|[]{}^$#&-~".contains c

/-- Whether a character may be escaped to stand for itself: a meta character, or ASCII
that is not a letter, a digit, `<` or `>`. -/
def isEscapeable (c : Char) : Bool :=
  isMetaChar c || (c.toNat < 0x80 && !c.isAlphanum && c != '<' && c != '>')

/-- Reads a special word boundary `\b{start}`, `\b{end}`, `\b{start-half}` or
`\b{end-half}`; the reader is on the brace. When what follows the brace cannot name one,
the reader goes back to the brace, which then opens a counted repetition. -/
def specialWordBoundary (wbStart : Position) : ParseM Unit := do
  let start ← position
  if !(← bumpAndBumpSpace) then fail .specialWordOrRepetitionUnexpectedEof ⟨wbStart, ← position⟩
  let contentStart ← position
  let valid := fun (c : Char) => ('A' ≤ c && c ≤ 'Z') || ('a' ≤ c && c ≤ 'z') || c == '-'
  if !valid (← currentChar) then
    moveTo start
    return
  let rec go : Nat → List Char → ParseM (List Char)
    | 0, acc => pure acc
    | fuel + 1, acc => do
      match ← current with
      | some c =>
        if valid c then
          let _ ← bumpAndBumpSpace
          go fuel (acc ++ [c])
        else pure acc
      | none => pure acc
  let name ← go (← get).chars.size []
  if (← current) != some '}' then fail .specialWordBoundaryUnclosed ⟨start, ← position⟩
  let stop ← position
  let _ ← bump
  if !(["start", "end", "start-half", "end-half"].contains (String.ofList name)) then
    fail .specialWordBoundaryUnrecognized ⟨contentStart, stop⟩

/-- Reads an escape; the reader is on the backslash. -/
def parseEscape : ParseM Primitive := do
  let start ← position
  if !(← bump) then fail .escapeUnexpectedEof ⟨start, ← position⟩
  let c ← currentChar
  if '0' ≤ c && c ≤ '9' then fail .unsupportedBackreference ⟨start, (← spanChar).stop⟩
  if c == 'x' || c == 'u' || c == 'U' then
    let p ← parseHex
    match p with
    | .literal ch b s => return .literal ch b ⟨start, s.stop⟩
    | other => return other
  if c == 'p' || c == 'P' then
    let p ← parseUnicodeClass
    return .unicode (match p with | .unicode q _ => q | _ => .oneLetter c) ⟨start, p.span.stop⟩
  if "dswDSW".contains c then
    let _ ← bump
    return .perl c.isUpper ⟨start, ← position⟩
  let _ ← bump
  let span : Span := ⟨start, ← position⟩
  if isEscapeable c then return .literal c false span
  if "aftnrv".contains c then return .literal c false span
  if c == 'A' || c == 'z' then return .assertion false span
  if c == 'b' then
    if (← current) == some '{' then
      let before ← position
      specialWordBoundary start
      if (← position) != before then return .assertion true ⟨start, ← position⟩
    return .assertion true span
  if c == 'B' || c == '<' || c == '>' then return .assertion true span
  fail .escapeUnrecognized span

/-! ## Translation checks -/

/-- Checks a character outside a class: without Unicode, `\xHH` past ASCII names a byte
that is not UTF-8. -/
def checkLiteral (c : Char) (byte : Bool) (span : Span) : ParseM Unit := do
  if !(← get).unicode && byte && c.toNat ≥ 0x80 then noteTranslation .invalidUtf8 span

/-- Checks a Unicode class: it needs Unicode, and its property must exist. -/
def checkUnicodeClass (q : PropertyQuery) (span : Span) : ParseM Unit := do
  if !(← get).unicode then noteTranslation .unicodeNotAllowed span
  else match q.lookup with
    | .found => pure ()
    | .noProperty => noteTranslation .propertyNotFound span
    | .noValue => noteTranslation .propertyValueNotFound span

/-- Checks a Perl class: without Unicode, a negated one matches bytes past ASCII. -/
def checkPerl (negated : Bool) (span : Span) : ParseM Unit := do
  if !(← get).unicode && negated then noteTranslation .invalidUtf8 span

/-- Reads a primitive outside a class and checks it. -/
def parsePrimitive : ParseM Unit := do
  let c ← currentChar
  let span ← spanChar
  if c == '\\' then
    match ← parseEscape with
    | .literal ch b s => checkLiteral ch b s
    | .assertion word _ => if word && (← get).unicode then modify fun p => { p with wordBoundary := true }
    | .dot _ => pure ()
    | .perl negated s => checkPerl negated s
    | .unicode q s => checkUnicodeClass q s
  else
    let _ ← bump
    if c == '.' && !(← get).unicode then noteTranslation .invalidUtf8 span
  setLast .item

/-! ## Classes -/

/-- The byte a class item names without Unicode: its high bytes, or an error when it is
a character past ASCII not written `\xHH`. -/
def classByte (c : Char) (byte : Bool) (span : Span) : ParseM (Option Nat) := do
  if byte then pure (some c.toNat)
  else if c.toNat < 0x80 then pure (some c.toNat)
  else
    noteTranslation .unicodeNotAllowed span
    pure none

/-- Adds high bytes to the innermost open class. -/
def addHigh (bits : Nat) : ParseM Unit :=
  modify fun p => match p.classes with
    | f :: rest => { p with classes := { f with high := f.high ||| bits } :: rest }
    | [] => p

/-- The error of a class left open: at the innermost open bracket. -/
def unclosedClass : ParseM α := do
  match (← get).classes with
  | f :: _ => fail .classUnclosed f.span
  | [] => fail .classUnclosed (← spanHere)

/-- Reads one item of a class: an escape or a character. -/
def parseClassItem : ParseM Primitive := do
  if (← currentChar) == '\\' then parseEscape
  else
    let c ← currentChar
    let span ← spanChar
    let _ ← bump
    pure (.literal c false span)

/-- Checks a lone class item and adds its bytes. -/
def addClassItem (p : Primitive) : ParseM Unit := do
  match p with
  | .literal c b s =>
    if !(← get).unicode then
      match ← classByte c b s with
      | some n => addHigh (highRange n n)
      | none => pure ()
  | .perl negated s =>
    if !(← get).unicode then
      if negated then noteTranslation .invalidUtf8 s
  | .unicode q s => checkUnicodeClass q s
  | other => fail .classEscapeInvalid other.span

/-- Reads an item of a class, or a range of two. -/
def parseClassRange : ParseM Unit := do
  let first ← parseClassItem
  bumpSpace
  if ← atEnd then unclosedClass
  let next ← peekSpace
  if (← currentChar) != '-' || next == some ']' || next == some '-' then
    addClassItem first
    return
  if !(← bumpAndBumpSpace) then unclosedClass
  let second ← parseClassItem
  let span : Span := ⟨first.span.start, second.span.stop⟩
  let (lo, loByte) ← match first with
    | .literal c b _ => pure (c, b)
    | other => fail .classRangeLiteral other.span
  let (hi, hiByte) ← match second with
    | .literal c b _ => pure (c, b)
    | other => fail .classRangeLiteral other.span
  if lo > hi then fail .classRangeInvalid span
  if !(← get).unicode then
    let a ← classByte lo loByte first.span
    let b ← classByte hi hiByte second.span
    match a, b with
    | some a, some b => addHigh (highRange a b)
    | _, _ => pure ()

/-- The names of the ASCII classes `[:name:]`. -/
def asciiClassNames : List String :=
  ["alnum", "alpha", "ascii", "blank", "cntrl", "digit", "graph", "lower", "print", "punct",
   "space", "upper", "word", "xdigit"]

/-- Reads an ASCII class `[:name:]` or `[:^name:]` inside a class; whether it negates,
or none (and the reader back at the bracket) when there is none here. -/
def asciiClass : ParseM (Option Bool) := do
  let start ← position
  let back : ParseM (Option Bool) := do
    moveTo start
    pure none
  if !(← bump) || (← currentChar) != ':' then return ← back
  if !(← bump) then return ← back
  let negated := (← currentChar) == '^'
  if negated then
    if !(← bump) then return ← back
  let nameStart := (← position).offset
  let rec go : Nat → ParseM Unit
    | 0 => pure ()
    | fuel + 1 => do
      if (← currentChar) != ':' then
        if ← bump then go fuel
  go (← get).chars.size
  if ← atEnd then return ← back
  let p ← get
  let name := String.ofList ((p.chars.toList.drop nameStart).take (p.pos.offset - nameStart))
  if !(← bumpIf [':', ']']) then return ← back
  if !asciiClassNames.contains name then return ← back
  pure (some negated)

/-- Opens a class; the reader is on its bracket. -/
def openClass : ParseM Unit := do
  let start ← position
  if !(← bumpAndBumpSpace) then fail .classUnclosed ⟨start, ← position⟩
  let negated := (← currentChar) == '^'
  if negated then
    if !(← bumpAndBumpSpace) then fail .classUnclosed ⟨start, ← position⟩
  let rec dashes : Nat → Bool → ParseM Bool
    | 0, seen => pure seen
    | fuel + 1, seen => do
      if (← currentChar) == '-' then
        if !(← bumpAndBumpSpace) then fail .classUnclosed ⟨start, start⟩
        dashes fuel true
      else pure seen
  let seen ← dashes (← get).chars.size false
  if !seen && (← currentChar) == ']' then
    if !(← bumpAndBumpSpace) then fail .classUnclosed ⟨start, ← position⟩
  let span : Span := ⟨start, ← position⟩
  modify fun p => { p with classes := { span, negated } :: p.classes }

/-- Closes the innermost class; the reader is on its bracket. Whether it was the
outermost. -/
def closeClass : ParseM Bool := do
  match (← get).classes with
  | [] => pure true
  | f :: rest =>
    let _ ← bump
    let span : Span := ⟨f.span.start, ← position⟩
    let value := if f.negated then allHigh ^^^ f.value else f.value
    modify fun p => { p with classes := rest }
    if !(← get).unicode && value != 0 then noteTranslation .invalidUtf8 span
    if rest.isEmpty then pure true
    else
      addHigh value
      pure false

/-- Starts a set operation in the innermost class. -/
def classOp (op : SetOp) : ParseM Unit :=
  modify fun p => match p.classes with
    | f :: rest => { p with classes := { f with high := 0, pending := some (op, f.value) } :: rest }
    | [] => p

/-- Reads a class through its closing bracket; the reader is on the opening one. -/
def parseClass : Nat → ParseM Unit
  | 0 => pure ()
  | fuel + 1 => do
    bumpSpace
    if ← atEnd then unclosedClass
    let c ← currentChar
    let next ← peek
    if c == '[' then
      if !(← get).classes.isEmpty then
        match ← asciiClass with
        | some negated =>
          if negated && !(← get).unicode then addHigh allHigh
          return ← parseClass fuel
        | none => pure ()
      openClass
      parseClass fuel
    else if c == ']' then
      if ← closeClass then pure () else parseClass fuel
    else if c == '&' && next == some '&' then
      let _ ← bumpIf ['&', '&']
      classOp .intersection
      parseClass fuel
    else if c == '-' && next == some '-' then
      let _ ← bumpIf ['-', '-']
      classOp .difference
      parseClass fuel
    else if c == '~' && next == some '~' then
      let _ ← bumpIf ['~', '~']
      classOp .symmetricDifference
      parseClass fuel
    else
      parseClassRange
      parseClass fuel

/-! ## Groups, flags and repetitions -/

/-- A flag item: a negation, or a flag letter. -/
abbrev FlagItem := Option Char

/-- Reads flags up to `:` or `)`; the items with their spans. -/
def parseFlags : ParseM (List (FlagItem × Span)) := do
  let rec go : Nat → List (FlagItem × Span) → Option Span → ParseM (List (FlagItem × Span))
    | 0, items, _ => pure items
    | fuel + 1, items, lastNegation => do
      let c ← currentChar
      if c == ':' || c == ')' then
        if let some s := lastNegation then fail .flagDanglingNegation s
        return items
      let span ← spanChar
      let item : FlagItem := if c == '-' then none else some c
      if c != '-' && !"imsUuRx".contains c then fail .flagUnrecognized span
      match items.find? (·.1 == item) with
      | some (_, original) =>
        failAt (if c == '-' then .flagRepeatedNegation else .flagDuplicate) span original
      | none => pure ()
      if !(← bump) then fail .flagUnexpectedEof (← spanHere)
      go fuel (items ++ [(item, span)]) (if c == '-' then some span else none)
  go (← get).chars.size [] none

/-- The state a flag takes in a list of flag items, if the list sets it. -/
def flagState (items : List (FlagItem × Span)) (flag : Char) : Option Bool :=
  let step := fun (acc : Bool × Option Bool) (it : FlagItem × Span) =>
    match acc with
    | (_, some v) => (false, some v)
    | (negated, none) =>
      match it.1 with
      | none => (true, none)
      | some f => if f == flag then (negated, some !negated) else (negated, none)
  (items.foldl step (false, none)).2

/-- Applies flag items to the reader. -/
def applyFlags (items : List (FlagItem × Span)) : ParseM Unit :=
  modify fun p => { p with
    ignoreSpace := (flagState items 'x').getD p.ignoreSpace
    unicode := (flagState items 'u').getD p.unicode }

/-- Whether a character may stand in a capture name, first or later. -/
def isCaptureChar (c : Char) (first : Bool) : Bool :=
  if first then c == '_' || Unicode.isAlphabetic c
  else c == '_' || c == '.' || c == '[' || c == ']' || Unicode.isAlphanumeric c

/-- Reads a capture name through its `>`. -/
def parseCaptureName : ParseM Unit := do
  if ← atEnd then fail .groupNameUnexpectedEof (← spanHere)
  let start ← position
  let rec go : Nat → ParseM Unit
    | 0 => pure ()
    | fuel + 1 => do
      let c ← currentChar
      if c == '>' then return
      if !isCaptureChar c ((← position).offset == start.offset) then
        fail .groupNameInvalid (← spanChar)
      if ← bump then go fuel
  go (← get).chars.size
  let stop ← position
  if ← atEnd then fail .groupNameUnexpectedEof (← spanHere)
  let _ ← bump
  let p ← get
  let name := String.ofList ((p.chars.toList.drop start.offset).take (stop.offset - start.offset))
  if name.isEmpty then fail .groupNameEmpty ⟨start, start⟩
  match p.names.find? (·.1 == name) with
  | some (_, original) => failAt .groupNameDuplicate ⟨start, stop⟩ original
  | none => set { p with names := (name, ⟨start, stop⟩) :: p.names }

/-- Opens a group: saves the flags to restore, applies the group's own, and starts an
empty run. -/
def openGroup (span : Span) (items : List (FlagItem × Span)) : ParseM Unit := do
  modify fun p => { p with groups := .group span p.ignoreSpace p.unicode :: p.groups }
  applyFlags items
  setLast .nothing

/-- Whether look-around starts here, stepping over its opening. -/
def lookAround : ParseM Bool := do
  if ← bumpIf ['?', '='] then return true
  if ← bumpIf ['?', '!'] then return true
  if ← bumpIf ['?', '<', '='] then return true
  bumpIf ['?', '<', '!']

/-- Reads the opening of a group, or a flag setting `(?flags)`; the reader is on `(`. -/
def pushGroup : ParseM Unit := do
  let openSpan ← spanChar
  let _ ← bump
  bumpSpace
  if ← lookAround then fail .unsupportedLookAround ⟨openSpan.start, ← position⟩
  let inner ← spanHere
  let named ← do
    if ← bumpIf ['?', 'P', '<'] then pure true else bumpIf ['?', '<']
  if named then
    parseCaptureName
    openGroup openSpan []
  else if ← bumpIf ['?'] then
    if ← atEnd then fail .groupUnclosed openSpan
    let items ← parseFlags
    let closing ← currentChar
    let _ ← bump
    if closing == ')' then
      if items.isEmpty then fail .repetitionMissing inner
      applyFlags items
      setLast .flags
    else openGroup openSpan items
  else openGroup openSpan []

/-- Closes a group; the reader is on `)`. -/
def popGroup : ParseM Unit := do
  let p ← get
  let opened : Option (Bool × Bool × List Frame) := match p.groups with
    | .group _ ix u :: rest => some (ix, u, rest)
    | .alternation :: .group _ ix u :: rest => some (ix, u, rest)
    | _ => none
  match opened with
  | none => fail .groupUnopened (← spanChar)
  | some (ix, u, rest) =>
    set { p with groups := rest, ignoreSpace := ix, unicode := u }
    let _ ← bump
    setLast .item

/-- Starts another branch; the reader is on `|`. -/
def pushAlternate : ParseM Unit := do
  modify fun p => match p.groups with
    | .alternation :: _ => p
    | gs => { p with groups := .alternation :: gs }
  let _ ← bump
  setLast .nothing

/-- Reads `?`, `*` or `+`, and a `?` that makes it lazy. -/
def uncountedRepetition : ParseM Unit := do
  if (← get).last != .item then fail .repetitionMissing (← spanHere)
  if ← bump then
    if (← currentChar) == '?' then
      let _ ← bump
  setLast .item

/-- Skips blanks around a decimal number; after it, comments too when blanks are
ignored. -/
def decimalBlanks (after : Bool) : Nat → ParseM Unit
  | 0 => pure ()
  | fuel + 1 => do
    match ← current with
    | some c =>
      if Unicode.isWhiteSpace c then
        let _ ← if after then bumpAndBumpSpace else bump
        decimalBlanks after fuel
    | none => pure ()

/-- Reads decimal digits, blanks between them ignored when blanks are. -/
def decimalDigits : Nat → List Char → ParseM (List Char)
  | 0, acc => pure acc
  | fuel + 1, acc => do
    match ← current with
    | some c =>
      if '0' ≤ c && c ≤ '9' then
        let _ ← bumpAndBumpSpace
        decimalDigits fuel (acc ++ [c])
      else pure acc
    | none => pure acc

/-- Reads a decimal number, blanks around it allowed; the error names `empty` when there
are no digits. -/
def parseDecimal (empty : ErrorKind) : ParseM (Except Error Nat) := do
  decimalBlanks false (← get).chars.size
  let start ← position
  let ds ← decimalDigits (← get).chars.size []
  let span : Span := ⟨start, ← position⟩
  decimalBlanks true (← get).chars.size
  if ds.isEmpty then return .error { kind := empty, span }
  let n := ds.foldl (fun n c => 10 * n + (c.toNat - '0'.toNat)) 0
  if n ≥ Nat.pow 2 32 then return .error { kind := .decimalInvalid, span }
  pure (.ok n)

/-- Reads a counted repetition `{n}`, `{n,}` or `{n,m}`; the reader is on the brace. -/
def countedRepetition : ParseM Unit := do
  let start ← position
  if (← get).last != .item then fail .repetitionMissing (← spanHere)
  let unclosed : ParseM Unit := do fail .repetitionCountUnclosed ⟨start, ← position⟩
  if !(← bumpAndBumpSpace) then unclosed
  let low ← parseDecimal .repetitionCountDecimalEmpty
  if ← atEnd then unclosed
  let valid ← if (← currentChar) == ',' then do
      if !(← bumpAndBumpSpace) then unclosed
      if (← currentChar) != '}' then
        let lo ← ofExcept low
        let hi ← ofExcept (← parseDecimal .repetitionCountDecimalEmpty)
        pure (decide (lo ≤ hi))
      else
        let _ ← ofExcept low
        pure true
    else
      let _ ← ofExcept low
      pure true
  if (← current) != some '}' then unclosed
  if ← bumpAndBumpSpace then
    if (← currentChar) == '?' then
      let _ ← bump
  if !valid then fail .repetitionCountInvalid ⟨start, ← position⟩
  setLast .item

/-- Reads the expression: runs, groups, branches, classes and repetitions. -/
def parseAll : Nat → ParseM Unit
  | 0 => pure ()
  | fuel + 1 => do
    bumpSpace
    match ← current with
    | none => pure ()
    | some c =>
      if c == '(' then pushGroup
      else if c == ')' then popGroup
      else if c == '|' then pushAlternate
      else if c == '[' then
        parseClass (← get).chars.size
        setLast .item
      else if c == '?' || c == '*' || c == '+' then uncountedRepetition
      else if c == '{' then countedRepetition
      else parsePrimitive
      parseAll fuel

/-- Checks that no group is left open at the end. -/
def closeAll : ParseM Unit := do
  match (← get).groups with
  | [] | [.alternation] => pure ()
  | .alternation :: .group span _ _ :: _ => fail .groupUnclosed span
  | .group span _ _ :: _ => fail .groupUnclosed span
  | .alternation :: .alternation :: _ => pure ()

/-- Why an expression is refused. -/
inductive Fault where
  /-- An error of syntax or translation, shown against the expression. -/
  | malformed (e : Error)
  /-- A Unicode word boundary, which a DFA cannot be built for. -/
  | unicodeWordBoundary

/-- The first reason an expression is refused, if there is one. -/
def check (pattern : String) : Option Fault :=
  let start : Parser := { chars := pattern.toList.toArray }
  match ((do parseAll (pattern.length + 1); closeAll) : ParseM Unit).run start with
  | .error e => some (.malformed e)
  | .ok ((), p) =>
    match p.translation with
    | some e => some (.malformed e)
    | none => if p.wordBoundary then some .unicodeWordBoundary else none

end Proximity.Regex
