import Proximity.Regex.Check
/-!
# Log filters

A log filter is a comma-separated list of directives; empty entries are skipped. A
directive, blanks around it trimmed, is read one character at a time by a small machine:

* it starts with a span in brackets, or with a letter, a digit, `-`, `:` or `_`, which
  starts a level or a target (anything up to `=` or `[`);
* a span `[name]` may hold fields in braces, `[name{field,field}]`, and may be followed
  only by `=` and a level;
* a target may be followed by a span or by `=` and a level;
* a level is everything after `=`.

A directive that ends inside a span or its fields, or a transition that is not listed,
is an invalid directive. A level or target alone is a level when it reads as one, else a
target. A level after `=` must read: `off`, `error`, `warn`, `info`, `debug` or `trace`
in any case, or a number from 0 to 5 (`+3` and `005` read); an empty one stands for all
levels. A field is `name` or `name=value`; a value that is not a boolean or a number is a
regular expression, which must be one a DFA can be built for (see `Regex.check`).
-/

namespace Proximity.LogFilter

/-- Why a log filter does not read. -/
inductive FilterError where
  /-- A directive the machine does not accept. -/
  | directive
  /-- A level after `=` that is not a level. -/
  | level
  /-- A field whose value is not a usable regular expression. -/
  | field (fault : Regex.Fault) (pattern : String)

/-- The words for a level that does not read. -/
def levelMessage : String :=
  "error parsing level filter: expected one of \"off\", \"error\", \"warn\", \"info\", " ++
    "\"debug\", \"trace\", or a number 0-5"

/-- The words for a Unicode word boundary in a field's expression. -/
def wordBoundaryMessage : String :=
  "unsupported regex feature for DFAs: cannot build DFAs for regexes with Unicode word " ++
    "boundaries; switch to ASCII word boundaries, or heuristically enable Unicode word " ++
    "boundaries or use a different regex engine"

/-- The failure's text. -/
def FilterError.message : FilterError → String
  | .directive => "invalid filter directive"
  | .level => levelMessage
  | .field (.malformed _) _ => "invalid field filter: error building NFA"
  | .field .unicodeWordBoundary _ => "invalid field filter: " ++ wordBoundaryMessage

/-- The causes under the failure, outermost first. -/
def FilterError.causes : FilterError → List String
  | .directive => []
  | .level => [levelMessage]
  | .field (.malformed e) p => ["error building NFA", "error parsing regex", e.render p]
  | .field .unicodeWordBoundary _ => [wordBoundaryMessage]

/-- Decimal digits, at least one. -/
def isDigits (cs : List Char) : Bool := !cs.isEmpty && cs.all Char.isDigit

/-- The value of decimal digits. -/
def digitsValue (cs : List Char) : Nat := cs.foldl (fun n c => 10 * n + (c.toNat - '0'.toNat)) 0

/-- An unsigned number below 2^64 in decimal, with an optional `+`. -/
def unsignedValue? (s : String) : Option Nat :=
  let ds := match s.toList with
    | '+' :: r => r
    | cs => cs
  if isDigits ds && digitsValue ds < Nat.pow 2 64 then some (digitsValue ds) else none

/-- Whether a text is a level: a number from 0 to 5, or a level's name in any case. -/
def isLevel (s : String) : Bool :=
  (match unsignedValue? s with
   | some n => n ≤ 5
   | none => false) ||
    ["off", "error", "warn", "info", "debug", "trace"].contains
      (String.ofList (s.toList.map Char.toLower))

/-- A signed 64-bit number in decimal. -/
def isSigned64 (s : String) : Bool :=
  match s.toList with
  | '-' :: ds => isDigits ds && digitsValue ds ≤ Nat.pow 2 63
  | '+' :: ds => isDigits ds && digitsValue ds < Nat.pow 2 63
  | ds => isDigits ds && digitsValue ds < Nat.pow 2 63

/-- A floating-point number: an optional sign, then `inf`, `infinity` or `nan` in any
case, or digits with an optional point (a digit on at least one side) and an optional
exponent with digits. -/
def isFloat (s : String) : Bool :=
  let cs := match s.toList with
    | '+' :: r | '-' :: r => r
    | r => r
  let word := String.ofList (cs.map Char.toLower)
  if word == "inf" || word == "infinity" || word == "nan" then true
  else
    let whole := cs.takeWhile Char.isDigit
    let rest := cs.drop whole.length
    let (frac, rest) := match rest with
      | '.' :: r => (r.takeWhile Char.isDigit, r.drop (r.takeWhile Char.isDigit).length)
      | r => ([], r)
    let mantissa := !whole.isEmpty || !frac.isEmpty
    let exponentOk := match rest with
      | [] => true
      | e :: r =>
        (e == 'e' || e == 'E') &&
          isDigits (match r with
            | '+' :: ds | '-' :: ds => ds
            | ds => ds)
    mantissa && exponentOk

/-- Checks a field's value: a boolean or a number is taken as it is, anything else must
be a usable regular expression. -/
def checkValue (value : String) : Except FilterError Unit :=
  if value == "true" || value == "false" || (unsignedValue? value).isSome ||
      isSigned64 value || isFloat value then .ok ()
  else match Regex.check value with
    | none => .ok ()
    | some fault => .error (.field fault value)

/-- Checks a field `name` or `name=value`; an empty field does not read. -/
def checkField (text : String) : Except FilterError Unit :=
  if text.isEmpty then .error .directive
  else match text.splitOn "=" with
    | _ :: value :: _ => checkValue value
    | _ => .ok ()

/-- Where the machine is in a directive; positions are where a part starts. -/
inductive State where
  | start
  | levelOrTarget
  | span
  | field (start : Nat)
  | fields
  | target
  | level (start : Nat)
  | complete

/-- The characters from `a` up to `b`. -/
def slice (cs : Array Char) (a b : Nat) : String :=
  String.ofList ((cs.toList.drop a).take (b - a))

/-- One step of the machine on the character `c` at position `i`. -/
def step (cs : Array Char) (i : Nat) (c : Char) : State → Except FilterError State
  | .start =>
    if c == '[' then .ok .span
    else if !"-:_".contains c && !Unicode.isAlphanumeric c then .error .directive
    else .ok .levelOrTarget
  | .levelOrTarget =>
    if c == '=' then .ok (.level (i + 1))
    else if c == '[' then .ok .span
    else if c == ',' then .ok .complete
    else .ok .levelOrTarget
  | .target => if c == '=' then .ok (.level (i + 1)) else .error .directive
  | .span =>
    if c == ']' then .ok .target
    else if c == '{' then .ok (.field (i + 1))
    else .ok .span
  | .field s =>
    if c == '}' then do
      checkField (slice cs s i)
      pure .fields
    else if c == ',' then do
      checkField (slice cs s i)
      pure (.field (i + 1))
    else .ok (.field s)
  | .fields => if c == ']' then .ok .target else .error .directive
  | .level s =>
    if c == ',' then
      let t := slice cs s i
      if t.isEmpty || isLevel t then .ok .complete else .error .level
    else .ok (.level s)
  | .complete => .error .directive

/-- Runs the machine over the characters from position `i`. -/
def run (cs : Array Char) : Nat → List Char → State → Except FilterError State
  | _, [], st => .ok st
  | i, c :: rest, st => do
    let st ← step cs i c st
    run cs (i + 1) rest st

/-- A text without the blanks around it. -/
def trimBlanks (s : String) : List Char :=
  ((s.toList.dropWhile Unicode.isWhiteSpace).reverse.dropWhile Unicode.isWhiteSpace).reverse

/-- Checks one directive. -/
def checkDirective (d : String) : Except FilterError Unit := do
  let chars := trimBlanks d
  let cs := chars.toArray
  match ← run cs 0 chars .start with
  | .levelOrTarget | .target | .complete => pure ()
  | .level s =>
    let t := slice cs s cs.size
    if t.isEmpty || isLevel t then pure () else throw .level
  | _ => throw .directive

/-- Checks a filter: every non-empty entry must be a directive. -/
def check (s : String) : Except FilterError Unit :=
  ((s.splitOn ",").filter (!·.isEmpty)).forM checkDirective

end Proximity.LogFilter
