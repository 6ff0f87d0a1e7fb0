import Proximity.Unicode.IdnaMapping
import Proximity.Unicode.Normal
import Proximity.Unicode.Bidi
import Proximity.Unicode.Joining
import Proximity.Url.Punycode

/-!
# Domain names to ASCII

How a URL host that is a domain becomes ASCII (UTS 46 processing, nontransitional, as the
URL Standard asks for it):

1. each character is mapped by its IDNA status; a disallowed one fails;
2. the result is put in normalization form C;
3. a character a host may not hold (a control, a space, `#%/:<>?@[\]^|`, DEL) fails;
4. the text is cut into labels at `.`; a label that starts with `xn--` must be ASCII and
   decode as punycode to a text that is not empty and not all ASCII;
5. every label, decoded, must be in form C, must not start with `xn--`, must not hold a
   `.`, must not start with a mark, must hold only valid or deviation characters, and may
   hold a zero-width joiner only after a virama, and a zero-width non-joiner only after a
   virama or between characters that join towards it;
6. when some label holds a right-to-left character (or an Arabic digit), every label must
   keep the bidirectional rule of RFC 5893;
7. labels that are not ASCII are written in punycode after `xn--`.

Labels may be empty, and lengths are not checked.
-/

namespace Proximity.Url.Idna

open Unicode

/-- Whether a character may not stand in a URL host: the C0 controls, space, DEL and
`#%/:<>?@[\]^|`. -/
def isForbiddenHostChar (c : Char) : Bool :=
  c.toNat ≤ 0x20 || c.toNat == 0x7F ||
    c ∈ ['%', '#', '/', ':', '<', '>', '?', '@', '[', '\\', ']', '^', '|']

/-- Maps each character by its IDNA status; none when one is disallowed. -/
def mapChars : List Char → Option (List Char)
  | [] => some []
  | c :: rest => do
    let tail ← mapChars rest
    match idnaStatus c with
    | .valid | .deviation => pure (c :: tail)
    | .ignored => pure tail
    | .mapped image => pure (image ++ tail)
    | .disallowed => none

/-- The zero-width non-joiner. -/
def zwnj : Char := Char.ofNat 0x200C

/-- The zero-width joiner. -/
def zwj : Char := Char.ofNat 0x200D

/-- Whether, looking through transparent characters, the first one is joining as asked. -/
def joinsTowards (ok : JoiningType → Bool) (cs : List Char) : Bool :=
  match cs.dropWhile (joiningType · == .transparent) with
  | c :: _ => ok (joiningType c)
  | [] => false

/-- Whether every joiner of a label stands where it may: `before` holds the characters
before the next one, nearest first. -/
def joinersAllowed (before : List Char) : List Char → Bool
  | [] => true
  | c :: rest =>
    let afterVirama := match before with
      | b :: _ => combiningClass b == 9
      | [] => false
    let ok :=
      if c == zwj then afterVirama
      else if c == zwnj then
        afterVirama ||
          (joinsTowards (fun t => t == .left || t == .dual) before &&
            joinsTowards (fun t => t == .right || t == .dual) rest)
      else true
    ok && joinersAllowed (c :: before) rest

/-- Whether a label meets the validity criteria, the bidirectional rule apart. -/
def labelValid (label : List Char) : Bool :=
  nfcChars label == label &&
    label.take 4 != ['x', 'n', '-', '-'] &&
    !label.contains '.' &&
    !(label.head?.any isMark) &&
    label.all (fun c => match idnaStatus c with
      | .valid | .deviation => true
      | _ => false) &&
    joinersAllowed [] label

/-- Whether a character is right-to-left for the purpose of the rule, an Arabic digit
included. -/
def isRightToLeft (c : Char) : Bool :=
  match bidiClass c with
  | .R | .AL | .AN => true
  | _ => false

/-- Whether a label keeps the bidirectional rule: a left-to-right label starts with `L`,
holds only `L EN ES CS ET ON BN NSM` and ends, marks apart, with `L` or `EN`; a
right-to-left label starts with `R` or `AL`, holds only `R AL AN EN ES CS ET ON BN NSM`,
ends, marks apart, with `R AL EN AN`, and does not hold both `EN` and `AN`. -/
def bidiAllowed (label : List Char) : Bool :=
  match label with
  | [] => true
  | c :: rest =>
    let classes := rest.map bidiClass
    let last := (label.reverse.dropWhile (bidiClass · == .NSM)).head?.map bidiClass
    match bidiClass c with
    | .L =>
      classes.all (· ∈ [.L, .EN, .ES, .CS, .ET, .ON, .BN, .NSM]) &&
        (match last with
         | some k => k == .L || k == .EN
         | none => true)
    | .R | .AL =>
      classes.all (· ∈ [.R, .AL, .AN, .EN, .ES, .CS, .ET, .ON, .BN, .NSM]) &&
        (match last with
         | some k => k ∈ [.R, .AL, .EN, .AN]
         | none => false) &&
        !(classes.contains .EN && classes.contains .AN)
    | _ => false

/-- A label as processing sees it: decoded when it was written in punycode. -/
def readLabel (label : List Char) : Option (List Char) :=
  if label.take 4 == ['x', 'n', '-', '-'] then do
    let rest := label.drop 4
    if rest.any (·.toNat ≥ 0x80) then none
    let decoded ← Punycode.decode rest
    if decoded.all (·.toNat < 0x80) then none
    if labelValid decoded then some decoded else none
  else if labelValid label then some label else none

/-- How a label is written in the ASCII form. -/
def writeLabel (label : List Char) : String :=
  if label.all (·.toNat < 0x80) then String.ofList label
  else "xn--" ++ Punycode.encode label

/-- The ASCII form of a domain, or none when it is not a valid domain name. -/
def toAscii (domain : List Char) : Option String := do
  let mapped ← mapChars domain
  let normal := nfcChars mapped
  if normal.any isForbiddenHostChar then none
  let labels ← (normal.splitOn '.').mapM readLabel
  if labels.any (·.any isRightToLeft) && !labels.all bidiAllowed then none
  pure (".".intercalate (labels.map writeLabel))

end Proximity.Url.Idna
