import Proximity.Error

/-!
# Endpoint ids

An endpoint id names one advertised or discovered device for a short while: four
characters from `A`–`Z` and `0`–`9`.

Ids are drawn from a source of random bytes, four bytes per draw. A byte picks the
character at its remainder modulo 36; the bytes 252 to 255 are skipped, since the
remainders they give would make the first four characters more likely than the others.
After eight draws without four characters the source is taken to be broken.

The source here is a script of draws: each draw gives bytes (the first four count, missing
ones are 0) or fails with a message; when the script is used up the source fails with
`random source exhausted`.
-/

namespace Proximity

/-- The characters of endpoint ids, in the order bytes pick them. -/
def idAlphabet : List Char := "ABCDEFGHIJKLMNOPQRSTUVWXYZ0123456789".toList

/-- The number of characters of an endpoint id. -/
def idLength : Nat := 4

/-- Bytes from here up are skipped. -/
def unbiasedByteLimit : Nat := 256 / 36 * 36

/-- Draws made before giving up. -/
def maxDraws : Nat := 8

/-- An endpoint id. -/
structure EndpointId where
  text : String
  deriving DecidableEq, Repr, Inhabited

/-- One draw of a random source: bytes, or a failure with its message. -/
inductive Draw where
  | bytes (values : List Nat)
  | fail (message : String)
  deriving DecidableEq, Repr

/-- A failure of minting or reading an identity. -/
inductive IdentityError where
  | randomSourceFailed (message : String)
  | invalidEndpointId (id : String)
  deriving DecidableEq, Repr

namespace IdentityError

/-- The error's own description. -/
def message : IdentityError → String
  | randomSourceFailed m => "Random source failed: " ++ m
  | invalidEndpointId i =>
    "Invalid endpoint id: '" ++ i ++ "'. Expected 4 characters from A-Z and 0-9."

/-- The error it stands for. -/
def toError : IdentityError → Error
  | randomSourceFailed m => .randomSourceFailed m
  | invalidEndpointId i => .invalidEndpointId i

/-- The failure it stands for. -/
def failure (e : IdentityError) : Failure := ⟨e.message, e.toError⟩

end IdentityError

namespace EndpointId

/-- Four bytes from a draw: the first four given, then zeros. -/
def fourBytes (values : List Nat) : List Nat :=
  (values ++ List.replicate 4 0).take 4

/-- Takes the next draw of a script: four bytes, or the message of a failure. -/
def takeDraw : List Draw → Except String (List Nat) × List Draw
  | [] => (.error "random source exhausted", [])
  | .fail m :: rest => (.error m, rest)
  | .bytes vs :: rest => (.ok (fourBytes vs), rest)

/-- The character a byte picks. -/
def pick (b : Nat) : Char := idAlphabet.getD (b % 36) 'A'

/-- Adds the characters that bytes pick to those found so far, skipping the biased bytes
and stopping at four characters. -/
def extend (acc : List Char) : List Nat → List Char
  | [] => acc
  | b :: bs =>
    if acc.length = idLength then acc
    else if b < unbiasedByteLimit then extend (acc ++ [pick b]) bs
    else extend acc bs

/-- Draws until four characters are found, at most `n` more times. -/
def generateFrom (acc : List Char) : Nat → List Draw → Except IdentityError EndpointId × List Draw
  | 0, draws =>
    (.error (.randomSourceFailed s!"no unbiased bytes after {maxDraws} draws"), draws)
  | n + 1, draws =>
    match takeDraw draws with
    | (.error m, rest) => (.error (.randomSourceFailed m), rest)
    | (.ok bytes, rest) =>
      let acc' := extend acc bytes
      if acc'.length = idLength then (.ok ⟨String.ofList acc'⟩, rest)
      else generateFrom acc' n rest

/-- Mints an endpoint id from a script of draws; gives the draws left over. -/
def generate (draws : List Draw) : Except IdentityError EndpointId × List Draw :=
  generateFrom [] maxDraws draws

/-- Whether a text is an endpoint id: four bytes, each an upper-case ASCII letter or a
digit. -/
def isValidText (s : String) : Bool :=
  s.utf8ByteSize == idLength && s.toList.all (fun c => idAlphabet.contains c)

/-- Reads an endpoint id. -/
def parse (s : String) : Except IdentityError EndpointId :=
  if isValidText s then .ok ⟨s⟩ else .error (.invalidEndpointId s)

end EndpointId

end Proximity
