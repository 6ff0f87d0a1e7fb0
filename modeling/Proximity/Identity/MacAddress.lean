import Proximity.Text.Blank
import Proximity.Text.Ascii
import Proximity.Error

/-!
# MAC addresses

A MAC address is written as six pairs of hexadecimal digits joined by colons,
`XX:XX:XX:XX:XX:XX`. Only ASCII digits and the letters `a`–`f`, `A`–`F` count as
hexadecimal digits, and nothing may stand before or after the six pairs.

Reading an address trims blanks first and keeps the address in upper case; the error
keeps the text as it was given. An address carries the proof that its text passes the check
and has no lower-case letter, so only reading (or a text already checked) can make one.
-/

namespace Proximity

/-- A text that is not a MAC address, as it was given. -/
structure InvalidMacAddress where
  text : String
  deriving DecidableEq, Repr

namespace InvalidMacAddress

/-- The error's own description. -/
def message (e : InvalidMacAddress) : String :=
  "Invalid MAC address: '" ++ e.text ++ "'. Expected format XX:XX:XX:XX:XX:XX."

/-- The failure it stands for. -/
def failure (e : InvalidMacAddress) : Failure := ⟨e.message, .invalidMacAddress e.text⟩

end InvalidMacAddress

namespace MacAddress

/-- Whether the characters are six pairs of hexadecimal digits joined by colons. -/
def isPairs : List Char → Bool
  | [a, b] => Text.isHexDigit a && Text.isHexDigit b
  | a :: b :: ':' :: rest => Text.isHexDigit a && Text.isHexDigit b && isPairs rest
  | _ => false

/-- Whether a text is exactly a MAC address, with nothing around it. -/
def isValidText (s : String) : Bool :=
  s.length == 17 && isPairs s.toList

/-- Upper-casing moves no character onto a colon or off it. -/
theorem toUpper_eq_colon_iff (c : Char) : c.toUpper = ':' ↔ c = ':' := by
  rw [← Char.toNat_inj, ← Char.toNat_inj, Text.toNat_toUpper]
  have : (':').toNat = 58 := rfl
  split <;> omega

/-- The pair check reads hexadecimal digits in either case and colons, so upper-casing
changes nothing it decides. -/
theorem isPairs_map_toUpper : ∀ cs : List Char, isPairs (cs.map Char.toUpper) = isPairs cs
  | [] => rfl
  | [_] => rfl
  | [a, b] => by simp [isPairs, Text.isHexDigit_toUpper]
  | a :: b :: c :: rest => by
    by_cases hc : c = ':'
    · subst hc
      have hrest := isPairs_map_toUpper rest
      simp [isPairs, Text.isHexDigit_toUpper, hrest, (toUpper_eq_colon_iff ':').2 rfl]
    · have hc' : c.toUpper ≠ ':' := fun h => hc ((toUpper_eq_colon_iff c).1 h)
      simp [isPairs, hc, hc']

theorem isValidText_upperAscii {t : String} (h : isValidText t = true) :
    isValidText (Text.upperAscii t) = true := by
  simpa [isValidText, Text.upperAscii, String.length_map, String.toList_map, isPairs_map_toUpper]
    using h

theorem isLower_upperAscii (t : String) :
    ∀ c ∈ (Text.upperAscii t).toList, c.isLower = false := by
  intro c hc
  rw [Text.upperAscii, String.toList_map] at hc
  obtain ⟨d, -, rfl⟩ := List.mem_map.1 hc
  exact Text.isLower_toUpper d

end MacAddress

/-- A MAC address: a text that passes the check, with no lower-case letter. -/
structure MacAddress where
  text : String
  valid : MacAddress.isValidText text = true
  upper : ∀ c ∈ text.toList, c.isLower = false
  deriving DecidableEq, Repr

namespace MacAddress

/-- Two addresses are equal when their texts are. -/
@[ext] theorem ext {m m' : MacAddress} (h : m.text = m'.text) : m = m' := by
  cases m
  cases m'
  subst h
  rfl

/-- The all-zero address. -/
def zero : MacAddress where
  text := "00:00:00:00:00:00"
  valid := by decide
  upper c hc := by
    -- checked as a `Bool`: under Mathlib the proposition's instance recurses too deep
    have h : ("00:00:00:00:00:00".toList.all fun c => !c.isLower) = true := by decide
    simpa using List.all_eq_true.1 h c hc

instance : Inhabited MacAddress := ⟨zero⟩

/-- Reads a MAC address: blanks around it are dropped and letters are upper-cased. -/
def parse (s : String) : Except InvalidMacAddress MacAddress :=
  let t := Text.trim s
  if h : isValidText t then .ok ⟨Text.upperAscii t, isValidText_upperAscii h, isLower_upperAscii t⟩
  else .error ⟨s⟩

end MacAddress

end Proximity
