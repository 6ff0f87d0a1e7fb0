/-!
# ASCII case

Token comparisons in this library fold case for the ASCII letters only: `é` and `É`
stay different, `e` and `E` are the same. The case maps of `Char` in core already touch
ASCII letters only, so they are the folding used here.
-/

namespace Proximity.Text

/-- Every ASCII lower-case letter of the text written in upper case. -/
def upperAscii (s : String) : String :=
  s.map Char.toUpper

/-- Every ASCII upper-case letter of the text written in lower case. -/
def lowerAscii (s : String) : String :=
  s.map Char.toLower

/-- Two texts are equal up to the case of their ASCII letters. -/
def eqIgnoreAsciiCase (a b : String) : Bool :=
  a.toList.map Char.toLower == b.toList.map Char.toLower

/-- Every hyphen of the text replaced by an underscore. -/
def hyphensToUnderscores (s : String) : String :=
  s.map (fun c => if c = '-' then '_' else c)

/-- An ASCII decimal digit. -/
def isDigit (c : Char) : Bool := '0' ≤ c && c ≤ '9'

/-- An ASCII hexadecimal digit, in either case. -/
def isHexDigit (c : Char) : Bool :=
  isDigit c || ('a' ≤ c && c ≤ 'f') || ('A' ≤ c && c ≤ 'F')

/-- An ASCII letter or digit. -/
def isAlnum (c : Char) : Bool :=
  isDigit c || ('a' ≤ c && c ≤ 'z') || ('A' ≤ c && c ≤ 'Z')

/-! ## Case maps as arithmetic on code points -/

theorem toNat_toUpper (c : Char) :
    c.toUpper.toNat = if 97 ≤ c.toNat ∧ c.toNat ≤ 122 then c.toNat - 32 else c.toNat := by
  unfold Char.toUpper
  split
  · rename_i h
    have h1 : 97 ≤ c.toNat ∧ c.toNat ≤ 122 := h
    rw [if_pos h1]
    simp only [Char.toNat, UInt32.toNat_add] at h1 ⊢
    -- the offset is added modulo 2^32, so adding it subtracts 32
    have : ('A'.val - 'a'.val).toNat = 2 ^ 32 - 32 := by decide
    rw [this]
    omega
  · rename_i h
    have h1 : ¬ (97 ≤ c.toNat ∧ c.toNat ≤ 122) := h
    rw [if_neg h1]

theorem toNat_toLower (c : Char) :
    c.toLower.toNat = if 65 ≤ c.toNat ∧ c.toNat ≤ 90 then c.toNat + 32 else c.toNat := by
  unfold Char.toLower
  split
  · rename_i h
    have h1 : 65 ≤ c.toNat ∧ c.toNat ≤ 90 := h
    rw [if_pos h1]
    simp only [Char.toNat, UInt32.toNat_add] at h1 ⊢
    have : ('a'.val - 'A'.val).toNat = 32 := by decide
    rw [this]
    omega
  · rename_i h
    have h1 : ¬ (65 ≤ c.toNat ∧ c.toNat ≤ 90) := h
    rw [if_neg h1]

/-- Two characters agree in upper case exactly when they agree in lower case. -/
theorem toUpper_eq_toUpper_iff {c d : Char} : c.toUpper = d.toUpper ↔ c.toLower = d.toLower := by
  rw [← Char.toNat_inj, ← Char.toNat_inj, toNat_toUpper, toNat_toUpper, toNat_toLower,
    toNat_toLower]
  split <;> split <;> split <;> split <;> omega

theorem isLower_iff {c : Char} : c.isLower = true ↔ 97 ≤ c.toNat ∧ c.toNat ≤ 122 := by
  show (c.val ≥ 97 && c.val ≤ 122) = true ↔ _
  simp [UInt32.le_iff_toNat_le, ← Char.toNat_val]

theorem isHexDigit_iff {c : Char} : isHexDigit c = true ↔
    (48 ≤ c.toNat ∧ c.toNat ≤ 57) ∨ (97 ≤ c.toNat ∧ c.toNat ≤ 102) ∨
      (65 ≤ c.toNat ∧ c.toNat ≤ 70) := by
  simp [isHexDigit, isDigit, Char.le_def, UInt32.le_iff_toNat_le, ← Char.toNat_val, or_assoc]

theorem isLower_toUpper (c : Char) : c.toUpper.isLower = false := by
  have h := toNat_toUpper c
  rw [Bool.eq_false_iff, Ne, isLower_iff]
  split at h <;> omega

/-- A character that is not a lower-case letter is its own upper case. -/
theorem toUpper_of_isLower_false {c : Char} (h : c.isLower = false) : c.toUpper = c := by
  rw [Bool.eq_false_iff, Ne, isLower_iff] at h
  rw [← Char.toNat_inj, toNat_toUpper, if_neg h]

theorem isHexDigit_toUpper (c : Char) : isHexDigit c.toUpper = isHexDigit c := by
  have h := toNat_toUpper c
  rw [Bool.eq_iff_iff, isHexDigit_iff, isHexDigit_iff]
  split at h <;> omega

theorem map_toUpper_eq_iff {l l' : List Char} :
    l.map Char.toUpper = l'.map Char.toUpper ↔ l.map Char.toLower = l'.map Char.toLower := by
  induction l generalizing l' with
  | nil => cases l' <;> simp
  | cons c l ih =>
    cases l' with
    | nil => simp
    | cons d l' => simp [toUpper_eq_toUpper_iff, ih]

/-- A text with no lower-case letter is its own upper-case form. -/
theorem upperAscii_of_no_lower {s : String} (h : ∀ c ∈ s.toList, c.isLower = false) :
    upperAscii s = s := by
  rw [← String.toList_inj, upperAscii, String.toList_map]
  exact (List.map_congr_left fun c hc => toUpper_of_isLower_false (h c hc)).trans (List.map_id _)

/-- Two texts have the same upper-case form exactly when they are equal up to ASCII case. -/
theorem upperAscii_eq_iff {a b : String} :
    upperAscii a = upperAscii b ↔ eqIgnoreAsciiCase a b = true := by
  rw [← String.toList_inj]
  simp [upperAscii, eqIgnoreAsciiCase, String.toList_map, map_toUpper_eq_iff]

end Proximity.Text
