/-!
# Blanks and trimming

Tokens read by this library (strategies, mediums, credential kinds, MAC addresses) may
carry blanks around them. A blank is a character with the Unicode White_Space property;
there are twenty-five of them. `trim` drops blanks at both ends of a text and keeps
everything between, inner blanks included.
-/

namespace Proximity.Text

/-- A character is blank when it has the Unicode White_Space property: the controls tab
to carriage return, space, next line, no-break space, ogham space mark, the eleven spaces
from en quad to hair space, the line and paragraph separators, narrow no-break space,
medium mathematical space and ideographic space. -/
def isBlank (c : Char) : Bool :=
  let n := c.toNat
  (9 ≤ n && n ≤ 13) || n == 0x20 || n == 0x85 || n == 0xA0 || n == 0x1680 ||
    (0x2000 ≤ n && n ≤ 0x200A) || n == 0x2028 || n == 0x2029 || n == 0x202F ||
    n == 0x205F || n == 0x3000

/-- The characters without their leading and trailing blanks. -/
def trimChars (cs : List Char) : List Char :=
  ((cs.dropWhile isBlank).reverse.dropWhile isBlank).reverse

/-- A text without its leading and trailing blanks. -/
def trim (s : String) : String :=
  String.ofList (trimChars s.toList)

/-- A text without its leading blanks. -/
def trimStart (s : String) : String :=
  String.ofList (s.toList.dropWhile isBlank)

/-- A text is blank when it has nothing left after trimming. -/
def isBlankText (s : String) : Bool :=
  s.toList.all isBlank

/-- Blanks before and after a text with no blank in it are exactly what trimming drops. -/
theorem trimChars_blanks_around {w₁ x w₂ : List Char} (h₁ : ∀ c ∈ w₁, isBlank c = true)
    (h₂ : ∀ c ∈ w₂, isBlank c = true) (hx : ∀ c ∈ x, isBlank c = false) :
    trimChars (w₁ ++ x ++ w₂) = x := by
  have hw₂ : ∀ c ∈ w₂.reverse, isBlank c = true := fun c hc => h₂ c (List.mem_reverse.1 hc)
  rw [trimChars, List.append_assoc, List.dropWhile_append_of_pos h₁]
  cases x with
  | nil =>
    have : w₂.dropWhile isBlank = [] := by
      have h : (w₂ ++ []).dropWhile isBlank = ([] : List Char).dropWhile isBlank :=
        List.dropWhile_append_of_pos h₂
      simpa using h
    simp [this]
  | cons y ys =>
    -- the last character of the text is no blank, so trimming the reversed text stops there
    obtain ⟨zs, z, hz⟩ : ∃ zs z, y :: ys = zs ++ [z] :=
      ⟨_, _, (List.dropLast_concat_getLast (List.cons_ne_nil y ys)).symm⟩
    have hzb : isBlank z = false := hx z (by rw [hz]; simp)
    have hyb : ¬ isBlank y = true := by simp [hx y (by simp)]
    rw [List.cons_append, List.dropWhile_cons_of_neg hyb, ← List.cons_append, List.reverse_append,
      List.dropWhile_append_of_pos hw₂, hz, List.reverse_append]
    simp [hzb]

/-- Every text is its trimmed text with blanks before and after it. -/
theorem exists_blanks_around_trimChars (cs : List Char) :
    ∃ w₁ w₂, (∀ c ∈ w₁, isBlank c = true) ∧ (∀ c ∈ w₂, isBlank c = true) ∧
      cs = w₁ ++ trimChars cs ++ w₂ := by
  -- the trailing blanks are the leading blanks of the reversed rest
  let r := (cs.dropWhile isBlank).reverse
  refine ⟨cs.takeWhile isBlank, (r.takeWhile isBlank).reverse, fun c hc => ?_, fun c hc => ?_, ?_⟩
  · exact List.all_eq_true.1 List.all_takeWhile c hc
  · exact List.all_eq_true.1 List.all_takeWhile c (List.mem_reverse.1 hc)
  · have hr : cs.dropWhile isBlank =
        (r.dropWhile isBlank).reverse ++ (r.takeWhile isBlank).reverse := by
      rw [← List.reverse_append, List.takeWhile_append_dropWhile, List.reverse_reverse]
    rw [trimChars, List.append_assoc, ← hr, List.takeWhile_append_dropWhile]

end Proximity.Text
