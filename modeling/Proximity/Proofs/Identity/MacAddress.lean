import Proximity.Presence.Device

/-!
# Reading MAC addresses

A MAC address is read by trimming the text, checking that what is left is six pairs of
hexadecimal digits joined by colons (`isValidText`, which itself neither trims nor folds
case), and keeping it in upper case. A device description reads the address from a JSON
string through the same reader, and writes it back as the string of its text.

The check is stated here as a grammar, `IsMacText`: six pairs of ASCII hexadecimal digits
written with one colon between each two pairs and nothing else. An address carries the proof
that its text passes the check and has no lower-case letter, so what the reader keeps is
stated of every address, not only of the reader's outputs.

**Results.**
* `MacAddress.isValidText_iff`: the check accepts exactly the texts of the grammar.
* `MacAddress.parse_eq_ok_iff`: reading succeeds exactly when the trimmed text is in the
  grammar, and keeps that text upper-cased.
* `MacAddress.parse_text`, `MacAddress.decode_macShape`: every address reads back from its
  own text, as a plain text and as a JSON string.
* `mac_addresses_read_canonically`: the whole contract of the reader: which texts it reads
  and refuses, what it keeps, that what it keeps passes the check in upper case and reads
  back to itself, and that two texts read as one address exactly when they differ only in
  ASCII case.
-/

namespace Proximity

namespace MacAddress

/-! ## The grammar of a MAC address -/

/-- Pairs of characters written one after another, with a colon between each two. -/
def pairsText (ps : List (Char × Char)) : List Char :=
  [':'].intercalate (ps.map fun p => [p.1, p.2])

/-- Six pairs of ASCII hexadecimal digits joined by single colons. -/
def IsMacText (cs : List Char) : Prop :=
  ∃ ps : List (Char × Char), ps.length = 6 ∧
    (∀ p ∈ ps, Text.isHexDigit p.1 = true ∧ Text.isHexDigit p.2 = true) ∧ cs = pairsText ps

theorem pairsText_singleton (a b : Char) : pairsText [(a, b)] = [a, b] := by
  simp [pairsText]

theorem pairsText_cons_cons (a b : Char) (p : Char × Char) (ps : List (Char × Char)) :
    pairsText ((a, b) :: p :: ps) = a :: b :: ':' :: pairsText (p :: ps) := by
  simp [pairsText]

theorem length_pairsText {ps : List (Char × Char)} (h : ps ≠ []) :
    (pairsText ps).length + 1 = 3 * ps.length := by
  induction ps with
  | nil => exact absurd rfl h
  | cons p ps ih =>
    obtain ⟨a, b⟩ := p
    cases ps with
    | nil => simp [pairsText_singleton]
    | cons q qs =>
      rw [pairsText_cons_cons]
      have := ih (List.cons_ne_nil q qs)
      simp only [List.length_cons] at this ⊢
      omega

theorem mem_pairsText {c : Char} {ps : List (Char × Char)} (h : c ∈ pairsText ps) :
    c = ':' ∨ ∃ p ∈ ps, c = p.1 ∨ c = p.2 := by
  induction ps with
  | nil => simp [pairsText] at h
  | cons p ps ih =>
    obtain ⟨a, b⟩ := p
    cases ps with
    | nil =>
      rw [pairsText_singleton] at h
      simp only [List.mem_cons, List.not_mem_nil, or_false] at h
      exact Or.inr ⟨(a, b), by simp, h⟩
    | cons q qs =>
      rw [pairsText_cons_cons] at h
      simp only [List.mem_cons] at h
      rcases h with h | h | h | h
      · exact Or.inr ⟨(a, b), by simp, Or.inl h⟩
      · exact Or.inr ⟨(a, b), by simp, Or.inr h⟩
      · exact Or.inl h
      · rcases ih h with h | ⟨p, hp, hc⟩
        · exact Or.inl h
        · exact Or.inr ⟨p, List.mem_cons_of_mem _ hp, hc⟩

/-- The pair check accepts exactly pairs of hexadecimal digits joined by colons, one pair at
least. -/
theorem isPairs_iff (cs : List Char) :
    isPairs cs = true ↔ ∃ ps : List (Char × Char), ps ≠ [] ∧
      (∀ p ∈ ps, Text.isHexDigit p.1 = true ∧ Text.isHexDigit p.2 = true) ∧
        cs = pairsText ps := by
  constructor
  · intro h
    fun_induction isPairs cs with
    | case1 a b =>
      simp only [Bool.and_eq_true] at h
      exact ⟨[(a, b)], by simp, by simpa using h, (pairsText_singleton a b).symm⟩
    | case2 a b rest ih =>
      simp only [Bool.and_eq_true] at h
      obtain ⟨ps, hne, hhex, rfl⟩ := ih h.2
      obtain ⟨q, qs, rfl⟩ := List.exists_cons_of_ne_nil hne
      refine ⟨(a, b) :: q :: qs, by simp, ?_, (pairsText_cons_cons a b q qs).symm⟩
      intro p hp
      rcases List.mem_cons.1 hp with rfl | hp
      · exact h.1
      · exact hhex p hp
    | case3 => simp at h
  · rintro ⟨ps, hne, hhex, rfl⟩
    induction ps with
    | nil => exact absurd rfl hne
    | cons p ps ih =>
      obtain ⟨a, b⟩ := p
      have hab := hhex (a, b) (by simp)
      cases ps with
      | nil => simp [pairsText_singleton, isPairs, hab.1, hab.2]
      | cons q qs =>
        rw [pairsText_cons_cons, isPairs]
        simp only [hab.1, hab.2, Bool.true_and]
        exact ih (List.cons_ne_nil q qs) fun p hp => hhex p (List.mem_cons_of_mem _ hp)

/-- The check of a text accepts exactly six hexadecimal pairs joined by single colons: no
blank around them, no other separator and no other digits. -/
theorem isValidText_iff (s : String) : isValidText s = true ↔ IsMacText s.toList := by
  rw [isValidText, Bool.and_eq_true, beq_iff_eq, isPairs_iff, ← String.length_toList]
  constructor
  · rintro ⟨hlen, ps, hne, hhex, hs⟩
    have := length_pairsText hne
    rw [← hs] at this
    exact ⟨ps, by omega, hhex, hs⟩
  · rintro ⟨ps, hlen, hhex, hs⟩
    have hne : ps ≠ [] := by
      rintro rfl
      simp at hlen
    have := length_pairsText hne
    rw [← hs] at this
    exact ⟨by omega, ps, hne, hhex, hs⟩

/-- No character of a MAC address is blank. -/
theorem isBlank_of_isMacText {cs : List Char} (h : IsMacText cs) :
    ∀ c ∈ cs, Text.isBlank c = false := by
  obtain ⟨ps, -, hhex, rfl⟩ := h
  intro c hc
  rcases mem_pairsText hc with rfl | ⟨p, hp, hcp⟩
  · decide
  · have hdig : Text.isHexDigit c = true := by
      rcases hcp with rfl | rfl
      · exact (hhex p hp).1
      · exact (hhex p hp).2
    rw [Text.isHexDigit_iff] at hdig
    simp only [Text.isBlank, Bool.or_eq_false_iff, Bool.and_eq_false_iff, beq_eq_false_iff_ne,
      decide_eq_false_iff_not]
    omega

/-! ## Reading an address -/

/-- Reading succeeds exactly when the trimmed text is a MAC address, and keeps that text in
upper case. -/
theorem parse_eq_ok_iff (s : String) (m : MacAddress) :
    parse s = .ok m ↔
      IsMacText (Text.trim s).toList ∧ m.text = Text.upperAscii (Text.trim s) := by
  unfold parse
  dsimp only
  split
  · rename_i h
    simp only [Except.ok.injEq, (isValidText_iff _).1 h, true_and]
    exact ⟨fun hm => hm ▸ rfl, fun hm => MacAddress.ext hm.symm⟩
  · rename_i h
    rw [isValidText_iff] at h
    simp [h]

/-- A refusal keeps the text as it was given, blanks included. -/
theorem parse_error (s : String) (e : InvalidMacAddress) (h : parse s = .error e) :
    e = ⟨s⟩ := by
  unfold parse at h
  dsimp only at h
  split at h <;> cases h
  rfl

/-- Every address reads back to itself from its own text. -/
theorem parse_text (m : MacAddress) : parse m.text = .ok m := by
  have hvalid := (isValidText_iff _).1 m.valid
  -- the address has no blank, so trimming keeps it, and it is already in upper case
  have htrim : Text.trim m.text = m.text := by
    rw [← String.toList_inj, Text.trim, String.toList_ofList]
    simpa using @Text.trimChars_blanks_around [] _ [] (by simp) (by simp)
      (isBlank_of_isMacText hvalid)
  rw [parse_eq_ok_iff, htrim, Text.upperAscii_of_no_lower m.upper]
  exact ⟨hvalid, rfl⟩

/-- Two read addresses are equal exactly when the trimmed texts they were read from are equal
up to ASCII case. -/
theorem parse_eq_parse_iff {s s' : String} {m m' : MacAddress} (h : parse s = .ok m)
    (h' : parse s' = .ok m') :
    m = m' ↔ Text.eqIgnoreAsciiCase (Text.trim s) (Text.trim s') = true := by
  rw [← Text.upperAscii_eq_iff, ← ((parse_eq_ok_iff s m).1 h).2, ← ((parse_eq_ok_iff s' m').1 h').2]
  exact ⟨fun hm => hm ▸ rfl, MacAddress.ext⟩

end MacAddress

/-! ## Reading an address from JSON -/

/-- A JSON string is read as a MAC address by the same reader: it passes exactly when `parse`
succeeds, and a refusal is the refusal of the string as given. -/
theorem MacAddress.decode_macShape (s : String) :
    Json.Shape.decode DeviceMetadata.macShape (.str s) =
      match parse s with
      | .ok _ => .ok (.str s)
      | .error e => .error e.message := by
  simp only [Json.Shape.decode, DeviceMetadata.macShape]
  -- the fuel is a successor, so one step of the checker runs the text check
  rw [show 4 * (Json.str s).weight + 64 = (4 * (Json.str s).weight + 63) + 1 from rfl,
    Json.Shape.decodeWith]
  cases parse s <;> rfl

/-- The contract of reading MAC addresses. The check itself accepts exactly six hexadecimal
pairs joined by single colons. Reading, from a text or from a JSON string, succeeds exactly
when the trimmed text passes the check, keeps that text upper-cased, and refuses with the
text as given. What it keeps passes the check, has no lower-case letter, and reads back to
itself from its text, as a text and as a JSON string. Two texts read as the same address
exactly when their trimmed forms are equal up to ASCII case. -/
theorem mac_addresses_read_canonically :
    (∀ s, MacAddress.isValidText s = true ↔ MacAddress.IsMacText s.toList) ∧
    (∀ s m, MacAddress.parse s = .ok m ↔
      MacAddress.IsMacText (Text.trim s).toList ∧ m.text = Text.upperAscii (Text.trim s)) ∧
    (∀ s e, MacAddress.parse s = .error e → e = ⟨s⟩) ∧
    (∀ s, Json.Shape.decode DeviceMetadata.macShape (.str s) =
      match MacAddress.parse s with
      | .ok _ => .ok (.str s)
      | .error e => .error e.message) ∧
    (∀ s m, MacAddress.parse s = .ok m →
      MacAddress.isValidText m.text = true ∧ (∀ c ∈ m.text.toList, c.isLower = false) ∧
      MacAddress.parse m.text = .ok m ∧
      Json.Shape.decode DeviceMetadata.macShape (.str m.text) = .ok (.str m.text)) ∧
    (∀ s s' m m', MacAddress.parse s = .ok m → MacAddress.parse s' = .ok m' →
      (m = m' ↔ Text.eqIgnoreAsciiCase (Text.trim s) (Text.trim s') = true)) := by
  refine ⟨MacAddress.isValidText_iff, MacAddress.parse_eq_ok_iff, MacAddress.parse_error,
    MacAddress.decode_macShape, fun _ m _ => ?_, fun s s' m m' => MacAddress.parse_eq_parse_iff⟩
  have hback := MacAddress.parse_text m
  refine ⟨m.valid, m.upper, hback, ?_⟩
  rw [MacAddress.decode_macShape, hback]

end Proximity
