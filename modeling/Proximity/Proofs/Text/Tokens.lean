import Proximity.Strategy
import Proximity.Credential.Kind
import Mathlib.Data.List.Forall2

/-!
# Token spellings

Strategies, mediums, identity types and public credential kinds are all read from tokens
typed by people, in configuration files, environment variables, request bodies and query
strings. Each reader trims the token, folds its ASCII case and looks the result up in a
fixed table; the medium and strategy readers also accept a hyphen for every underscore, and
the strategy reader drops one `P2P_` tag before the look-up.

This module states, for each reader, the exact language it accepts for each value, without
the folding steps: a text is read as a value when, up to blanks (Unicode White_Space) before
and after it, it spells one of the value's tokens character by character, where a character
spells a token character when the two agree up to ASCII case (`SpellsChar`), or, for mediums
and strategies, when it is a hyphen written for an underscore.

**Results.**
* `Medium.parse_eq_ok_iff`, `Strategy.parse_eq_ok_iff`, `IdentityType.parse_eq_ok_iff`,
  `PublicKind.parse_eq_ok_iff`: the language of each value, as `PaddedSpelling`.
* `token_readers_read_spellings`: every reader reads exactly those languages (so the
  languages of two values never meet), keeps the token as given in every refusal, and reads
  each value's own names back to it.
-/

namespace Proximity

/-! ## Spellings -/

/-- A character spells a token character when the two agree up to ASCII case, or, where
hyphens are allowed, when it is a hyphen written for an underscore. -/
def SpellsChar (hyphens : Bool) (c t : Char) : Prop :=
  c.toLower = t.toLower ∨ (hyphens = true ∧ c = '-' ∧ t = '_')

/-- A text spells a token character by character. -/
def Spells (hyphens : Bool) (x : List Char) (token : String) : Prop :=
  List.Forall₂ (SpellsChar hyphens) x token.toList

/-- A text is a spelling of one of the tokens, with blanks before and after it. -/
def PaddedSpelling (hyphens : Bool) (tokens : List String) (s : String) : Prop :=
  ∃ w₁ x w₂, s.toList = w₁ ++ x ++ w₂ ∧ (∀ c ∈ w₁, Text.isBlank c = true) ∧
    (∀ c ∈ w₂, Text.isBlank c = true) ∧ ∃ token ∈ tokens, Spells hyphens x token

/-- A printable ASCII character other than the space. -/
def VisibleAscii (t : Char) : Prop := 33 ≤ t.toNat ∧ t.toNat ≤ 126

instance (t : Char) : Decidable (VisibleAscii t) := inferInstanceAs (Decidable (_ ∧ _))

/-- A check on every character of some tokens, run as a Boolean test: the form in which
`decide` evaluates it one character at a time. -/
theorem forall_tokens_of_all {tokens : List String} {p : Char → Prop} [DecidablePred p]
    (h : (tokens.all fun tok => tok.toList.all fun c => decide (p c)) = true) :
    ∀ tok ∈ tokens, ∀ c ∈ tok.toList, p c := by
  simpa using h

/-- A reader of tokens reads exactly the texts of one language for each value, and every
refusal is determined by the token as it was given. -/
structure ReadsExactly {ε α : Type} (parse : String → Except ε α) (lang : α → String → Prop)
    (refusal : String → ε) : Prop where
  ok_iff : ∀ s a, parse s = .ok a ↔ lang a s
  error_eq : ∀ s e, parse s = .error e → e = refusal s

/-- No text is in the languages of two values. -/
def LanguagesDisjoint {α : Type} (lang : α → String → Prop) : Prop :=
  ∀ s a b, lang a s → lang b s → a = b

/-- The languages a reader reads for two values never meet. -/
theorem ReadsExactly.disjoint {ε α : Type} {parse : String → Except ε α}
    {lang : α → String → Prop} {refusal : String → ε} (h : ReadsExactly parse lang refusal) :
    LanguagesDisjoint lang := by
  intro s a b ha hb
  have hpa := (h.ok_iff s a).2 ha
  rw [(h.ok_iff s b).2 hb] at hpa
  cases hpa
  rfl

/-- Every token is a padded spelling of itself. -/
theorem paddedSpelling_self {h : Bool} {tokens : List String} {tok : String}
    (htok : tok ∈ tokens) : PaddedSpelling h tokens tok :=
  ⟨[], tok.toList, [], by simp, by simp, by simp, tok, htok,
    List.forall₂_same.2 fun _ _ => Or.inl rfl⟩

/-! ## Folding one character -/

/-- Upper-casing a character and writing a hyphen as an underscore lands on a token character
exactly when the character spells it, hyphens allowed. -/
theorem spellsChar_true_iff {c t : Char} (ht : t.toUpper = t) (ht' : t ≠ '-') :
    SpellsChar true c t ↔ (if c.toUpper = '-' then '_' else c.toUpper) = t := by
  have hu := Text.toNat_toUpper c
  have hl := Text.toNat_toLower c
  have htl := Text.toNat_toLower t
  have htu := Text.toNat_toUpper t
  have hdash : ('-' : Char).toNat = 45 := rfl
  have hunder : ('_' : Char).toNat = 95 := rfl
  rw [← Char.toNat_inj] at ht
  rw [Ne, ← Char.toNat_inj, hdash] at ht'
  unfold SpellsChar
  simp only [← Char.toNat_inj, true_and]
  rw [hdash, hunder]
  split <;> split at hu <;> split at hl <;> split at htl <;> split at htu <;> omega

/-- Lower-casing a character lands on a lower-case token character exactly when the
character spells it. -/
theorem spellsChar_false_iff {c t : Char} (ht : t.toLower = t) :
    SpellsChar false c t ↔ c.toLower = t := by
  simp [SpellsChar, ht]

/-- A character that spells a visible character is no blank. -/
theorem isBlank_of_spellsChar {h : Bool} {c t : Char} (hs : SpellsChar h c t)
    (ht : VisibleAscii t) : Text.isBlank c = false := by
  rcases hs with hs | ⟨-, rfl, -⟩
  · have hl := Text.toNat_toLower c
    have htl := Text.toNat_toLower t
    rw [← Char.toNat_inj] at hs
    unfold VisibleAscii at ht
    simp only [Text.isBlank, Bool.or_eq_false_iff, Bool.and_eq_false_iff, beq_eq_false_iff_ne,
      decide_eq_false_iff_not]
    split at hl <;> split at htl <;> omega
  · decide

/-! ## Folding a whole token -/

/-- Where spelling a token character means folding onto it, spelling the token means folding
onto the token. -/
theorem spells_iff_map {h : Bool} {f : Char → Char} {x : List Char} {token : String}
    (hf : ∀ t ∈ token.toList, ∀ c, SpellsChar h c t ↔ f c = t) :
    Spells h x token ↔ x.map f = token.toList := by
  unfold Spells
  generalize token.toList = ts at hf ⊢
  induction x generalizing ts with
  | nil => cases ts <;> simp
  | cons c x ih =>
    cases ts with
    | nil => simp
    | cons t ts =>
      simp only [List.forall₂_cons, List.map_cons, List.cons.injEq]
      rw [hf t (by simp) c, ih ts (fun t' ht' => hf t' (by simp [ht']))]

/-- A reader that trims a text and folds it character by character finds a token exactly in
the padded spellings of the token, provided the token's characters are visible and spelling
each of them means folding onto it. -/
theorem map_trimChars_eq_iff {h : Bool} {f : Char → Char} {tokens : List String} {s : String}
    (hf : ∀ tok ∈ tokens, ∀ t ∈ tok.toList, VisibleAscii t ∧ ∀ c, SpellsChar h c t ↔ f c = t) :
    (∃ tok ∈ tokens, (Text.trimChars s.toList).map f = tok.toList) ↔
      PaddedSpelling h tokens s := by
  constructor
  · rintro ⟨tok, htok, heq⟩
    obtain ⟨w₁, w₂, h₁, h₂, hs⟩ := Text.exists_blanks_around_trimChars s.toList
    exact ⟨w₁, _, w₂, hs, h₁, h₂, tok, htok,
      (spells_iff_map fun t ht => (hf tok htok t ht).2).2 heq⟩
  · rintro ⟨w₁, x, w₂, hs, h₁, h₂, tok, htok, hsp⟩
    have hmap := (spells_iff_map fun t ht => (hf tok htok t ht).2).1 hsp
    -- every character of the spelling folds onto a visible token character, so none is blank
    have hx : ∀ c ∈ x, Text.isBlank c = false := by
      intro c hc
      have hfc : f c ∈ tok.toList := hmap ▸ List.mem_map_of_mem hc
      have hvis := hf tok htok (f c) hfc
      exact isBlank_of_spellsChar ((hvis.2 c).2 rfl) hvis.1
    exact ⟨tok, htok, by rw [hs, Text.trimChars_blanks_around h₁ h₂ hx, hmap]⟩

/-! ## Mediums -/

/-- The second token a medium is read from, for the two mediums that have one. -/
def Medium.alias? : Medium → Option String
  | .bluetoothClassic => some "BLUETOOTH"
  | .webRtc => some "WEBRTC"
  | _ => none

/-- The tokens a medium is read from: its name, and its alias if it has one. -/
def Medium.tokens (m : Medium) : List String := m.name :: m.alias?.toList

theorem Medium.ofName?_eq_some_iff {u : String} {m : Medium} :
    ofName? u = some m ↔ u ∈ m.tokens := by
  unfold ofName?
  split <;> cases m <;> simp_all [tokens, alias?, name]

theorem Medium.toList_normalizeToken (s : String) :
    (normalizeToken s).toList =
      (Text.trimChars s.toList).map fun c => if c.toUpper = '-' then '_' else c.toUpper := by
  simp [normalizeToken, Text.hyphensToUnderscores, Text.upperAscii, Text.trim,
    String.toList_map]

/-- A medium is read from exactly the padded spellings of its tokens, hyphens allowed. -/
theorem Medium.parse_eq_ok_iff (s : String) (m : Medium) :
    parse s = .ok m ↔ PaddedSpelling true m.tokens s := by
  have hread : parse s = .ok m ↔ normalizeToken s ∈ m.tokens := by
    unfold parse
    split <;> rename_i h <;> simp [← ofName?_eq_some_iff, h]
  have htokens : ∀ tok ∈ m.tokens, ∀ t ∈ tok.toList,
      VisibleAscii t ∧ t.toUpper = t ∧ t ≠ '-' :=
    forall_tokens_of_all (by cases m <;> decide)
  rw [hread, ← map_trimChars_eq_iff fun tok htok t ht =>
    ⟨(htokens tok htok t ht).1, fun c => spellsChar_true_iff (htokens tok htok t ht).2.1
      (htokens tok htok t ht).2.2⟩]
  simp [← toList_normalizeToken, String.toList_inj]

theorem Medium.parse_error (s : String) (e : UnknownMedium) (h : parse s = .error e) :
    e = ⟨s⟩ := by
  unfold parse at h
  split at h <;> cases h
  rfl

/-! ## Strategies -/

/-- The token of a strategy without its `P2P_` tag. -/
def Strategy.bareName : Strategy → String
  | pointToPoint => "POINT_TO_POINT"
  | star => "STAR"
  | cluster => "CLUSTER"

/-- The tokens a strategy is read from: its bare token, with or without one `P2P_` tag. -/
def Strategy.tokens (t : Strategy) : List String := [t.bareName, "P2P_" ++ t.bareName]

theorem Strategy.ofBareName?_eq_some_iff {v : String} {t : Strategy} :
    ofBareName? v = some t ↔ v = t.bareName := by
  unfold ofBareName?
  split <;> cases t <;> simp_all [bareName]

/-- No bare token starts with the tag. -/
theorem Strategy.bareName_toList_ne (t : Strategy) (rest : List Char) :
    t.bareName.toList ≠ 'P' :: '2' :: 'P' :: '_' :: rest := by
  cases t <;> simp [bareName]

/-- Dropping the tag and reading a bare token finds a strategy exactly in its tokens. -/
theorem Strategy.ofBareName?_dropTopologyTag {u : String} {t : Strategy} :
    ofBareName? (dropTopologyTag u) = some t ↔ u ∈ t.tokens := by
  have htag : ("P2P_" ++ t.bareName).toList = 'P' :: '2' :: 'P' :: '_' :: t.bareName.toList := by
    simp
  rw [ofBareName?_eq_some_iff, tokens, List.mem_cons, List.mem_singleton]
  unfold dropTopologyTag
  split
  · rename_i rest hu
    constructor
    · intro h
      right
      rw [← String.toList_inj, hu, htag, ← h, String.toList_ofList]
    · rintro (rfl | rfl)
      · exact absurd hu (bareName_toList_ne t rest)
      · rw [htag, List.cons.injEq, List.cons.injEq, List.cons.injEq, List.cons.injEq] at hu
        rw [← hu.2.2.2.2, String.ofList_toList]
  · rename_i hu
    constructor
    · exact Or.inl
    · rintro (h | rfl)
      · exact h
      · exact absurd htag (hu _)

/-- A strategy is read from exactly the padded spellings of its bare token, with or without
one `P2P_` tag, hyphens allowed. -/
theorem Strategy.parse_eq_ok_iff (s : String) (t : Strategy) :
    parse s = .ok t ↔ PaddedSpelling true t.tokens s := by
  have hread : parse s = .ok t ↔ Medium.normalizeToken s ∈ t.tokens := by
    unfold parse
    split <;> rename_i h <;> simp [← ofBareName?_dropTopologyTag, h]
  have htokens : ∀ tok ∈ t.tokens, ∀ c ∈ tok.toList,
      VisibleAscii c ∧ c.toUpper = c ∧ c ≠ '-' :=
    forall_tokens_of_all (by cases t <;> decide)
  rw [hread, ← map_trimChars_eq_iff fun tok htok c hc =>
    ⟨(htokens tok htok c hc).1, fun d => spellsChar_true_iff (htokens tok htok c hc).2.1
      (htokens tok htok c hc).2.2⟩]
  simp [← Medium.toList_normalizeToken, String.toList_inj]

theorem Strategy.parse_error (s : String) (e : InvalidStrategy) (h : parse s = .error e) :
    e = ⟨s⟩ := by
  unfold parse at h
  split at h <;> cases h
  rfl

/-! ## Credential kinds -/

theorem toList_lowerAscii_trim (s : String) :
    (Text.lowerAscii (Text.trim s)).toList = (Text.trimChars s.toList).map Char.toLower := by
  simp [Text.lowerAscii, Text.trim, String.toList_map]

theorem IdentityType.ofName?_eq_some_iff {u : String} {t : IdentityType} :
    ofName? u = some t ↔ u = t.name := by
  unfold ofName?
  split <;> cases t <;> simp_all [name]

/-- An identity type is read from exactly the padded spellings of its token. -/
theorem IdentityType.parse_eq_ok_iff (s : String) (t : IdentityType) :
    parse s = .ok t ↔ PaddedSpelling false [t.name] s := by
  have hread : parse s = .ok t ↔ Text.lowerAscii (Text.trim s) = t.name := by
    unfold parse
    split <;> rename_i h <;> simp [← ofName?_eq_some_iff, h]
  have htokens : ∀ c ∈ t.name.toList, VisibleAscii c ∧ c.toLower = c :=
    @forall_tokens_of_all [t.name] _ _ (by cases t <;> decide) t.name (by simp)
  rw [hread, ← map_trimChars_eq_iff fun tok htok c hc => by
    rw [List.mem_singleton.1 htok] at hc
    exact ⟨(htokens c hc).1, fun d => spellsChar_false_iff (htokens c hc).2⟩]
  simp [← toList_lowerAscii_trim, String.toList_inj]

theorem IdentityType.parse_error (s : String) (e : StoreError) (h : parse s = .error e) :
    e = .invalidSelector ("unknown identity type '" ++ s ++ "'") := by
  unfold parse at h
  split at h <;> cases h
  rfl

/-- A public kind is read from exactly the padded spellings of its short or long name. -/
theorem PublicKind.parse_eq_ok_iff (s : String) (k : PublicKind) :
    parse s = .ok k ↔ PaddedSpelling false [k.name, k.longName] s := by
  have hread : parse s = .ok k ↔ Text.lowerAscii (Text.trim s) ∈ [k.name, k.longName] := by
    unfold parse
    split <;> cases k <;> simp_all [name, longName]
  have htokens : ∀ tok ∈ [k.name, k.longName], ∀ c ∈ tok.toList,
      VisibleAscii c ∧ c.toLower = c :=
    forall_tokens_of_all (by cases k <;> decide)
  rw [hread, ← map_trimChars_eq_iff fun tok htok c hc =>
    ⟨(htokens tok htok c hc).1, fun d => spellsChar_false_iff (htokens tok htok c hc).2⟩]
  simp [← toList_lowerAscii_trim, String.toList_inj]

theorem PublicKind.parse_error (s : String) (e : StoreError) (h : parse s = .error e) :
    e = .invalidSelector ("unknown public credential type '" ++ s ++ "'") := by
  unfold parse at h
  split at h <;> cases h
  rfl

/-! ## The four readers -/

/-- Each token reader reads exactly the padded spellings of a value's tokens, so no text is
read as two values; every refusal keeps the token as it was given; and every value's own
names (the name it is written with, and a public kind's long name) are read back to it. -/
theorem token_readers_read_spellings :
    ReadsExactly Medium.parse (fun m => PaddedSpelling true m.tokens) Medium.UnknownMedium.mk ∧
    ReadsExactly Strategy.parse (fun t => PaddedSpelling true t.tokens) Strategy.InvalidStrategy.mk ∧
    ReadsExactly IdentityType.parse (fun t => PaddedSpelling false [t.name])
      (fun s => .invalidSelector ("unknown identity type '" ++ s ++ "'")) ∧
    ReadsExactly PublicKind.parse (fun k => PaddedSpelling false [k.name, k.longName])
      (fun s => .invalidSelector ("unknown public credential type '" ++ s ++ "'")) ∧
    LanguagesDisjoint (fun (m : Medium) => PaddedSpelling true m.tokens) ∧
    LanguagesDisjoint (fun (t : Strategy) => PaddedSpelling true t.tokens) ∧
    LanguagesDisjoint (fun (t : IdentityType) => PaddedSpelling false [t.name]) ∧
    LanguagesDisjoint (fun (k : PublicKind) => PaddedSpelling false [k.name, k.longName]) ∧
    (∀ m, Medium.parse m.name = .ok m) ∧ (∀ t, Strategy.parse t.name = .ok t) ∧
    (∀ t, IdentityType.parse t.name = .ok t) ∧
    (∀ k, PublicKind.parse k.name = .ok k ∧ PublicKind.parse k.longName = .ok k) := by
  have hm : ReadsExactly Medium.parse (fun m => PaddedSpelling true m.tokens) Medium.UnknownMedium.mk :=
    ⟨Medium.parse_eq_ok_iff, Medium.parse_error⟩
  have hs : ReadsExactly Strategy.parse (fun t => PaddedSpelling true t.tokens)
      Strategy.InvalidStrategy.mk := ⟨Strategy.parse_eq_ok_iff, Strategy.parse_error⟩
  have hi : ReadsExactly IdentityType.parse (fun t => PaddedSpelling false [t.name])
      (fun s => .invalidSelector ("unknown identity type '" ++ s ++ "'")) :=
    ⟨IdentityType.parse_eq_ok_iff, IdentityType.parse_error⟩
  have hp : ReadsExactly PublicKind.parse (fun k => PaddedSpelling false [k.name, k.longName])
      (fun s => .invalidSelector ("unknown public credential type '" ++ s ++ "'")) :=
    ⟨PublicKind.parse_eq_ok_iff, PublicKind.parse_error⟩
  refine ⟨hm, hs, hi, hp, hm.disjoint, hs.disjoint, hi.disjoint, hp.disjoint, ?_, ?_, ?_, ?_⟩
  · -- a name is a spelling of itself, with no blanks around it
    intro m
    exact (hm.ok_iff _ m).2 (paddedSpelling_self (List.mem_cons_self ..))
  · intro t
    have hname : t.name ∈ t.tokens := by
      cases t <;> simp [Strategy.tokens, Strategy.bareName, Strategy.name]
    exact (hs.ok_iff _ t).2 (paddedSpelling_self hname)
  · intro t
    exact (hi.ok_iff _ t).2 (paddedSpelling_self (List.mem_singleton_self _))
  · intro k
    exact ⟨(hp.ok_iff _ k).2 (paddedSpelling_self (by simp)),
      (hp.ok_iff _ k).2 (paddedSpelling_self (by simp))⟩

end Proximity
