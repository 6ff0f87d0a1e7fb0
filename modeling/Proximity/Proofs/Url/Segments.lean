import Proximity.Proofs.Url.Encoding

/-!
# Adding a segment to a path

`pushSegment` adds one segment the way a URL's segment setter does. A text that is `.` or `..`
adds nothing; tabs and newlines are dropped from any other text, and what is left is read as
path text, so that `..` empties the last segment, `.` adds an empty one, and anything else is
added percent-encoded.

**Results.**
* `pushSegment_eq`: one unfolding of the step, with its cases as propositions.
* `pushSegment_plain`: a plain text (such as `v1`) is added as it is.
* `pushSegment_encodes_iff`: the step adds one segment that stands for the text, decoding to
  it and holding no `/`, `?` or `#`, exactly when the text is an ordinary segment text.
* `pushSegment_keeps_prefix`: the step never touches what comes before the last segment.
-/

namespace Proximity

namespace Url

/-- The characters of a segment text that a URL keeps: all but tabs and newlines. -/
def keptChars (s : String) : List Char :=
  s.toList.filter fun c => c != '\t' && c != '\n' && c != '\r'

/-- The characters a segment added to a URL has percent-encoded. -/
def segmentSet (special : Bool) : Char → Bool :=
  if special then inSpecialPathSegment else inPathSegment

theorem segmentSet_percent (special : Bool) : segmentSet special '%' = true := by
  cases special <;> decide

/-- Adding a segment, with the cases of its text in the order they are tried. -/
theorem pushSegment_eq (special : Bool) (ss : List String) (s : String) :
    pushSegment special ss s =
      if s = "." ∨ s = ".." then ss
      else if keptChars s = ['.', '.'] then ss.dropLast ++ [""]
      else (if ss = [""] then [] else ss) ++
        [if keptChars s = ['.'] then "" else encodeAll (segmentSet special) (keptChars s)] := by
  unfold pushSegment keptChars segmentSet
  simp only [Bool.or_eq_true, beq_iff_eq]
  by_cases hss : ss = [""] <;> simp [hss]

/-- A path holding a nonempty segment is not a lone empty segment. -/
theorem ne_lone_empty_of_mem {xs : List String} {s : String} (hs : s ∈ xs) (hne : s ≠ "") :
    xs ≠ [""] := by
  rintro rfl
  exact hne (List.mem_singleton.1 hs)

/-! ## Plain segments -/

/-- A segment text that is added as it is: not `.` or `..`, and made of ASCII characters that
no segment set encodes. -/
def PlainSegment (s : String) : Prop :=
  s.toList ≠ ['.'] ∧ s.toList ≠ ['.', '.'] ∧
    ∀ c ∈ s.toList, c.toNat < 0x80 ∧ inSpecialPathSegment c = false

/-- The check of a plain segment, one character at a time. -/
theorem plainSegment_iff_all (s : String) :
    PlainSegment s ↔ s.toList ≠ ['.'] ∧ s.toList ≠ ['.', '.'] ∧
      (s.toList.all fun c => decide (c.toNat < 0x80) && !inSpecialPathSegment c) = true := by
  simp [PlainSegment]

instance : DecidablePred PlainSegment := fun s => decidable_of_iff _ (plainSegment_iff_all s).symm

theorem encodeAll_of_forall {inSet : Char → Bool} {cs : List Char}
    (h : ∀ c ∈ cs, c.toNat < 0x80 ∧ inSet c = false) :
    encodeAll inSet cs = String.ofList cs := by
  rw [← String.toList_inj, encodeAll, String.toList_join, String.toList_ofList]
  induction cs with
  | nil => rfl
  | cons c cs ih =>
    obtain ⟨hlt, hset⟩ := h c (by simp)
    rw [List.map_cons, List.flatMap_cons, ih fun d hd => h d (by simp [hd])]
    simp [encodeWith, hlt, hset]

/-- A plain segment is added as it is, in place of a path that is a lone empty segment. -/
theorem pushSegment_plain {s : String} (hs : PlainSegment s) (special : Bool)
    (ss : List String) : pushSegment special ss s = (if ss = [""] then [] else ss) ++ [s] := by
  obtain ⟨hone, htwo, hchars⟩ := hs
  -- tabs and newlines are controls, which both segment sets encode
  have hkept : keptChars s = s.toList := by
    rw [keptChars, List.filter_eq_self]
    intro c hc
    have hset := (hchars c hc).2
    simp only [bne_iff_ne, ne_eq, Bool.and_eq_true]
    refine ⟨⟨?_, ?_⟩, ?_⟩ <;> rintro rfl <;> revert hset <;> decide
  have hdot : ¬(s = "." ∨ s = "..") := by
    rintro (rfl | rfl)
    · exact hone rfl
    · exact htwo rfl
  have henc : encodeAll (segmentSet special) s.toList = s := by
    rw [encodeAll_of_forall, String.ofList_toList]
    intro c hc
    refine ⟨(hchars c hc).1, ?_⟩
    have hset := (hchars c hc).2
    cases special
    · simp only [inSpecialPathSegment, Bool.or_eq_false_iff] at hset
      exact hset.1
    · exact hset
  rw [pushSegment_eq, if_neg hdot, hkept, if_neg htwo, if_neg hone, henc]

/-! ## Ordinary segments -/

/-- A text that is added to a path as one segment of its own: not `.` or `..`, and with no tab
or newline, which a URL drops. -/
def OrdinarySegment (s : String) : Prop :=
  s ≠ "." ∧ s ≠ ".." ∧ ∀ c ∈ s.toList, c ≠ '\t' ∧ c ≠ '\n' ∧ c ≠ '\r'

/-- The check of an ordinary segment, one character at a time. -/
theorem ordinarySegment_iff_all (s : String) :
    OrdinarySegment s ↔ s ≠ "." ∧ s ≠ ".." ∧
      (s.toList.all fun c => c != '\t' && c != '\n' && c != '\r') = true := by
  simp [OrdinarySegment, and_assoc]

instance : DecidablePred OrdinarySegment := fun s =>
  decidable_of_iff _ (ordinarySegment_iff_all s).symm

theorem keptChars_eq_self_iff (s : String) :
    keptChars s = s.toList ↔ ∀ c ∈ s.toList, c ≠ '\t' ∧ c ≠ '\n' ∧ c ≠ '\r' := by
  simp [keptChars, List.filter_eq_self, and_assoc]

/-- A segment that stands for the text `s`: it percent-decodes to the UTF-8 bytes of `s`, and
holds no character that would end a segment or the path. -/
def Encodes (seg s : String) : Prop :=
  percentDecode seg.toList = s.toUTF8.toList ∧
    ∀ c ∈ seg.toList, c ≠ '/' ∧ c ≠ '?' ∧ c ≠ '#'

/-- Only the empty text has the empty segment. -/
theorem keptChars_of_encodes_empty {s : String} (h : Encodes "" s) : keptChars s = [] := by
  have hbytes : ("" : String).toUTF8.toList = s.toUTF8.toList := by
    rw [← h.1]
    simp [percentDecode]
  rw [← toList_toUTF8_inj.1 hbytes]
  rfl

/-- An encoded segment stands for exactly one text: the one it encodes. -/
theorem encodes_encodeAll_iff (special : Bool) (cs : List Char) (s : String) :
    Encodes (encodeAll (segmentSet special) cs) s ↔ String.ofList cs = s := by
  have hsep (d : Char) (hd : segmentSet special d = true) (hpct : d ≠ '%')
      (hhex : d ∉ "0123456789ABCDEF".toList) : d ∉ (encodeAll (segmentSet special) cs).toList :=
    not_mem_encodeAll hd hpct hhex cs
  rw [Encodes, percentDecode_encodeAll (segmentSet_percent special), toList_toUTF8_inj]
  refine ⟨fun h => h.1, fun h => ⟨h, fun c hc => ⟨?_, ?_, ?_⟩⟩⟩ <;> rintro rfl
  · exact hsep '/' (by cases special <;> decide) (by decide) (by decide) hc
  · exact hsep '?' (by cases special <;> decide) (by decide) (by decide) hc
  · exact hsep '#' (by cases special <;> decide) (by decide) (by decide) hc

/-- A segment added to a path that is not a lone empty segment is one new segment standing
for its text exactly when the text is ordinary. -/
theorem pushSegment_encodes_iff (special : Bool) {ss : List String} (hss : ss ≠ [""])
    (s : String) :
    (∃ seg, pushSegment special ss s = ss ++ [seg] ∧ Encodes seg s) ↔ OrdinarySegment s := by
  have hord : OrdinarySegment s ↔ s ≠ "." ∧ s ≠ ".." ∧ keptChars s = s.toList := by
    rw [OrdinarySegment, keptChars_eq_self_iff]
  rw [pushSegment_eq, if_neg hss, hord]
  by_cases hdot : s = "." ∨ s = ".."
  · -- nothing is added
    rw [if_pos hdot]
    constructor
    · rintro ⟨seg, h, -⟩
      simp at h
    · rintro ⟨h₁, h₂, -⟩
      exact absurd hdot (not_or.2 ⟨h₁, h₂⟩)
  have hdot' : s ≠ "." ∧ s ≠ ".." := not_or.1 hdot
  rw [if_neg hdot]
  by_cases hdd : keptChars s = ['.', '.']
  · -- the text is `..` once tabs and newlines are dropped: the last segment is emptied
    rw [if_pos hdd]
    constructor
    · rintro ⟨seg, h, henc⟩
      obtain ⟨-, hseg⟩ := List.append_inj' h rfl
      cases hseg
      rw [keptChars_of_encodes_empty henc] at hdd
      cases hdd
    · rintro ⟨-, h₂, hkept⟩
      exact (h₂ (String.toList_inj.1 (hkept.symm.trans hdd))).elim
  rw [if_neg hdd]
  by_cases hd : keptChars s = ['.']
  · -- the text is `.` once tabs and newlines are dropped: an empty segment is added
    rw [if_pos hd]
    constructor
    · rintro ⟨seg, h, henc⟩
      rw [List.append_cancel_left_eq, List.singleton_inj] at h
      subst h
      rw [keptChars_of_encodes_empty henc] at hd
      cases hd
    · rintro ⟨h₁, -, hkept⟩
      exact (h₁ (String.toList_inj.1 (hkept.symm.trans hd))).elim
  · -- otherwise the kept characters are added, and they stand for the text when they are all
    rw [if_neg hd]
    simp only [List.append_cancel_left_eq, List.singleton_inj, exists_eq_left',
      encodes_encodeAll_iff, hdot', ne_eq, not_false_eq_true, true_and]
    constructor
    · intro h
      have htext := congrArg String.toList h
      rwa [String.toList_ofList] at htext
    · intro h
      rw [h, String.ofList_toList]

/-- Adding a segment after `xs ++ [y]` keeps `xs`, and leaves at most two segments after it. -/
theorem pushSegment_keeps_prefix (special : Bool) (xs : List String) (y s : String)
    (hy : xs ++ [y] ≠ [""]) :
    ∃ mid, pushSegment special (xs ++ [y]) s = xs ++ mid ∧ mid.length ≤ 2 := by
  rw [pushSegment_eq, if_neg hy]
  split
  · exact ⟨[y], rfl, by simp⟩
  · split
    · exact ⟨[""], by simp, by simp⟩
    · exact ⟨[y, if keptChars s = ['.'] then ""
          else encodeAll (segmentSet special) (keptChars s)], by simp, by simp⟩

/-- The segments of a base URL that added segments follow: an empty last segment (a trailing
slash) is dropped, and a path left with a single empty segment has none. -/
def baseSegments (ss : List String) : List String :=
  if popIfEmpty ss = [""] then [] else popIfEmpty ss

end Url

end Proximity
