import Proximity.Url.Edit
import Proximity.Url.Form

/-!
# Percent-encoding and form pairs read back

A segment added to a URL is percent-encoded character by character (`encodeAll`), and the
query of a URL is read as form-encoded pairs (`formPairs`). Decoding undoes the first, and the
pairs of two queries joined by `&` are the pairs of each.

**Results.**
* `percentDecode_encodeAll`: an encoded text decodes to the UTF-8 bytes of the text, whenever
  the set encodes `%` (so that a literal `%` never starts an escape).
* `not_mem_encodeAll`: a character the set encodes that is neither `%` nor an upper-case
  hexadecimal digit never appears in an encoded text.
* `formPairs_append`, `formPairs_pair`: the pairs of `q&p`, and of one `name=value`.
* `queryPairs_appendPair`: adding a pair to a URL adds its pairs after the query's own, and
  `appendPair_frame`: it changes nothing but the query.
-/

namespace Proximity

/-! ## The bytes of a text -/

/-- The loop behind `ByteArray.toList`, from index `i` with the bytes so far reversed in `r`. -/
theorem ByteArray.toList_loop (b : ByteArray) (i : Nat) (r : List UInt8) :
    ByteArray.toList.loop b i r = r.reverse ++ b.data.toList.drop i := by
  fun_induction ByteArray.toList.loop b i r with
  | case1 i r h ih =>
    rw [ih, List.reverse_cons, List.append_assoc]
    congr 1
    have hi : i < b.data.toList.length := by simpa using h
    have hsize : i < b.data.size := h
    rw [List.drop_eq_getElem_cons hi, ByteArray.get!, getElem!_pos b.data i hsize]
    simp
  | case2 i r h =>
    have : b.data.toList.length ≤ i := by simpa using h
    simp [List.drop_eq_nil_of_le this]

theorem ByteArray.toList_eq_data_toList (b : ByteArray) : b.toList = b.data.toList := by
  simp [ByteArray.toList, ByteArray.toList_loop]

namespace Url

@[simp] theorem toList_utf8Encode (cs : List Char) :
    cs.utf8Encode.toList = cs.flatMap String.utf8EncodeChar := by
  rw [List.utf8Encode, ByteArray.toList_eq_data_toList, List.toList_data_toByteArray]

theorem toList_toUTF8_ofList (cs : List Char) :
    (String.ofList cs).toUTF8.toList = cs.flatMap String.utf8EncodeChar := by
  rw [String.toUTF8_eq_toByteArray, String.toByteArray_ofList, toList_utf8Encode]

/-- Two texts with the same UTF-8 bytes are the same text. -/
theorem toList_toUTF8_inj {s t : String} : s.toUTF8.toList = t.toUTF8.toList ↔ s = t := by
  rw [ByteArray.toList_eq_data_toList, ByteArray.toList_eq_data_toList, Array.toList_inj,
    String.toUTF8_eq_toByteArray, String.toUTF8_eq_toByteArray, ← String.toByteArray_inj]
  exact ⟨ByteArray.ext, fun h => h ▸ rfl⟩

theorem utf8EncodeChar_of_lt {c : Char} (h : c.toNat < 0x80) :
    String.utf8EncodeChar c = [c.toNat.toUInt8] := by
  rw [String.utf8EncodeChar_eq_singleton (Char.utf8Size_eq_one_iff.2 ?_)]
  · rfl
  · change c.val.toNat < 128 at h
    exact UInt32.le_iff_toNat_le.2 (by change c.val.toNat ≤ 127; omega)

/-! ## Percent escapes -/

/-- The upper-case hexadecimal digit `percentByte` writes for a number below 16. -/
def upperHexDigit (n : Nat) : Char := "0123456789ABCDEF".toList.getD n '0'

theorem upperHexDigit_mem (n : Nat) : upperHexDigit n ∈ "0123456789ABCDEF".toList := by
  rw [upperHexDigit, List.getD_eq_getElem?_getD]
  cases h : "0123456789ABCDEF".toList[n]? with
  | none => decide
  | some d => exact List.mem_of_getElem? h

theorem hexValue_upperHexDigit : ∀ n, n < 16 → hexValue (upperHexDigit n) = some n := by
  decide

theorem toList_percentByte (n : Nat) :
    (percentByte n).toList = ['%', upperHexDigit (n / 16), upperHexDigit (n % 16)] := by
  simp [percentByte, upperHexDigit]

/-- An escape decodes to the byte it was written for. -/
theorem percentDecode_percentByte (b : UInt8) (rest : List Char) :
    percentDecode ((percentByte b.toNat).toList ++ rest) = b :: percentDecode rest := by
  have hb : b.toNat < 256 := b.toNat_lt
  rw [toList_percentByte, List.cons_append, List.cons_append, List.cons_append, List.nil_append,
    percentDecode, hexValue_upperHexDigit _ (by omega), hexValue_upperHexDigit _ (by omega)]
  simp only [List.cons.injEq, and_true]
  rw [Nat.div_add_mod']
  simp

theorem percentDecode_percentBytes (bs : List UInt8) (rest : List Char) :
    percentDecode ((String.join (bs.map fun b => percentByte b.toNat)).toList ++ rest) =
      bs ++ percentDecode rest := by
  induction bs with
  | nil => simp
  | cons b bs ih =>
    rw [List.map_cons, String.join_cons, String.toList_append, List.append_assoc,
      percentDecode_percentByte, ih, List.cons_append]

/-- A character other than `%` decodes to its own UTF-8 bytes. -/
theorem percentDecode_cons_of_ne {c : Char} (hc : c ≠ '%') (rest : List Char) :
    percentDecode (c :: rest) = String.utf8EncodeChar c ++ percentDecode rest := by
  rw [percentDecode.eq_def]
  split
  · rename_i heq
    cases heq
    exact absurd rfl hc
  · rename_i heq
    cases heq
    simp
  · cases ‹c :: rest = []›

/-- An encoded character decodes to its UTF-8 bytes, whichever of its three forms it takes. -/
theorem percentDecode_encodeWith {inSet : Char → Bool} (hpct : inSet '%' = true) (c : Char)
    (rest : List Char) :
    percentDecode ((encodeWith inSet c).toList ++ rest) =
      String.utf8EncodeChar c ++ percentDecode rest := by
  unfold encodeWith
  split
  · -- kept as it is: it is not `%`, which the set encodes
    rename_i h
    simp only [Bool.and_eq_true, decide_eq_true_eq, Bool.not_eq_true'] at h
    have hc : c ≠ '%' := by
      rintro rfl
      rw [hpct] at h
      exact Bool.noConfusion h.2
    rw [String.toList_singleton, List.singleton_append, percentDecode_cons_of_ne hc]
  · split
    · -- an ASCII character is one escape of its one byte
      rename_i hascii
      have hlt : c.toNat < 0x80 := by simpa using hascii
      have hbyte : c.toNat.toUInt8.toNat = c.toNat := by simp; omega
      have h := percentDecode_percentByte c.toNat.toUInt8 rest
      rw [hbyte] at h
      rw [utf8EncodeChar_of_lt hlt, h, List.singleton_append]
    · have h := percentDecode_percentBytes (String.utf8EncodeChar c) rest
      simpa using h

/-- An encoded text decodes to the UTF-8 bytes of the text. -/
theorem percentDecode_encodeAll {inSet : Char → Bool} (hpct : inSet '%' = true)
    (cs : List Char) :
    percentDecode (encodeAll inSet cs).toList = (String.ofList cs).toUTF8.toList := by
  rw [toList_toUTF8_ofList]
  induction cs with
  | nil => simp [encodeAll, percentDecode]
  | cons c cs ih =>
    rw [encodeAll, List.map_cons, String.join_cons, String.toList_append,
      percentDecode_encodeWith hpct, ← encodeAll, ih, List.flatMap_cons]

/-! ## The characters of an encoded text -/

theorem mem_encodeWith {inSet : Char → Bool} {c d : Char}
    (h : d ∈ (encodeWith inSet c).toList) :
    (d = c ∧ inSet c = false) ∨ d = '%' ∨ d ∈ "0123456789ABCDEF".toList := by
  have hbyte : ∀ n, d ∈ (percentByte n).toList →
      d = '%' ∨ d ∈ "0123456789ABCDEF".toList := by
    intro n hn
    rw [toList_percentByte] at hn
    rcases List.mem_cons.1 hn with hn | hn
    · exact .inl hn
    · rcases List.mem_cons.1 hn with hn | hn
      · exact .inr (hn ▸ upperHexDigit_mem _)
      · rw [List.mem_singleton.1 hn]
        exact .inr (upperHexDigit_mem _)
  unfold encodeWith at h
  split at h
  · rename_i hc
    simp only [Bool.and_eq_true, decide_eq_true_eq, Bool.not_eq_true'] at hc
    rw [String.toList_singleton, List.mem_singleton] at h
    exact .inl ⟨h, hc.2⟩
  · split at h
    · exact .inr (hbyte _ h)
    · rw [String.toList_join, List.mem_flatMap] at h
      obtain ⟨piece, hpiece, hd⟩ := h
      obtain ⟨b, -, rfl⟩ := List.mem_map.1 hpiece
      exact .inr (hbyte _ hd)

/-- A character that the set encodes and that no escape is written with never appears in an
encoded text. -/
theorem not_mem_encodeAll {inSet : Char → Bool} {d : Char} (hd : inSet d = true)
    (hpct : d ≠ '%') (hhex : d ∉ "0123456789ABCDEF".toList) (cs : List Char) :
    d ∉ (encodeAll inSet cs).toList := by
  intro h
  rw [encodeAll, String.toList_join, List.mem_flatMap] at h
  obtain ⟨piece, hpiece, hmem⟩ := h
  obtain ⟨c, -, rfl⟩ := List.mem_map.1 hpiece
  rcases mem_encodeWith hmem with ⟨rfl, hc⟩ | h | h
  · rw [hd] at hc
    exact Bool.noConfusion hc
  · exact hpct h
  · exact hhex h

/-! ## Form pairs -/

@[simp] theorem formPairs_empty : formPairs "" = [] := by
  simp [formPairs]

/-- The pairs of two form-encoded texts joined by `&` are the pairs of each, in order. -/
theorem formPairs_append (q p : String) :
    formPairs (q ++ "&" ++ p) = formPairs q ++ formPairs p := by
  have hamp : "&".toList = ['&'] := by decide
  simp only [formPairs, String.toList_append, hamp, List.append_assoc, List.singleton_append,
    List.splitOn_append_cons_self, List.map_append, List.filter_append]

/-- A text with no `&` is one piece, and `name=value` with no `=` in either reads as that one
pair. -/
theorem formPairs_pair {name value : String} (hamp : '&' ∉ name.toList ∧ '&' ∉ value.toList)
    (heq : '=' ∉ name.toList ∧ '=' ∉ value.toList) :
    formPairs (name ++ "=" ++ value) = [(formDecode name, formDecode value)] := by
  have htext : (name ++ "=" ++ value).toList = name.toList ++ '=' :: value.toList := by
    simp
  have hpiece : (name ++ "=" ++ value).toList.splitOn '&' = [(name ++ "=" ++ value).toList] := by
    apply List.splitOn_eq_singleton
    rw [htext]
    simp [hamp]
  have hne : (name ++ "=" ++ value).isEmpty = false := by
    simp
  simp only [formPairs, hpiece, List.map_cons, List.map_nil, String.ofList_toList, List.filter_cons,
    hne, Bool.not_false, if_true, List.filter_nil]
  simp only [formPair, htext, List.splitOn_append_cons_self, List.splitOn_eq_singleton heq.1,
    List.splitOn_eq_singleton heq.2, List.singleton_append, List.intercalate_singleton,
    String.ofList_toList]

/-- The name–value pairs of a URL's query, as a form reads them; none without a query. -/
def queryPairs (u : Url) : List (String × String) := formPairs (u.query.getD "")

/-- Adding a pair to a URL changes its query only. -/
theorem appendPair_frame (u : Url) (name value : String) :
    ∃ q, u.appendPair name value = { u with query := some q } := by
  unfold appendPair
  split
  · exact ⟨_, rfl⟩
  · exact ⟨_, rfl⟩
  · exact ⟨_, rfl⟩

/-- Adding a pair to a URL adds its pairs after the query's own. -/
theorem queryPairs_appendPair (u : Url) (name value : String) :
    (u.appendPair name value).queryPairs =
      u.queryPairs ++ formPairs (formEncode name ++ "=" ++ formEncode value) := by
  unfold appendPair queryPairs
  split
  · rename_i hq
    simp [hq]
  · rename_i hq
    simp [hq]
  · rename_i q _ hq
    simp [hq, formPairs_append]

end Url

end Proximity
