import Proximity.Presence.Device
import Mathlib.Data.Int.CardIntervalMod

/-!
# Minting endpoint ids

An endpoint id is minted from a random source that answers each request with four bytes or
with a failure. The minting loop keeps the bytes below 252, maps each kept byte to the
character at its remainder modulo 36, and stops at four characters; it gives up after eight
draws, and a failed draw ends it at once.

The statements below describe the loop without its state: a script of draws is split into
the successful draws that come first (`pre`) and what follows, and `unbiasedOf pre` lists
the kept bytes of those draws in draw order. Which of the four outcomes happens is read off
that list and the length of `pre`.

**Results.**
* `extend_eq`, `generateFrom_append_bytes`, `generate_of_short`: one draw, and a run of draws
  that finds fewer than four characters, in terms of the kept bytes.
* `generate_of_completes`, `generate_of_fail`, `generate_of_exhausted`,
  `generate_of_biased`: the four outcomes of minting.
* `generate_rest`: at most eight draws are used.
* `parse_of_generate`: every minted id is read back as itself.
* `count_pick_eq`: each character is picked by exactly seven kept bytes.
* `IdentitySource.mint_spec`: minting a device reads the clock once and wraps the id.
* `endpoint_ids_minted_without_bias`: all of the above, as one contract.
-/

namespace Proximity

namespace EndpointId

/-- The bytes of a successful draw that pick characters: those below the limit, in order. -/
def unbiased (values : List Nat) : List Nat :=
  (fourBytes values).filter (· < unbiasedByteLimit)

/-- The bytes that pick characters in successive successful draws, in draw order. -/
def unbiasedOf (blocks : List (List Nat)) : List Nat :=
  blocks.flatMap unbiased

@[simp] theorem unbiasedOf_nil : unbiasedOf [] = [] := rfl

@[simp] theorem unbiasedOf_cons (vs : List Nat) (blocks : List (List Nat)) :
    unbiasedOf (vs :: blocks) = unbiased vs ++ unbiasedOf blocks := rfl

@[simp] theorem unbiasedOf_append (pre post : List (List Nat)) :
    unbiasedOf (pre ++ post) = unbiasedOf pre ++ unbiasedOf post := by
  simp [unbiasedOf]

/-! ## One draw -/

/-- Adding the characters of some bytes to fewer than four keeps the first four characters of
the bytes below the limit. -/
theorem extend_eq (acc : List Char) (bs : List Nat) (h : acc.length ≤ idLength) :
    extend acc bs = (acc ++ (bs.filter (· < unbiasedByteLimit)).map pick).take idLength := by
  fun_induction extend acc bs with
  | case1 acc => simp [List.take_of_length_le h]
  | case2 acc b bs hfull => simp [← hfull]
  | case3 acc b bs hfull hb ih =>
    have hlt : acc.length < idLength := Nat.lt_of_le_of_ne h hfull
    rw [ih (by simp; omega)]
    simp [hb]
  | case4 acc b bs hfull hb ih =>
    rw [ih h]
    simp [hb]

theorem generateFrom_bytes (acc : List Char) (n : Nat) (vs : List Nat) (rest : List Draw) :
    generateFrom acc (n + 1) (.bytes vs :: rest) =
      if (extend acc (fourBytes vs)).length = idLength then
        (.ok ⟨String.ofList (extend acc (fourBytes vs))⟩, rest)
      else generateFrom (extend acc (fourBytes vs)) n rest := rfl

/-- A draw that leaves fewer than four characters adds all of its kept bytes. -/
theorem extend_fourBytes_of_short {acc : List Char} {vs : List Nat}
    (h : acc.length + (unbiased vs).length < idLength) :
    extend acc (fourBytes vs) = acc ++ (unbiased vs).map pick := by
  rw [extend_eq _ _ (by omega), List.take_of_length_le (by simp [unbiased] at h ⊢; omega)]
  rfl

/-! ## A run of draws -/

/-- Successful draws that together find fewer than four characters only add their kept bytes
and use up one draw each. -/
theorem generateFrom_append_bytes (acc : List Char) (n : Nat) (blocks : List (List Nat))
    (rest : List Draw) (hshort : acc.length + (unbiasedOf blocks).length < idLength)
    (hn : blocks.length ≤ n) :
    generateFrom acc n (blocks.map .bytes ++ rest) =
      generateFrom (acc ++ (unbiasedOf blocks).map pick) (n - blocks.length) rest := by
  induction blocks generalizing acc n with
  | nil => simp
  | cons vs blocks ih =>
    obtain ⟨n, rfl⟩ : ∃ m, n = m + 1 := ⟨n - 1, by simp at hn; omega⟩
    simp only [unbiasedOf_cons, List.length_append] at hshort
    have hstep : extend acc (fourBytes vs) = acc ++ (unbiased vs).map pick :=
      extend_fourBytes_of_short (by omega)
    have hlen : (acc ++ (unbiased vs).map pick).length ≠ idLength := by simp; omega
    rw [List.map_cons, List.cons_append, generateFrom_bytes, hstep, if_neg hlen,
      ih _ _ (by simp; omega) (by simp at hn; omega)]
    simp

/-! ## The four outcomes -/

/-- Successful draws that find fewer than four kept bytes, before the last draw allowed, leave
minting with their characters and at least one draw still to make. -/
theorem generate_of_short {pre : List (List Nat)} (rest : List Draw)
    (hlen : pre.length < maxDraws) (hshort : (unbiasedOf pre).length < idLength) :
    ∃ n, generate (pre.map .bytes ++ rest) =
      generateFrom ((unbiasedOf pre).map pick) (n + 1) rest := by
  refine ⟨maxDraws - pre.length - 1, ?_⟩
  rw [generate, generateFrom_append_bytes [] maxDraws pre rest (by simpa using hshort) hlen.le,
    List.nil_append]
  congr 1
  omega

/-- The draw that completes four kept bytes ends minting with their characters, in draw
order. -/
theorem generate_of_completes {pre : List (List Nat)} {last : List Nat} {rest : List Draw}
    (hlen : pre.length < maxDraws) (hshort : (unbiasedOf pre).length < idLength)
    (hdone : idLength ≤ (unbiasedOf (pre ++ [last])).length) :
    generate (pre.map .bytes ++ .bytes last :: rest) =
      (.ok ⟨String.ofList (((unbiasedOf (pre ++ [last])).take idLength).map pick)⟩, rest) := by
  obtain ⟨n, hrun⟩ := generate_of_short (.bytes last :: rest) hlen hshort
  have hext : extend ((unbiasedOf pre).map pick) (fourBytes last) =
      ((unbiasedOf (pre ++ [last])).map pick).take idLength := by
    rw [extend_eq _ _ (by simp; omega)]
    simp [unbiased]
  have hfull : (((unbiasedOf (pre ++ [last])).map pick).take idLength).length = idLength := by
    simp only [List.length_take, List.length_map]
    omega
  rw [hrun, generateFrom_bytes, hext, if_pos hfull, List.map_take]

/-- A failed draw before four kept bytes ends minting with its message. -/
theorem generate_of_fail {pre : List (List Nat)} {m : String} {rest : List Draw}
    (hlen : pre.length < maxDraws) (hshort : (unbiasedOf pre).length < idLength) :
    generate (pre.map .bytes ++ .fail m :: rest) = (.error (.randomSourceFailed m), rest) := by
  obtain ⟨n, hrun⟩ := generate_of_short (.fail m :: rest) hlen hshort
  rw [hrun]
  rfl

/-- A source with no draw left before four kept bytes fails as exhausted. -/
theorem generate_of_exhausted {pre : List (List Nat)} (hlen : pre.length < maxDraws)
    (hshort : (unbiasedOf pre).length < idLength) :
    generate (pre.map .bytes) = (.error (.randomSourceFailed "random source exhausted"), []) := by
  obtain ⟨n, hrun⟩ := generate_of_short [] hlen hshort
  rw [List.append_nil] at hrun
  rw [hrun]
  rfl

/-- Eight successful draws with fewer than four kept bytes make minting give up. -/
theorem generate_of_biased {pre : List (List Nat)} {rest : List Draw}
    (hlen : pre.length = maxDraws) (hshort : (unbiasedOf pre).length < idLength) :
    generate (pre.map .bytes ++ rest) =
      (.error (.randomSourceFailed "no unbiased bytes after 8 draws"), rest) := by
  rw [generate, generateFrom_append_bytes [] maxDraws pre rest (by simpa using hshort) hlen.le,
    hlen, Nat.sub_self]
  rfl

/-! ## What every run satisfies -/

/-- A run with `n` draws allowed uses at most `n` of the script. -/
theorem generateFrom_rest (acc : List Char) (n : Nat) (draws : List Draw) :
    ∃ k ≤ n, (generateFrom acc n draws).2 = draws.drop k := by
  induction n generalizing acc draws with
  | zero => exact ⟨0, le_refl 0, rfl⟩
  | succ n ih =>
    match draws with
    | [] => exact ⟨0, by omega, rfl⟩
    | .fail m :: rest => exact ⟨1, by omega, rfl⟩
    | .bytes vs :: rest =>
      rw [generateFrom_bytes]
      split
      · exact ⟨1, by omega, rfl⟩
      · obtain ⟨k, hk, hrest⟩ := ih (extend acc (fourBytes vs)) rest
        exact ⟨k + 1, by omega, hrest⟩

/-- Minting uses at most eight draws. -/
theorem generate_rest (draws : List Draw) :
    ∃ k ≤ maxDraws, (generate draws).2 = draws.drop k :=
  generateFrom_rest [] maxDraws draws

@[simp] theorem length_idAlphabet : idAlphabet.length = 36 := rfl

theorem mod_lt_length_idAlphabet (b : Nat) : b % 36 < idAlphabet.length :=
  length_idAlphabet ▸ Nat.mod_lt _ (by decide)

/-- The character a byte picks is the one at the byte's remainder modulo 36. -/
theorem pick_eq_getElem (b : Nat) (h : b % 36 < idAlphabet.length) :
    pick b = idAlphabet[b % 36] := by
  rw [pick, List.getD_eq_getElem?_getD, List.getElem?_eq_getElem h]
  rfl

theorem pick_mem (b : Nat) : pick b ∈ idAlphabet := by
  rw [pick_eq_getElem b (mod_lt_length_idAlphabet b)]
  exact List.getElem_mem _

/-- The characters found so far all come from the alphabet, whatever the bytes. -/
theorem extend_mem {acc : List Char} (hacc : ∀ c ∈ acc, c ∈ idAlphabet) (bs : List Nat) :
    ∀ c ∈ extend acc bs, c ∈ idAlphabet := by
  fun_induction extend acc bs with
  | case1 => exact hacc
  | case2 => exact hacc
  | case3 acc b bs _ _ ih =>
    apply ih
    intro c hc
    rcases List.mem_append.1 hc with hc | hc
    · exact hacc c hc
    · rw [List.mem_singleton.1 hc]
      exact pick_mem b
  | case4 _ _ _ _ _ ih => exact ih hacc

/-- A minted id is four characters of the alphabet. -/
theorem generateFrom_ok {acc : List Char} (hacc : ∀ c ∈ acc, c ∈ idAlphabet) {n : Nat}
    {draws : List Draw} {id : EndpointId} (h : (generateFrom acc n draws).1 = .ok id) :
    ∃ cs : List Char, id = ⟨String.ofList cs⟩ ∧ cs.length = idLength ∧
      ∀ c ∈ cs, c ∈ idAlphabet := by
  induction n generalizing acc draws with
  | zero => cases h
  | succ n ih =>
    match draws with
    | [] => cases h
    | .fail m :: rest => cases h
    | .bytes vs :: rest =>
      rw [generateFrom_bytes] at h
      split at h
      · rename_i hlen
        cases h
        exact ⟨_, rfl, hlen, extend_mem hacc _⟩
      · exact ih (extend_mem hacc _) h

theorem utf8ByteSize_ofList_of_mem {cs : List Char} (h : ∀ c ∈ cs, c ∈ idAlphabet) :
    (String.ofList cs).utf8ByteSize = cs.length := by
  induction cs with
  | nil => rfl
  | cons c cs ih =>
    have hc : c.utf8Size = 1 := by
      have hall : ∀ d ∈ idAlphabet, d.utf8Size = 1 := by
        simpa using (show (idAlphabet.all fun d => d.utf8Size == 1) = true by decide)
      exact hall c (h c (by simp))
    simp only [String.ofList_cons, String.utf8ByteSize_append, String.utf8ByteSize_singleton, hc,
      List.length_cons, ih fun d hd => h d (by simp [hd])]
    omega

/-- Every minted id is read back as itself. -/
theorem parse_of_generate {draws : List Draw} {id : EndpointId}
    (h : (generate draws).1 = .ok id) : parse id.text = .ok id := by
  obtain ⟨cs, rfl, hlen, hmem⟩ := generateFrom_ok (by simp) h
  have hvalid : isValidText (String.ofList cs) = true := by
    simp only [isValidText, Bool.and_eq_true, beq_iff_eq, utf8ByteSize_ofList_of_mem hmem, hlen,
      String.toList_ofList, List.all_eq_true, List.contains_iff_mem]
    exact ⟨trivial, hmem⟩
  simp [parse, hvalid]

/-! ## Uniform characters -/

/-- A byte picks a character exactly when its remainder modulo 36 is the character's place in
the alphabet. -/
theorem pick_eq_iff (b : Nat) (i : Nat) (hi : i < idAlphabet.length) :
    pick b = idAlphabet[i] ↔ b ≡ i [MOD 36] := by
  have hnodup : idAlphabet.Nodup := by decide
  have hi36 : i < 36 := length_idAlphabet ▸ hi
  rw [pick_eq_getElem b (mod_lt_length_idAlphabet b), hnodup.getElem_inj_iff, Nat.ModEq,
    Nat.mod_eq_of_lt hi36]

/-- Each character of the alphabet is picked by exactly seven of the bytes that are kept, so
uniform bytes give uniform characters. -/
theorem count_pick_eq (c : Char) (hc : c ∈ idAlphabet) :
    Nat.count (fun b => pick b = c) unbiasedByteLimit = 7 := by
  obtain ⟨i, hi, rfl⟩ := List.getElem_of_mem hc
  have hi36 : i < 36 := length_idAlphabet ▸ hi
  have hcount := Nat.count_modEq_card unbiasedByteLimit (show 0 < 36 by decide) i
  -- 252 = 7 * 36, so every remainder class has seven members below the limit
  rw [show unbiasedByteLimit / 36 = 7 from rfl, show unbiasedByteLimit % 36 = 0 from rfl,
    if_neg (by omega), Nat.add_zero] at hcount
  convert hcount using 2
  funext b
  exact propext (pick_eq_iff b i hi)

end EndpointId

/-! ## Minting a device -/

/-- Minting reads the clock once whatever happens, and draws one endpoint id: it gives a device
seen at that reading, with the given motion hint or the default one, the caller's description
unchanged and that id; or the draw's error and no device. -/
theorem IdentitySource.mint_spec (src : IdentitySource) (metadata : DeviceMetadata)
    (motion : Option Motion) :
    (src.mint metadata motion).2 =
        { draws := (EndpointId.generate src.draws).2, clock := src.clock.read.2 } ∧
    (∀ d, (src.mint metadata motion).1 = .ok d ↔
      ∃ id, (EndpointId.generate src.draws).1 = .ok id ∧
        d = { discoveryNanos := src.clock.read.1, motion := motion.getD {}, metadata,
              endpointId := id }) ∧
    (∀ e, (src.mint metadata motion).1 = .error e ↔
      (EndpointId.generate src.draws).1 = .error e) := by
  unfold mint
  obtain ⟨result, draws⟩ := EndpointId.generate src.draws
  cases result with
  | ok id =>
    refine ⟨rfl, fun d => ?_, fun e => ?_⟩
    · constructor
      · intro h
        cases h
        exact ⟨id, rfl, rfl⟩
      · rintro ⟨id', h, rfl⟩
        cases h
        rfl
    · constructor <;> intro h <;> cases h
  | error e =>
    refine ⟨rfl, fun d => ?_, fun e' => ?_⟩
    · constructor
      · intro h
        cases h
      · rintro ⟨id', h, -⟩
        cases h
    · constructor <;> intro h <;> cases h <;> rfl

open EndpointId in
/-- The contract of minting over every script of draws: at most eight draws are used; a
failed draw before four kept bytes ends minting with its error; the draw that completes four
kept bytes gives their characters in draw order; eight draws with fewer give up; every id is
read back as itself; each character has seven of the 252 kept bytes; and minting a device
reads the clock once and wraps the id or passes the error on. -/
theorem endpoint_ids_minted_without_bias :
    (∀ draws, ∃ k ≤ maxDraws, (generate draws).2 = draws.drop k) ∧
    (∀ (pre : List (List Nat)) (m : String) (rest : List Draw),
      pre.length < maxDraws → (unbiasedOf pre).length < idLength →
      generate (pre.map .bytes ++ .fail m :: rest) = (.error (.randomSourceFailed m), rest)) ∧
    (∀ (pre : List (List Nat)) (last : List Nat) (rest : List Draw),
      pre.length < maxDraws → (unbiasedOf pre).length < idLength →
      idLength ≤ (unbiasedOf (pre ++ [last])).length →
      generate (pre.map .bytes ++ .bytes last :: rest) =
        (.ok ⟨String.ofList (((unbiasedOf (pre ++ [last])).take idLength).map pick)⟩, rest)) ∧
    (∀ (pre : List (List Nat)) (rest : List Draw),
      pre.length = maxDraws → (unbiasedOf pre).length < idLength →
      generate (pre.map .bytes ++ rest) =
        (.error (.randomSourceFailed "no unbiased bytes after 8 draws"), rest)) ∧
    (∀ draws id, (generate draws).1 = .ok id → parse id.text = .ok id) ∧
    (∀ c ∈ idAlphabet, Nat.count (fun b => pick b = c) unbiasedByteLimit = 7) ∧
    (∀ (src : IdentitySource) (metadata : DeviceMetadata) (motion : Option Motion),
      (src.mint metadata motion).2 =
          { draws := (generate src.draws).2, clock := src.clock.read.2 } ∧
      (∀ d, (src.mint metadata motion).1 = .ok d ↔
        ∃ id, (generate src.draws).1 = .ok id ∧
          d = { discoveryNanos := src.clock.read.1, motion := motion.getD {}, metadata,
                endpointId := id }) ∧
      (∀ e, (src.mint metadata motion).1 = .error e ↔ (generate src.draws).1 = .error e)) :=
  ⟨generate_rest, fun _ _ _ => generate_of_fail, fun _ _ _ => generate_of_completes,
    fun _ _ => generate_of_biased, fun _ _ => parse_of_generate, count_pick_eq,
    IdentitySource.mint_spec⟩

end Proximity
