import Mathlib
import Proximity.Proofs.Credential.History

/-!
# The file store answers as the memory store does

The file store keeps the list of account `a` and slot `k` as the text of the file
`credentials/a/<file of k>` below its root, and writes it by making the account's directory,
writing a temporary file beside the target and renaming it into place.

`Holds held t` says how a tree keeps the lists `held`, by account and slot, for the accounts
the store takes: each held list is the text of its file and no other such file exists, the
directories above a held list are there, nothing but a directory stands where the store makes
one, no temporary file is left behind, and each held list reads back from its text. That last
fact is the JSON encoding's own round trip (`ReadsBack`); it is taken for the lists a run
saves, as a hypothesis. A tree with nothing under `credentials` holds no list. A save keeps
`Holds` with the saved list in place (`writeList_holds`), and under `Holds` a read finds
exactly the held list (`load_files`).

The file store then answers every call of a run as its history says (`files_run`, from the
step `files_call` and the run induction `run_answers`), which is also how the memory store
answers (`memory_run`), so the two agree call by call. Account names are where they differ:
the file store refuses a name that is not one plain path component before it touches any
file, and the memory store takes every name.

**Results.**
* `makeDirAll_two`, `write_three`, `rename_three`, `read_three_of_file`,
  `read_three_of_none`: the file operations on the store's paths.
* `writeList_holds`, `load_files`: a save and a read under `Holds`.
* `files_run`: from a root with nothing under `credentials`, a run answers as its history says.
* `files_store_agrees_with_memory`: from a root with nothing under `credentials`, a run of
  calls on valid account names gets the replies a memory store gives; a call on an invalid
  name fails with `invalidAccountName` and leaves the tree, while the memory store never
  refuses a name.
-/

namespace Proximity

/-! ## File operations on three-level paths -/

namespace FileTree

variable (t : FileTree)

@[simp] theorem node_update (p : List String) (n : Option FileNode) (q : List String) :
    (t.update p n).node q = if q = p then n else t.node q := rfl

theorem read_three_of_file {c1 c2 c3 text : String} (h1 : t.node [c1] = some .dir)
    (h2 : t.node [c1, c2] = some .dir) (h3 : t.node [c1, c2, c3] = some (.file text)) :
    t.read [c1, c2, c3] = .ok text := by
  simp [read, reach, lookup, h1, h2, h3, bind, Except.bind, pure, Except.pure]

/-- A missing file two directories down is not found when nothing above it is a file. -/
theorem read_three_of_none {c1 c2 c3 : String} (h1 : t.node [c1] = none ∨ t.node [c1] = some .dir)
    (h2 : t.node [c1, c2] = none ∨ t.node [c1, c2] = some .dir) (h3 : t.node [c1, c2, c3] = none) :
    t.read [c1, c2, c3] = .error .notFound := by
  rcases h1 with h1 | h1 <;> rcases h2 with h2 | h2 <;>
    simp [read, reach, lookup, h1, h2, h3, bind, Except.bind, throw, throwThe, MonadExceptOf.throw]

/-- Making a directory one level down, and the one above it: both are directories after, and
nothing else changes. -/
theorem makeDirAll_two {c1 c2 : String} (h1 : t.node [c1] = none ∨ t.node [c1] = some .dir)
    (h2 : t.node [c1, c2] = none ∨ t.node [c1, c2] = some .dir) :
    ∃ t', t.makeDirAll [c1, c2] = .ok t' ∧
      ∀ q, t'.node q = if q = [c1] ∨ q = [c1, c2] then some .dir else t.node q := by
  have hne : ([c1, c2] : List String) ≠ [c1] := by simp
  rcases h1 with h1 | h1
  · -- the top directory is made first, then the account's
    rcases h2 with h2 | h2
    · refine ⟨(t.update [c1] (some .dir)).update [c1, c2] (some .dir), ?_, fun q => ?_⟩
      · simp [makeDirAll, makeDirAllRev, makeDir, reach, lookup, h1, h2, hne, bind, Except.bind,
          pure, Except.pure]
      · by_cases hq : q = [c1, c2]
        · simp [hq]
        · by_cases hq' : q = [c1] <;> simp [hq, hq']
    · refine ⟨t.update [c1] (some .dir), ?_, fun q => ?_⟩
      · simp [makeDirAll, makeDirAllRev, makeDir, reach, lookup, h1, isDir, hne, h2,
          bind, Except.bind, throw, throwThe, MonadExceptOf.throw, pure, Except.pure]
      · by_cases hq : q = [c1, c2]
        · simp [hq, hne, h2]
        · by_cases hq' : q = [c1] <;> simp [hq, hq']
  · rcases h2 with h2 | h2
    · refine ⟨t.update [c1, c2] (some .dir), ?_, fun q => ?_⟩
      · simp [makeDirAll, makeDirAllRev, makeDir, reach, lookup, h1, h2, bind, Except.bind,
          pure, Except.pure]
      · by_cases hq : q = [c1, c2]
        · simp [hq]
        · by_cases hq' : q = [c1] <;> simp [hq, hq', h1]
    · refine ⟨t, ?_, fun q => ?_⟩
      · simp [makeDirAll, makeDirAllRev, makeDir, reach, lookup, isDir, h1, h2, bind, Except.bind,
          throw, throwThe, MonadExceptOf.throw]
      · by_cases hq : q = [c1, c2]
        · simp [hq, h2]
        · by_cases hq' : q = [c1] <;> simp [hq, hq', h1]

theorem write_three {c1 c2 c3 : String} (text : String) (h1 : t.node [c1] = some .dir)
    (h2 : t.node [c1, c2] = some .dir) (h3 : t.node [c1, c2, c3] ≠ some .dir) :
    t.write [c1, c2, c3] text = .ok (t.update [c1, c2, c3] (some (.file text))) := by
  cases h : t.node [c1, c2, c3] with
  | none => simp [write, reach, lookup, h1, h2, h, bind, Except.bind, pure, Except.pure]
  | some n =>
    cases n with
    | dir => exact absurd h h3
    | file => simp [write, reach, lookup, h1, h2, h, bind, Except.bind, pure, Except.pure]

/-- A rename within one directory moves the file's text and leaves nothing at the source. -/
theorem rename_three {c1 c2 s d text : String} (h1 : t.node [c1] = some .dir)
    (h2 : t.node [c1, c2] = some .dir) (hs : t.node [c1, c2, s] = some (.file text))
    (hd : t.node [c1, c2, d] ≠ some .dir) :
    t.rename [c1, c2, s] [c1, c2, d] =
      .ok ((t.update [c1, c2, s] none).update [c1, c2, d] (some (.file text))) := by
  cases h : t.node [c1, c2, d] with
  | none => simp [rename, reach, lookup, h1, h2, hs, h, bind, Except.bind, pure, Except.pure]
  | some n =>
    cases n with
    | dir => exact absurd h hd
    | file => simp [rename, reach, lookup, h1, h2, hs, h, bind, Except.bind, pure, Except.pure]

end FileTree

/-! ## The store's paths -/

namespace Slot

theorem fileName_injective {k k' : Slot} (h : k.fileName = k'.fileName) : k = k' := by
  cases k <;> cases k' <;> simp_all [fileName]

theorem tempName_ne_fileName (k k' : Slot) : k.fileName ++ ".tmp" ≠ k'.fileName := by
  cases k <;> cases k' <;> simp [fileName]

end Slot

namespace CredentialStore

theorem slotPath_eq_iff {a a' : String} {k k' : Slot} :
    slotPath a' k' = slotPath a k ↔ a' = a ∧ k' = k := by
  constructor
  · intro h
    simp only [slotPath, List.cons.injEq, true_and, and_true] at h
    exact ⟨h.1, Slot.fileName_injective h.2⟩
  · rintro ⟨rfl, rfl⟩
    rfl

theorem tempPath_eq_iff {a a' : String} {k k' : Slot} :
    tempPath a' k' = tempPath a k ↔ a' = a ∧ k' = k := by
  constructor
  · intro h
    simp only [tempPath, List.cons.injEq, true_and, and_true] at h
    exact ⟨h.1, Slot.fileName_injective ((String.append_left_inj _).1 h.2)⟩
  · rintro ⟨rfl, rfl⟩
    rfl

theorem tempPath_ne_slotPath (a : String) (k : Slot) (a' : String) (k' : Slot) :
    tempPath a k ≠ slotPath a' k' := by
  simp [tempPath, slotPath, Slot.tempName_ne_fileName]

end CredentialStore

open CredentialStore

/-! ## How a tree holds the lists -/

/-- A list reads back from the text it is written as. -/
def ReadsBack (k : Slot) (cs : List Credential) : Prop :=
  Credential.listOfText k.half (listFileText cs) = .ok cs

/-- How a tree keeps the lists `held` for the account names the file store takes. -/
structure Holds (held : String → Slot → Option (List Credential)) (t : FileTree) : Prop where
  top : t.node ["credentials"] = none ∨ t.node ["credentials"] = some .dir
  dir : ∀ a, isValidAccountName a = true →
    t.node ["credentials", a] = none ∨ t.node ["credentials", a] = some .dir
  file : ∀ a k, isValidAccountName a = true →
    t.node (slotPath a k) = (held a k).map fun cs => .file (listFileText cs)
  temp : ∀ a k, isValidAccountName a = true → t.node (tempPath a k) = none
  above : ∀ a k, isValidAccountName a = true → (held a k).isSome →
    t.node ["credentials"] = some .dir ∧ t.node ["credentials", a] = some .dir
  back : ∀ a k cs, held a k = some cs → ReadsBack k cs

theorem holds_fresh {t : FileTree} (h : ∀ p, t.node ("credentials" :: p) = none) :
    Holds (fun _ _ => none) t where
  top := .inl (h [])
  dir a _ := .inl (h [a])
  file a k _ := h _
  temp a k _ := h _
  above a k _ hk := by simp at hk
  back a k cs h := by simp at h

section Holds

variable {held : String → Slot → Option (List Credential)} {t : FileTree} (hH : Holds held t)
include hH

theorem load_files (root : String) {a : String} (ha : isValidAccountName a = true) (k : Slot) :
    (CredentialStore.files root t).load a k =
      match held a k with
      | some cs => .ok cs
      | none => .error (.notFound a) := by
  have hfile := hH.file a k ha
  cases hk : held a k with
  | none =>
    rw [hk] at hfile
    have hread := t.read_three_of_none (hH.top) (hH.dir a ha) hfile
    simp only [load, ha, Bool.not_true, Bool.false_eq_true, if_false, slotPath] at hread ⊢
    rw [hread]
  | some cs =>
    rw [hk] at hfile
    obtain ⟨htop, hdir⟩ := hH.above a k ha (by simp [hk])
    have hread := t.read_three_of_file htop hdir hfile
    have hb : Credential.listOfText k.half (listFileText cs) = .ok cs := hH.back a k cs hk
    simp only [load, ha, Bool.not_true, Bool.false_eq_true, if_false, slotPath] at hread ⊢
    simp only [hread, hb]

/-- Writing a list of a valid account makes its directories, puts the list's text at the
target, leaves no temporary file and changes nothing else. -/
theorem writeList_node (root : String) {a : String} (ha : isValidAccountName a = true) (k : Slot)
    (cs : List Credential) :
    ∃ t', writeList root t a k cs = (.ok (), t') ∧ ∀ q, t'.node q =
      if q = slotPath a k then some (.file (listFileText cs))
      else if q = tempPath a k then none
      else if q = ["credentials"] ∨ q = ["credentials", a] then some .dir
      else t.node q := by
  obtain ⟨t1, hmk, ht1⟩ := t.makeDirAll_two hH.top (hH.dir a ha)
  have h1 : t1.node ["credentials"] = some .dir := by simp [ht1]
  have h2 : t1.node ["credentials", a] = some .dir := by simp [ht1]
  -- neither the temporary file nor the target is one of the directories just made
  have htmp : t1.node ["credentials", a, k.fileName ++ ".tmp"] = none := by
    rw [ht1, if_neg (by simp)]
    exact hH.temp a k ha
  have htarget : t1.node ["credentials", a, k.fileName] ≠ some .dir := by
    rw [ht1, if_neg (by simp)]
    have hfile := hH.file a k ha
    simp only [slotPath] at hfile
    rw [hfile]
    cases held a k <;> simp
  have hname : k.fileName ≠ k.fileName ++ ".tmp" := Ne.symm (Slot.tempName_ne_fileName k k)
  have hwrite := t1.write_three (listFileText cs) h1 h2 (by rw [htmp]; simp)
  have hrename := @FileTree.rename_three
    (t1.update ["credentials", a, k.fileName ++ ".tmp"] (some (.file (listFileText cs))))
    "credentials" a (k.fileName ++ ".tmp") k.fileName (listFileText cs)
    (by simp [h1]) (by simp [h2]) (by simp) (by simp [hname, htarget])
  refine ⟨((t1.update ["credentials", a, k.fileName ++ ".tmp"] (some (.file (listFileText cs)))).update
      ["credentials", a, k.fileName ++ ".tmp"] none).update ["credentials", a, k.fileName]
      (some (.file (listFileText cs))), ?_, fun q => ?_⟩
  · simp only [writeList, tempPath, slotPath, hmk, hwrite, hrename]
  · simp only [FileTree.node_update, ht1, slotPath, tempPath]
    by_cases hq1 : q = ["credentials", a, k.fileName] <;>
      by_cases hq2 : q = ["credentials", a, k.fileName ++ ".tmp"] <;> simp [hq1, hq2]

/-- Writing a list of a valid account keeps `Holds`, with the list held in its place. -/
theorem writeList_holds (root : String) {a : String} (ha : isValidAccountName a = true) (k : Slot)
    {cs : List Credential} (hcs : ReadsBack k cs) :
    ∃ t', writeList root t a k cs = (.ok (), t') ∧
      Holds (fun a' k' => (Call.save a k cs).record a' k' (held a' k')) t' := by
  obtain ⟨t', hw, hnode⟩ := writeList_node hH root ha k cs
  -- the directories are neither the target nor the temporary file
  have htop : t'.node ["credentials"] = some .dir := by
    rw [hnode]; simp [slotPath, tempPath]
  have hdir : ∀ a', t'.node ["credentials", a'] =
      if a' = a then some .dir else t.node ["credentials", a'] := by
    intro a'
    rw [hnode]
    by_cases h : a' = a <;> simp [slotPath, tempPath, h]
  refine ⟨t', hw, .inr htop, fun a' ha' => ?_, fun a' k' ha' => ?_, fun a' k' ha' => ?_,
    fun a' k' ha' hsome => ?_, fun a' k' cs' h => ?_⟩
  · rw [hdir]
    split
    · exact .inr rfl
    · exact hH.dir a' ha'
  · rw [hnode]
    simp only [record_save]
    by_cases h : a' = a ∧ k' = k
    · obtain ⟨rfl, rfl⟩ := h
      simp
    · rw [if_neg (fun he => h (slotPath_eq_iff.1 he)),
        if_neg (Ne.symm (tempPath_ne_slotPath a k a' k')), if_neg (by simp [slotPath]),
        hH.file a' k' ha', if_neg h]
  · rw [hnode, if_neg (tempPath_ne_slotPath a' k' a k)]
    by_cases h : a' = a ∧ k' = k
    · rw [if_pos (tempPath_eq_iff.2 h)]
    · rw [if_neg (fun he => h (tempPath_eq_iff.1 he)), if_neg (by simp [tempPath])]
      exact hH.temp a' k' ha'
  · by_cases h : a' = a
    · subst h
      exact ⟨htop, by simp [hdir]⟩
    · have hheld : (held a' k').isSome := by
        simpa only [record_save, h, false_and, if_false] using hsome
      exact ⟨htop, by rw [hdir, if_neg h]; exact (hH.above a' k' ha' hheld).2⟩
  · simp only [record_save] at h
    split at h
    · rename_i hak
      obtain ⟨rfl, rfl⟩ := hak
      cases h
      exact hcs
    · exact hH.back a' k' cs' h

end Holds

/-! ## Runs on the file store -/

/-- A call the file store serves as the memory store does: its account name is one the file
store takes, and a list it saves reads back from its text. -/
structure Call.Servable (c : Call) : Prop where
  valid : isValidAccountName c.account = true
  readsBack : ∀ a k cs, c = .save a k cs → ReadsBack k cs

/-- One call on a file store whose tree holds what the history saved. -/
theorem files_call (root : String) {past : List Call} {t : FileTree} (hH : Holds (lastSaved past) t)
    {c : Call} (hc : c.Servable) :
    ((CredentialStore.files root t).call c).1 = expectedReply past c ∧
      ∃ t', ((CredentialStore.files root t).call c).2 = .files root t' ∧
        Holds (lastSaved (past ++ [c])) t' := by
  cases c with
  | save a k cs =>
    have ha : isValidAccountName a = true := hc.valid
    obtain ⟨t', hw, hH'⟩ := writeList_holds hH root ha k (hc.readsBack a k cs rfl)
    have hsave : (CredentialStore.files root t).save a k cs = (.ok (), .files root t') := by
      simp [CredentialStore.save, ha, hw]
    rw [CredentialStore.call_save_of_ok hsave]
    refine ⟨rfl, t', rfl, ?_⟩
    -- the history with the save appended is the record of the save over the history before
    have hlast : lastSaved (past ++ [.save a k cs]) =
        fun a' k' => (Call.save a k cs).record a' k' (lastSaved past a' k') := by
      funext a' k'
      exact lastSaved_append_single past _
    rw [hlast]
    exact hH'
  | get a k ty =>
    have ha : isValidAccountName a = true := hc.valid
    refine ⟨call_get_of_load (load_files hH root ha k) ty, t, rfl, ?_⟩
    rw [lastSaved_append_get]
    exact hH

/-- From a tree with nothing under `credentials`, a run of servable calls answers as its
history says. -/
theorem files_run (root : String) {tree : FileTree} (hfresh : ∀ p, tree.node ("credentials" :: p) = none)
    (calls : List Call) (hc : ∀ c ∈ calls, c.Servable) :
    ((CredentialStore.files root tree).run calls).1 = expectedReplies [] calls := by
  -- the invariant: the store is a file store whose tree holds what the calls so far saved
  have hrun := run_answers Call.Servable
    (fun past s => ∃ t, s = .files root t ∧ Holds (lastSaved past) t)
    (fun past s c hc ⟨t, hs, hH⟩ => by
      subst hs
      exact files_call root hH hc)
    calls hc [] (.files root tree) ⟨tree, rfl, holds_fresh hfresh⟩
  exact hrun.1

/-- The file store refuses an invalid account name before it touches the tree. -/
theorem files_call_of_invalid (root : String) (t : FileTree) (c : Call)
    (h : isValidAccountName c.account = false) :
    (CredentialStore.files root t).call c =
      (.error (.invalidAccountName c.account), .files root t) := by
  cases c with
  | save a k cs =>
    simp only [Call.account] at h
    simp [CredentialStore.call, CredentialStore.save, h, Call.account, Except.map]
  | get a k ty =>
    simp only [Call.account] at h
    simp [CredentialStore.call, CredentialStore.get, CredentialStore.load, h, Call.account,
      Except.map, Functor.map]

/-- The memory store takes every account name. -/
theorem memory_call_ne_invalid (accounts : String → Option AccountLists) (c : Call) (n : String) :
    ((CredentialStore.memory accounts).call c).1 ≠ .error (.invalidAccountName n) := by
  cases c with
  | save a k cs =>
    obtain ⟨accounts', hsave, -⟩ := heldLists_save accounts a k cs
    rw [CredentialStore.call_save_of_ok hsave]
    simp
  | get a k ty =>
    rw [CredentialStore.call_get, CredentialStore.get, load_memory]
    cases heldLists accounts a k <;> simp [Except.map, Functor.map]

/-- **The file store answers as the memory store.** From a root with nothing under
`credentials`, a sequence of saves and gets whose account names the file store takes, and
whose saved lists read back from their text, gets from the file store exactly the replies a
fresh memory store gives: the same found lists and the same `notFound` errors. On an account
name it does not take, the file store answers `invalidAccountName` to every call and leaves
its tree as it was, while the memory store never refuses a name. -/
theorem files_store_agrees_with_memory (root : String) (tree : FileTree)
    (hfresh : ∀ p, tree.node ("credentials" :: p) = none) (calls : List Call)
    (hvalid : ∀ c ∈ calls, isValidAccountName c.account = true)
    (hround : ∀ a k cs, Call.save a k cs ∈ calls → ReadsBack k cs) :
    ((CredentialStore.files root tree).run calls).1 = (CredentialStore.emptyMemory.run calls).1 ∧
    (∀ t c, isValidAccountName c.account = false →
      (CredentialStore.files root t).call c =
        (.error (.invalidAccountName c.account), .files root t)) ∧
    (∀ accounts c n,
      ((CredentialStore.memory accounts).call c).1 ≠ .error (.invalidAccountName n)) := by
  have hc : ∀ c ∈ calls, c.Servable := fun c hm =>
    ⟨hvalid c hm, fun a k cs he => hround a k cs (he ▸ hm)⟩
  refine ⟨?_, files_call_of_invalid root, memory_call_ne_invalid⟩
  rw [files_run root hfresh calls hc, memory_run]

/-- A decoding checked by evaluation through its `Option`, since `Except` has no decidable
equality. -/
theorem eq_ok_of_toOption {ε α : Type} {e : Except ε α} {x : α} (h : e.toOption = some x) :
    e = .ok x := by
  cases e <;> simp_all [Except.toOption]

/-- A private credential with a two-byte secret, the largest version and a fractional end. -/
def alicePrivateKey : Credential :=
  { identityType := .private_, secretId := [1, 255], version := 4294967295,
    startTime := ⟨1767225600, 0⟩, endTime := ⟨1767312000, 500000000⟩, material := [2, 3] }

theorem files_store_agrees_with_memory_on_empty_tree :
    ((CredentialStore.emptyFiles "data").run
        [.save "alice" .private_ [alicePrivateKey], .get "alice" .private_ .private_,
          .get "bob" .localPublic .trusted]).1 =
      (CredentialStore.emptyMemory.run
        [.save "alice" .private_ [alicePrivateKey], .get "alice" .private_ .private_,
          .get "bob" .localPublic .trusted]).1 := by
  have halice : isValidAccountName "alice" = true := by cbv
  have hbob : isValidAccountName "bob" = true := by cbv
  have hkey : ReadsBack .private_ [alicePrivateKey] := eq_ok_of_toOption (by decide +kernel)
  refine (files_store_agrees_with_memory "data" .empty (fun _ => rfl) _ ?_ ?_).1
  · intro c hm
    simp only [List.mem_cons, List.not_mem_nil, or_false] at hm
    rcases hm with rfl | rfl | rfl
    · exact halice
    · exact halice
    · exact hbob
  · intro a k cs hm
    simp only [List.mem_cons, List.not_mem_nil, or_false, reduceCtorEq, Call.save.injEq] at hm
    obtain ⟨rfl, rfl, rfl⟩ := hm
    exact hkey

end Proximity
