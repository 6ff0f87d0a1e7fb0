import Proximity.Proofs.Credential.Files

/-!
# What writing a list does to the store's reads

The file store reads a list from `credentials/<account>/<file>` and writes one by making the
account's directories, writing `<file>.tmp` beside the target and renaming it over the target.
Each of the three steps may fail, and the steps done before a failing one stay done.

A tree of a real file system hangs every entry from a directory (`FileTree.WellFormed`); the
empty tree does, and every update the store makes keeps it so. In such a tree the read of a
path two directories down is decided by what stands at the path and by whether a file stands
in the way above it (`read_three_of_wellFormed`). The write makes directories only where no
file stood, and its temporary file is no path the store reads, so:

* a write that fails leaves the read of every list as it was, although directories and a
  temporary file may stay behind (`writeList_reads_of_error`);
* a write that succeeds puts the list's text at its target, leaves no temporary file, and
  leaves the read of every other list as it was (`writeList_reads_of_ok`); a second write of
  the same list then changes nothing (`writeList_writeList`).

**Results.**
* `FileTree.WellFormed.update_dir`, `.update_file`, `.update_none`: the updates the store
  makes keep a tree well-formed.
* `FileTree.read_three_of_wellFormed`, `FileTree.read_three_congr`: reads two directories
  down.
* `writeList_cases`: everything a write can do, step by step.
* `writeList_reads_of_error`, `writeList_reads_of_ok`, `writeList_writeList`.
* `CredentialStore.save_of_error`, `CredentialStore.save_of_ok`: the same for a save to either
  store, the memory store taking every save.
-/

namespace Proximity

namespace FileTree

variable {t t' : FileTree}

@[ext] theorem ext (h : ∀ p, t.node p = t'.node p) : t = t' := by
  cases t
  cases t'
  congr
  funext p
  exact h p

theorem lookup_update (p : List String) (n : Option FileNode) (q : List String) :
    (t.update p n).lookup q = if q = [] then some .dir else if q = p then n else t.lookup q := by
  by_cases h0 : q = [] <;> by_cases hq : q = p <;> simp [lookup, h0, hq]

/-- Every entry below the root hangs from a directory, as in a real file system. -/
def WellFormed (t : FileTree) : Prop :=
  ∀ p c, (t.node (p ++ [c])).isSome → t.lookup p = some .dir

theorem wellFormed_empty : empty.WellFormed := fun _ _ h => by simp [empty] at h

/-- Whether what stands at a path is a file. -/
def holdsFile : Option FileNode → Bool
  | some (.file _) => true
  | _ => false

@[simp] theorem holdsFile_none : holdsFile none = false := rfl

@[simp] theorem holdsFile_dir : holdsFile (some .dir) = false := rfl

@[simp] theorem holdsFile_file (text : String) : holdsFile (some (.file text)) = true := rfl

/-- Whether a file stands at a path. -/
def isFileAt (t : FileTree) (p : List String) : Bool := holdsFile (t.node p)

@[simp] theorem isFileAt_update (p : List String) (n : Option FileNode) (q : List String) :
    (t.update p n).isFileAt q = if q = p then holdsFile n else t.isFileAt q := by
  by_cases hq : q = p <;> simp [isFileAt, hq]

namespace WellFormed

variable (h : t.WellFormed)
include h

theorem dir_of_node_two {c1 c2 : String} (hn : t.node [c1, c2] ≠ none) :
    t.node [c1] = some .dir := by
  simpa [lookup] using h [c1] c2 (Option.isSome_iff_ne_none.2 hn)

theorem dir_of_node_three {c1 c2 c3 : String} (hn : t.node [c1, c2, c3] ≠ none) :
    t.node [c1, c2] = some .dir := by
  simpa [lookup] using h [c1, c2] c3 (Option.isSome_iff_ne_none.2 hn)

/-- A directory made under a directory. -/
theorem update_dir {p : List String} (hp : t.lookup p = some .dir) (c : String) :
    (t.update (p ++ [c]) (some .dir)).WellFormed := by
  intro q d hq
  rw [lookup_update]
  by_cases he : q ++ [d] = p ++ [c]
  · -- the new directory itself hangs from `p`
    obtain ⟨rfl, -⟩ := List.append_inj' he rfl
    have hne : q ≠ q ++ [c] := by simp
    simp [hne, hp]
  · have hq' := h q d (by simpa [he] using hq)
    split <;> simp_all

/-- A file written under a directory where no directory stood. -/
theorem update_file {p : List String} (hp : t.lookup p = some .dir) {c : String}
    (hc : t.node (p ++ [c]) ≠ some .dir) (text : String) :
    (t.update (p ++ [c]) (some (.file text))).WellFormed := by
  intro q d hq
  rw [lookup_update]
  by_cases he : q ++ [d] = p ++ [c]
  · obtain ⟨rfl, -⟩ := List.append_inj' he rfl
    have hne : q ≠ q ++ [c] := by simp
    simp [hne, hp]
  · have hq' := h q d (by simpa [he] using hq)
    -- what stood where the file is written had nothing under it
    have hnot : q ≠ p ++ [c] := by
      rintro rfl
      exact hc (by simpa [lookup] using hq')
    simp [hnot, hq']

/-- A file removed. -/
theorem update_none {p : List String} (hp : t.node p ≠ some .dir) :
    (t.update p none).WellFormed := by
  intro q d hq
  rw [lookup_update]
  have hq' := h q d (by by_cases he : q ++ [d] = p <;> simp_all)
  by_cases h0 : q = []
  · simp [h0]
  · have hnot : q ≠ p := by
      rintro rfl
      exact hp (by simpa [lookup, h0] using hq')
    simp [h0, hnot, hq']

/-- A read two directories down in a well-formed tree: the file's text, or why there is
none: a directory, a file in the way above it, or nothing. -/
theorem read_three_of_wellFormed (c1 c2 c3 : String) :
    t.read [c1, c2, c3] = match t.node [c1, c2, c3] with
      | some (.file text) => .ok text
      | some .dir => .error .isDirectory
      | none => .error (if t.isFileAt [c1] || t.isFileAt [c1, c2] then .notDirectory
          else .notFound) := by
  have h2 : t.node [c1, c2, c3] ≠ none → t.node [c1, c2] = some .dir := h.dir_of_node_three
  have h1 : t.node [c1, c2] ≠ none → t.node [c1] = some .dir := h.dir_of_node_two
  cases hn3 : t.node [c1, c2, c3] with
  | some n =>
    have hd2 := h2 (by simp [hn3])
    have hd1 := h1 (by simp [hd2])
    cases n <;> simp [read, reach, lookup, hd1, hd2, hn3, bind, Except.bind, pure, Except.pure,
      throw, throwThe, MonadExceptOf.throw]
  | none =>
    cases hn2 : t.node [c1, c2] with
    | some n =>
      have hd1 := h1 (by simp [hn2])
      cases n <;> simp [read, reach, lookup, isFileAt, hd1, hn2, hn3, bind, Except.bind,
        throw, throwThe, MonadExceptOf.throw]
    | none =>
      cases hn1 : t.node [c1] with
      | some n =>
        cases n <;> simp [read, reach, lookup, isFileAt, hn1, hn2, bind, Except.bind]
      | none => simp [read, reach, lookup, isFileAt, hn1, hn2, bind, Except.bind]

end WellFormed

/-- Two well-formed trees read alike two directories down when the same thing stands at the
path and a file stands in the way above it in both or in neither. -/
theorem read_three_congr (h : t.WellFormed) (h' : t'.WellFormed) {c1 c2 c3 : String}
    (h1 : t'.isFileAt [c1] = t.isFileAt [c1]) (h2 : t'.isFileAt [c1, c2] = t.isFileAt [c1, c2])
    (h3 : t'.node [c1, c2, c3] = t.node [c1, c2, c3]) :
    t'.read [c1, c2, c3] = t.read [c1, c2, c3] := by
  rw [h'.read_three_of_wellFormed, h.read_three_of_wellFormed, h1, h2, h3]

/-- A read two directories down looks at nothing but what stands at the path and at the two
directories above it. -/
theorem read_three_congr_nodes {c1 c2 c3 : String} (h1 : t'.node [c1] = t.node [c1])
    (h2 : t'.node [c1, c2] = t.node [c1, c2]) (h3 : t'.node [c1, c2, c3] = t.node [c1, c2, c3]) :
    t'.read [c1, c2, c3] = t.read [c1, c2, c3] := by
  simp [read, reach, lookup, h1, h2, h3]

/-- In a well-formed tree, making a directory and its parent succeeds exactly when no file
stands at either, and then both are directories and nothing else changes. -/
theorem makeDirAll_two_of_wellFormed (h : t.WellFormed) (c1 c2 : String) :
    (t.isFileAt [c1] = false ∧ t.isFileAt [c1, c2] = false ∧
      t.makeDirAll [c1, c2] = .ok ((t.update [c1] (some .dir)).update [c1, c2] (some .dir))) ∨
    ((t.isFileAt [c1] || t.isFileAt [c1, c2]) = true ∧ ∃ e, t.makeDirAll [c1, c2] = .error e) := by
  -- what stands at the two paths, where a well-formed tree allows it
  cases hn1 : t.node [c1] with
  | none =>
    have hn2 : t.node [c1, c2] = none := by
      by_contra hne
      simp [h.dir_of_node_two hne] at hn1
    obtain ⟨t1, hmk, hnode⟩ := t.makeDirAll_two (.inl hn1) (.inl hn2)
    refine .inl ⟨by simp [isFileAt, hn1], by simp [isFileAt, hn2], hmk.trans ?_⟩
    congr 1
    ext q
    by_cases hq : q = [c1, c2] <;> by_cases hq' : q = [c1] <;> simp_all
  | some n =>
    cases n with
    | file text =>
      have hn2 : t.node [c1, c2] = none := by
        by_contra hne
        simp [h.dir_of_node_two hne] at hn1
      refine .inr ⟨by simp [isFileAt, hn1], .notDirectory, ?_⟩
      simp [makeDirAll, makeDirAllRev, makeDir, reach, lookup, isDir, hn1, hn2, bind, Except.bind]
    | dir =>
      cases hn2 : t.node [c1, c2] with
      | some n2 =>
        cases n2 with
        | file text =>
          refine .inr ⟨by simp [isFileAt, hn2], .exists_, ?_⟩
          simp [makeDirAll, makeDirAllRev, makeDir, reach, lookup, isDir, hn1, hn2, bind,
            Except.bind, throw, throwThe, MonadExceptOf.throw]
        | dir =>
          obtain ⟨t1, hmk, hnode⟩ := t.makeDirAll_two (.inr hn1) (.inr hn2)
          refine .inl ⟨by simp [isFileAt, hn1], by simp [isFileAt, hn2], hmk.trans ?_⟩
          congr 1
          ext q
          by_cases hq : q = [c1, c2] <;> by_cases hq' : q = [c1] <;> simp_all
      | none =>
        obtain ⟨t1, hmk, hnode⟩ := t.makeDirAll_two (.inr hn1) (.inl hn2)
        refine .inl ⟨by simp [isFileAt, hn1], by simp [isFileAt, hn2], hmk.trans ?_⟩
        congr 1
        ext q
        by_cases hq : q = [c1, c2] <;> by_cases hq' : q = [c1] <;> simp_all

/-- The tree with the directories of an account's lists made. -/
def withAccountDirs (t : FileTree) (a : String) : FileTree :=
  (t.update ["credentials"] (some .dir)).update ["credentials", a] (some .dir)

theorem WellFormed.withAccountDirs (h : t.WellFormed) (a : String) :
    (t.withAccountDirs a).WellFormed := by
  have h1 := h.update_dir (p := []) (by simp [lookup]) "credentials"
  exact h1.update_dir (p := ["credentials"]) (by simp [lookup]) a

end FileTree

open FileTree

namespace CredentialStore

variable {t t' : FileTree} {root a : String} {k : Slot} {cs : List Credential}

/-- **Everything a write of a list can do.** When a file stands where a directory is to be
made, it fails and changes nothing. Otherwise the directories are made, and then: the write
of the temporary file fails on a directory standing there; or its rename fails on a
directory standing at the target; or both succeed, the list's text is at the target and no
temporary file is left. -/
theorem writeList_cases (hwf : t.WellFormed) (root a : String) (k : Slot) (cs : List Credential) :
    ((t.isFileAt ["credentials"] || t.isFileAt ["credentials", a]) = true ∧
      ∃ e, writeList root t a k cs = (.error e, t)) ∨
    (t.isFileAt ["credentials"] = false ∧ t.isFileAt ["credentials", a] = false ∧
      ((t.node (tempPath a k) = some .dir ∧
          ∃ e, writeList root t a k cs = (.error e, t.withAccountDirs a)) ∨
        (t.node (tempPath a k) ≠ some .dir ∧ t.node (slotPath a k) = some .dir ∧
          ∃ e, writeList root t a k cs =
            (.error e, (t.withAccountDirs a).update (tempPath a k) (some (.file (listFileText cs))))) ∨
        (t.node (tempPath a k) ≠ some .dir ∧ t.node (slotPath a k) ≠ some .dir ∧
          writeList root t a k cs = (.ok (),
            (((t.withAccountDirs a).update (tempPath a k) (some (.file (listFileText cs)))).update
              (tempPath a k) none).update (slotPath a k) (some (.file (listFileText cs))))))) := by
  rcases makeDirAll_two_of_wellFormed hwf "credentials" a with ⟨hf1, hf2, hmk⟩ | ⟨hf, e, hmk⟩
  · refine .inr ⟨hf1, hf2, ?_⟩
    -- the account's directories stand now, and nothing else has changed
    have h1 : (t.withAccountDirs a).node ["credentials"] = some .dir := by simp [withAccountDirs]
    have h2 : (t.withAccountDirs a).node ["credentials", a] = some .dir := by simp [withAccountDirs]
    have htmp : (t.withAccountDirs a).node (tempPath a k) = t.node (tempPath a k) := by
      simp [withAccountDirs, tempPath]
    have htarget : (t.withAccountDirs a).node (slotPath a k) = t.node (slotPath a k) := by
      simp [withAccountDirs, slotPath]
    by_cases hd : t.node (tempPath a k) = some .dir
    · -- the temporary file cannot be written over a directory
      refine .inl ⟨hd, .writeError (showPath root (tempPath a k)) FileError.isDirectory.message, ?_⟩
      have hd' : t.node ["credentials", a, k.fileName ++ ".tmp"] = some .dir := hd
      simp [writeList, withAccountDirs, hmk, FileTree.write, reach, lookup, hd', tempPath,
        bind, Except.bind, throw, throwThe, MonadExceptOf.throw]
    · -- the temporary file is written beside the target
      have hname : k.fileName ≠ k.fileName ++ ".tmp" := Ne.symm (Slot.tempName_ne_fileName k k)
      have htmp' :
          (t.withAccountDirs a).node ["credentials", a, k.fileName ++ ".tmp"] ≠ some .dir := by
        rw [show ["credentials", a, k.fileName ++ ".tmp"] = tempPath a k from rfl, htmp]
        exact hd
      have hw := (t.withAccountDirs a).write_three (listFileText cs) h1 h2 htmp'
      simp only [withAccountDirs] at hw
      by_cases ht : t.node (slotPath a k) = some .dir
      · -- and cannot be renamed over a directory
        refine .inr (.inl ⟨hd, ht, .writeError (showPath root (slotPath a k))
          FileError.isDirectory.message, ?_⟩)
        have ht' : t.node ["credentials", a, k.fileName] = some .dir := ht
        simp [writeList, withAccountDirs, hmk, hw, FileTree.rename, reach, lookup, ht', hname,
          tempPath, slotPath, bind, Except.bind, pure, Except.pure, throw, throwThe,
          MonadExceptOf.throw]
      · have hr := @FileTree.rename_three
          (((t.update ["credentials"] (some .dir)).update ["credentials", a] (some .dir)).update
            ["credentials", a, k.fileName ++ ".tmp"] (some (.file (listFileText cs))))
          "credentials" a (k.fileName ++ ".tmp") k.fileName (listFileText cs)
          (by simp) (by simp) (by simp) (by simpa [hname, slotPath] using ht)
        refine .inr (.inr ⟨hd, ht, ?_⟩)
        simp only [writeList, withAccountDirs, hmk, hw, hr, tempPath, slotPath]
  · exact .inl ⟨hf, .writeError (showPath root ["credentials", a]) e.message,
      by simp [writeList, hmk]⟩

/-- The tree after a write whose rename failed hangs every entry from a directory. -/
theorem wellFormed_withTemp (hwf : t.WellFormed) (hd : t.node (tempPath a k) ≠ some .dir)
    (text : String) :
    ((t.withAccountDirs a).update (tempPath a k) (some (.file text))).WellFormed := by
  have hW := hwf.withAccountDirs a
  exact hW.update_file (p := ["credentials", a]) (by simp [withAccountDirs, lookup])
    (by simpa [withAccountDirs, tempPath] using hd) text

/-- The tree after a write that succeeded hangs every entry from a directory. -/
theorem wellFormed_written (hwf : t.WellFormed) (hd : t.node (tempPath a k) ≠ some .dir)
    (ht : t.node (slotPath a k) ≠ some .dir) (text : String) :
    ((((t.withAccountDirs a).update (tempPath a k) (some (.file text))).update
      (tempPath a k) none).update (slotPath a k) (some (.file text))).WellFormed := by
  have hname : k.fileName ≠ k.fileName ++ ".tmp" := Ne.symm (Slot.tempName_ne_fileName k k)
  have hT := (wellFormed_withTemp hwf hd text).update_none (p := tempPath a k) (by simp)
  exact hT.update_file (p := ["credentials", a]) (by simp [withAccountDirs, lookup, tempPath])
    (by simpa [withAccountDirs, tempPath, slotPath, hname] using ht) text

/-- Whatever stands at a temporary path, no read of a list looks at it. -/
theorem read_update_tempPath (t : FileTree) (a b : String) (k k' : Slot) (n : Option FileNode) :
    (t.update (tempPath a k) n).read (slotPath b k') = t.read (slotPath b k') := by
  have htmp : k'.fileName ≠ k.fileName ++ ".tmp" := fun he => Slot.tempName_ne_fileName k k' he.symm
  exact read_three_congr_nodes (by simp [tempPath]) (by simp [tempPath]) (by simp [tempPath, htmp])

/-- Making the account's directories where no file stood changes no read of a list. -/
theorem read_withAccountDirs (hwf : t.WellFormed) (hf1 : t.isFileAt ["credentials"] = false)
    (hf2 : t.isFileAt ["credentials", a] = false) (b : String) (k' : Slot) :
    (t.withAccountDirs a).read (slotPath b k') = t.read (slotPath b k') :=
  read_three_congr hwf (hwf.withAccountDirs a) (by simp [withAccountDirs, hf1])
    (by by_cases hb : b = a <;> simp [withAccountDirs, hb, hf2]) (by simp [withAccountDirs])

/-- A write that fails leaves the read of every list as it was, and the tree well-formed. -/
theorem writeList_reads_of_error (hwf : t.WellFormed) {e : StoreError}
    (h : writeList root t a k cs = (.error e, t')) :
    t'.WellFormed ∧ ∀ b k', t'.read (slotPath b k') = t.read (slotPath b k') := by
  rcases writeList_cases hwf root a k cs with
    ⟨-, e', h'⟩ | ⟨hf1, hf2, ⟨-, e', h'⟩ | ⟨hd, -, e', h'⟩ | ⟨-, -, h'⟩⟩ <;>
    rw [h', Prod.mk.injEq] at h
  · -- nothing was done
    rw [← h.2]
    exact ⟨hwf, fun _ _ => rfl⟩
  · -- only directories were made, where no file stood
    rw [← h.2]
    exact ⟨hwf.withAccountDirs a, read_withAccountDirs hwf hf1 hf2⟩
  · -- the directories were made and the temporary file written, which no read looks at
    rw [← h.2]
    exact ⟨wellFormed_withTemp hwf hd _, fun b k' =>
      (read_update_tempPath _ a b k k' _).trans (read_withAccountDirs hwf hf1 hf2 b k')⟩
  · cases h.1

/-- A write that succeeds leaves the list's text at its target, the read of every other list
as it was, and the tree well-formed. -/
theorem writeList_reads_of_ok (hwf : t.WellFormed) (h : writeList root t a k cs = (.ok (), t')) :
    t'.WellFormed ∧ t'.read (slotPath a k) = .ok (listFileText cs) ∧
      ∀ b k', ¬(b = a ∧ k' = k) → t'.read (slotPath b k') = t.read (slotPath b k') := by
  rcases writeList_cases hwf root a k cs with
    ⟨-, e', h'⟩ | ⟨hf1, hf2, ⟨-, e', h'⟩ | ⟨-, -, e', h'⟩ | ⟨hd, ht, h'⟩⟩ <;>
    rw [h', Prod.mk.injEq] at h
  · cases h.1
  · cases h.1
  · cases h.1
  rw [← h.2]
  have hT := wellFormed_written hwf hd ht (listFileText cs)
  refine ⟨hT, ?_, fun b k' hne => read_three_congr hwf hT ?_ ?_ ?_⟩
  · exact (hT.read_three_of_wellFormed "credentials" a k.fileName).trans (by simp [slotPath])
  · simp [withAccountDirs, tempPath, slotPath, hf1]
  · by_cases hb : b = a <;> simp [withAccountDirs, tempPath, slotPath, hb, hf2]
  · -- the target and the temporary file are no other list's file
    have hfile : b = a → k'.fileName ≠ k.fileName := fun hb hk =>
      hne ⟨hb, Slot.fileName_injective hk⟩
    have htmp : k'.fileName ≠ k.fileName ++ ".tmp" := fun he =>
      Slot.tempName_ne_fileName k k' he.symm
    simpa [withAccountDirs, tempPath, htmp, slotPath] using fun hb hk => absurd hk (hfile hb)

/-- Writing a list that a write has just put in place changes nothing. -/
theorem writeList_writeList (hwf : t.WellFormed) (h : writeList root t a k cs = (.ok (), t')) :
    writeList root t' a k cs = (.ok (), t') := by
  rcases writeList_cases hwf root a k cs with
    ⟨-, e', h'⟩ | ⟨hf1, hf2, ⟨-, e', h'⟩ | ⟨-, -, e', h'⟩ | ⟨hd, ht, h'⟩⟩ <;>
    rw [h', Prod.mk.injEq] at h
  · cases h.1
  · cases h.1
  · cases h.1
  rw [← h.2]
  -- the written tree has the directories, no temporary file, and the list at the target
  rcases writeList_cases (wellFormed_written hwf hd ht (listFileText cs)) root a k cs with
    ⟨hf, -⟩ | ⟨-, -, ⟨hd', -⟩ | ⟨-, ht', -⟩ | ⟨-, -, h''⟩⟩
  · simp [withAccountDirs, tempPath, slotPath] at hf
  · simp [withAccountDirs, tempPath] at hd'
  · simp [withAccountDirs, tempPath, slotPath] at ht'
  · rw [h'']
    congr 1
    ext q
    simp only [withAccountDirs, FileTree.node_update]
    by_cases h1 : q = slotPath a k <;> by_cases h2 : q = tempPath a k <;>
      by_cases h3 : q = ["credentials", a] <;> by_cases h4 : q = ["credentials"] <;>
      simp [h1, h2, h3, h4]

/-! ## Saves on the file store -/

/-- The file store's load of a list depends on the tree only through the read of its file. -/
theorem load_files_congr {b : String} {k' : Slot}
    (h : t'.read (slotPath b k') = t.read (slotPath b k')) :
    (files root t').load b k' = (files root t).load b k' := by
  simp only [load, h]

/-- A save to the file store that fails leaves the tree well-formed and every load as it
was. -/
theorem save_files_of_error (hwf : t.WellFormed) {e : StoreError} {s' : CredentialStore}
    (h : (files root t).save a k cs = (.error e, s')) :
    ∃ t', s' = .files root t' ∧ t'.WellFormed ∧
      ∀ b k', s'.load b k' = (files root t).load b k' := by
  by_cases ha : isValidAccountName a = true
  · rcases hw : writeList root t a k cs with ⟨r, t'⟩
    simp only [save, ha, Bool.not_true, Bool.false_eq_true, if_false, hw, Prod.mk.injEq] at h
    obtain ⟨rfl, rfl⟩ := h
    obtain ⟨hwf', hreads⟩ := writeList_reads_of_error hwf hw
    exact ⟨t', rfl, hwf', fun b k' => load_files_congr (hreads b k')⟩
  · simp only [save, ha, Bool.not_false, if_true, Prod.mk.injEq] at h
    exact ⟨t, h.2.symm, hwf, fun b k' => by rw [← h.2]⟩

/-- A save to the file store that succeeds was on a valid account; it leaves the list's text
at its file, every other load as it was, and the tree well-formed; saving the same list
again changes nothing. -/
theorem save_files_of_ok (hwf : t.WellFormed) {s' : CredentialStore}
    (h : (files root t).save a k cs = (.ok (), s')) :
    isValidAccountName a = true ∧ ∃ t', s' = .files root t' ∧ t'.WellFormed ∧
      t'.read (slotPath a k) = .ok (listFileText cs) ∧
      (∀ b k', ¬(b = a ∧ k' = k) → s'.load b k' = (files root t).load b k') ∧
      s'.save a k cs = (.ok (), s') := by
  by_cases ha : isValidAccountName a = true
  · rcases hw : writeList root t a k cs with ⟨r, t'⟩
    simp only [save, ha, Bool.not_true, Bool.false_eq_true, if_false, hw, Prod.mk.injEq] at h
    obtain ⟨rfl, rfl⟩ := h
    obtain ⟨hwf', hread, hreads⟩ := writeList_reads_of_ok hwf hw
    refine ⟨ha, t', rfl, hwf', hread, fun b k' hne => load_files_congr (hreads b k' hne), ?_⟩
    simp [save, ha, writeList_writeList hwf hw]
  · simp [save, ha] at h

/-- A list read back from the text a save left at its file. -/
theorem load_files_of_read (ha : isValidAccountName a = true)
    (hread : t.read (slotPath a k) = .ok (listFileText cs)) (hback : ReadsBack k cs) :
    (files root t).load a k = .ok cs := by
  unfold ReadsBack at hback
  simp [load, ha, hread, hback]

/-! ## Saves on either store -/

/-- A store whose file tree, if it has one, hangs every entry from a directory. -/
def WellFormed : CredentialStore → Prop
  | .memory _ => True
  | .files _ t => t.WellFormed

/-- A list a store gives back as it was saved: any list in memory; in a file, a list that
reads back from its text. -/
def Keeps (s : CredentialStore) (k : Slot) (cs : List Credential) : Prop :=
  match s with
  | .memory _ => True
  | .files _ _ => ReadsBack k cs

theorem get_eq_of_load_eq {s s' : CredentialStore} {b : String} {k' : Slot}
    (h : s'.load b k' = s.load b k') (u : IdentityType) : s'.get b k' u = s.get b k' u := by
  simp [get, h]

theorem AccountLists.setSlot_setSlot (l : AccountLists) (k : Slot) (cs cs' : List Credential) :
    (l.setSlot k cs).setSlot k cs' = l.setSlot k cs' := by
  cases k <;> rfl

/-- Saving to the memory store the list just saved there changes nothing. -/
theorem save_memory_save (accounts : String → Option AccountLists) :
    ((memory accounts).save a k cs).2.save a k cs =
      (.ok (), ((memory accounts).save a k cs).2) := by
  simp only [save, Prod.mk.injEq, true_and]
  congr 1
  funext b
  by_cases hb : b = a
  · subst hb
    simp [AccountLists.setSlot_setSlot]
  · simp [hb]

/-- A save that fails leaves the store well-formed and every load as it was. -/
theorem save_of_error {s s' : CredentialStore} (hs : s.WellFormed) {e : StoreError}
    (h : s.save a k cs = (.error e, s')) : s'.WellFormed ∧ ∀ b k', s'.load b k' = s.load b k' := by
  cases s with
  | memory accounts =>
    -- the memory store takes every save
    obtain ⟨accounts', hsave, -⟩ := heldLists_save accounts a k cs
    rw [hsave, Prod.mk.injEq] at h
    cases h.1
  | files root t =>
    obtain ⟨t', rfl, hwf', hload⟩ := save_files_of_error hs h
    exact ⟨hwf', hload⟩

/-- A save that succeeds, of a list the store keeps, leaves the store well-formed, makes the
list load back, leaves every other load as it was; saving the same list again changes
nothing. -/
theorem save_of_ok {s s' : CredentialStore} (hs : s.WellFormed) (hkeep : s.Keeps k cs)
    (h : s.save a k cs = (.ok (), s')) :
    s'.WellFormed ∧ s'.load a k = .ok cs ∧
      (∀ b k', ¬(b = a ∧ k' = k) → s'.load b k' = s.load b k') ∧ s'.save a k cs = (.ok (), s') := by
  cases s with
  | memory accounts =>
    have hs' : s' = ((memory accounts).save a k cs).2 := by rw [h]
    obtain ⟨accounts', hsave, hheld⟩ := heldLists_save accounts a k cs
    have hmem : s' = .memory accounts' := by rw [hs', hsave]
    refine ⟨by rw [hmem]; trivial, ?_, fun b k' hne => ?_, hs' ▸ save_memory_save accounts⟩
    · rw [hmem, load_memory, hheld, if_pos ⟨rfl, rfl⟩]
    · rw [hmem, load_memory, load_memory, hheld, if_neg hne]
  | files root t =>
    obtain ⟨ha, t', rfl, hwf', hread, hload, hagain⟩ := save_files_of_ok hs h
    exact ⟨hwf', load_files_of_read ha hread hkeep, hload, hagain⟩

end CredentialStore

end Proximity
