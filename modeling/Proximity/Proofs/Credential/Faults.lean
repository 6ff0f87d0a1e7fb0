import Proximity.Credential.Fallible
import Proximity.Proofs.Credential.Writes

/-!
# Saving over a file system that may fail

A `FallibleFiles` file system may refuse any call a save makes, at any time and with any
error; a call it does not refuse does what the tree's own operation does. The tree's own
operations are one such file system (`FallibleFiles.reliable`), and a save over them is the
store's save (`save_files_eq_saveOn`, `saveWith_reliable`).

Whatever fails, a save that fails leaves every read of a list as it was: the directories it
made stood where no file did, and its temporary file is no file any read looks at
(`read_update_tempPath`). A save that succeeds made every call succeed, so it is the save over
the tree's own operations: only the target file changes among the files the reads look at,
and the list reads back from it.

**Results.**
* `FileTree.write_eq_ok`, `makeDirAll_account_of_ok`: what a call that succeeds did.
* `writeListOn_of_ok`: a write that succeeds is the reliable write.
* `writeListOn_of_error`: a write that fails stopped after some of the reliable write's calls.
* `writeListOn_reads_of_error`: and leaves every read of a list as it was.
* `saveOn_reads_of_error`, `saveWith_of_error`: a failed save over such a file system, for
  the file store and for either store.
* `saveOn_keeps_reads`: a save over a failing file system, failed or not.
-/

namespace Proximity

namespace FileTree

variable {t t' : FileTree}

/-- A write that succeeds wrote the file where no directory stood. -/
theorem write_eq_ok {p : List String} {text : String} (h : t.write p text = .ok t') :
    t.lookup p ≠ some .dir ∧ t' = t.update p (some (.file text)) := by
  unfold write at h
  cases hr : reach t [] p with
  | error e => simp [hr, bind, Except.bind] at h
  | ok u =>
    simp only [hr, bind, Except.bind] at h
    split at h
    · cases h
    · rename_i hl
      cases h
      exact ⟨hl, rfl⟩

end FileTree

open FileTree

namespace CredentialStore

variable {t t' : FileTree} {root a : String} {k : Slot} {cs : List Credential}

/-- The file store's save is the save over the tree's own operations. -/
theorem save_files_eq_saveOn (root : String) (t : FileTree) (a : String) (k : Slot)
    (cs : List Credential) :
    (files root t).save a k cs =
      ((saveOn .reliable root t a k cs).1, files root (saveOn .reliable root t a k cs).2) := by
  by_cases ha : isValidAccountName a = true <;> simp [save, saveOn, ha, writeListOn_reliable]

/-- Either store's save is the save over the tree's own operations. -/
@[simp] theorem saveWith_reliable (s : CredentialStore) (a : String) (k : Slot)
    (cs : List Credential) : s.saveWith .reliable a k cs = s.save a k cs := by
  cases s with
  | memory accounts => rfl
  | files root t => exact (save_files_eq_saveOn root t a k cs).symm

/-- In a well-formed tree, making the account's directories succeeds only where no file stood,
and makes exactly those two directories. -/
theorem makeDirAll_account_of_ok (hwf : t.WellFormed) {t1 : FileTree}
    (h : t.makeDirAll ["credentials", a] = .ok t1) :
    t.isFileAt ["credentials"] = false ∧ t.isFileAt ["credentials", a] = false ∧
      t1 = t.withAccountDirs a := by
  rcases makeDirAll_two_of_wellFormed hwf "credentials" a with ⟨hf1, hf2, hmk⟩ | ⟨-, e, hmk⟩
  · rw [hmk] at h
    cases h
    exact ⟨hf1, hf2, rfl⟩
  · rw [hmk] at h
    cases h

/-- A write that succeeds made every call succeed, so it is the reliable write. -/
theorem writeListOn_of_ok (fs : FallibleFiles) (h : writeListOn fs root t a k cs = (.ok (), t')) :
    writeList root t a k cs = (.ok (), t') := by
  simp only [writeListOn] at h
  split at h
  · cases h
  · rename_i t1 h1
    split at h
    · cases h
    · rename_i t2 h2
      split at h
      · cases h
      · rename_i t3 h3
        cases h
        simp [writeList, fs.makeDirAll_ok h1, fs.write_ok h2, fs.rename_ok h3]

/-- A write that fails stopped after none, one or two of the reliable write's calls, each of
which succeeded. -/
theorem writeListOn_of_error (fs : FallibleFiles) {e : StoreError}
    (h : writeListOn fs root t a k cs = (.error e, t')) :
    t' = t ∨ t.makeDirAll ["credentials", a] = .ok t' ∨
      ∃ t1, t.makeDirAll ["credentials", a] = .ok t1 ∧
        t1.write (tempPath a k) (listFileText cs) = .ok t' := by
  simp only [writeListOn] at h
  split at h
  · cases h
    exact .inl rfl
  · rename_i t1 h1
    split at h
    · cases h
      exact .inr (.inl (fs.makeDirAll_ok h1))
    · rename_i t2 h2
      split at h
      · cases h
        exact .inr (.inr ⟨t1, fs.makeDirAll_ok h1, fs.write_ok h2⟩)
      · cases h

/-- A write that fails, at whichever call, leaves the tree well-formed and the read of every
list as it was. -/
theorem writeListOn_reads_of_error (fs : FallibleFiles) (hwf : t.WellFormed) {e : StoreError}
    (h : writeListOn fs root t a k cs = (.error e, t')) :
    t'.WellFormed ∧ ∀ b k', t'.read (slotPath b k') = t.read (slotPath b k') := by
  rcases writeListOn_of_error fs h with rfl | hmk | ⟨t1, hmk, hw⟩
  · exact ⟨hwf, fun _ _ => rfl⟩
  · -- only the account's directories were made
    obtain ⟨hf1, hf2, rfl⟩ := makeDirAll_account_of_ok hwf hmk
    exact ⟨hwf.withAccountDirs a, read_withAccountDirs hwf hf1 hf2⟩
  · -- the directories were made and the temporary file written
    obtain ⟨hf1, hf2, rfl⟩ := makeDirAll_account_of_ok hwf hmk
    obtain ⟨hd, rfl⟩ := FileTree.write_eq_ok hw
    have hd' : t.node (tempPath a k) ≠ some .dir := by
      simpa [withAccountDirs, tempPath, lookup] using hd
    exact ⟨wellFormed_withTemp hwf hd' _, fun b k' =>
      (read_update_tempPath _ a b k k' _).trans (read_withAccountDirs hwf hf1 hf2 b k')⟩

/-- A save of the file store that fails, refused or at whichever call, leaves the tree
well-formed and the read of every list as it was. -/
theorem saveOn_reads_of_error (fs : FallibleFiles) (hwf : t.WellFormed) {e : StoreError}
    (h : saveOn fs root t a k cs = (.error e, t')) :
    t'.WellFormed ∧ ∀ b k', t'.read (slotPath b k') = t.read (slotPath b k') := by
  by_cases ha : isValidAccountName a = true
  · simp only [saveOn, ha, Bool.not_true, Bool.false_eq_true, if_false] at h
    exact writeListOn_reads_of_error fs hwf h
  · -- an account name that is no path component is refused before any call
    simp only [saveOn, ha, Bool.not_false, if_true, Prod.mk.injEq] at h
    obtain ⟨-, rfl⟩ := h
    exact ⟨hwf, fun _ _ => rfl⟩

/-- A save of either store that fails, over a file system that may fail, leaves the store
well-formed and every load as it was. -/
theorem saveWith_of_error (fs : FallibleFiles) {s s' : CredentialStore} (hs : s.WellFormed)
    {e : StoreError} (h : s.saveWith fs a k cs = (.error e, s')) :
    s'.WellFormed ∧ ∀ b k', s'.load b k' = s.load b k' := by
  cases s with
  | memory accounts => exact save_of_error hs h
  | files root t =>
    rcases hsave : saveOn fs root t a k cs with ⟨r, t'⟩
    simp only [saveWith, hsave, Prod.mk.injEq] at h
    obtain ⟨rfl, rfl⟩ := h
    obtain ⟨hwf', hreads⟩ := saveOn_reads_of_error fs hs hsave
    exact ⟨hwf', fun b k' => load_files_congr (hreads b k')⟩

/-- **Saving over a file system that may fail.** Over any file system whose calls may fail, a
save of a list of the file store leaves a well-formed tree in which nothing standing at a
temporary path is ever read. If the save fails, every get of every list of every account
answers as before. If it succeeds, the target file holds the list's text, every other file
that a get reads is as it was, and a list that reads back from its text is what a get of that
list then selects from. -/
theorem saveOn_keeps_reads (fs : FallibleFiles) {root a : String} {k : Slot} {cs : List Credential}
    {t t' : FileTree} {r : Except StoreError Unit} (hwf : t.WellFormed)
    (h : saveOn fs root t a k cs = (r, t')) :
    t'.WellFormed ∧
    (∀ c k'' n b k' u,
      (files root (t'.update (tempPath c k'') n)).get b k' u = (files root t').get b k' u) ∧
    (∀ e, r = .error e → ∀ b k' u, (files root t').get b k' u = (files root t).get b k' u) ∧
    (r = .ok () →
      t'.read (slotPath a k) = .ok (listFileText cs) ∧
      (∀ b k', ¬(b = a ∧ k' = k) → t'.read (slotPath b k') = t.read (slotPath b k')) ∧
      (ReadsBack k cs → ∀ u, (files root t').get a k u = .ok (selectType u cs))) := by
  -- what stands at a temporary path is never read, in any tree
  have htemp : ∀ t'' : FileTree, ∀ c k'' n b k' u,
      (files root (t''.update (tempPath c k'') n)).get b k' u = (files root t'').get b k' u :=
    fun t'' c k'' n b k' u =>
      get_eq_of_load_eq (load_files_congr (read_update_tempPath t'' c b k'' k' n)) u
  cases r with
  | error e =>
    obtain ⟨hwf', hreads⟩ := saveOn_reads_of_error fs hwf h
    refine ⟨hwf', htemp t', fun _ _ b k' u => ?_, fun hok => by cases hok⟩
    exact get_eq_of_load_eq (load_files_congr (hreads b k')) u
  | ok u =>
    -- a save that succeeds was not refused, so every call of the write succeeded
    have ha : isValidAccountName a = true := by
      cases ha : isValidAccountName a
      · simp [saveOn, ha] at h
      · rfl
    simp only [saveOn, ha, Bool.not_true, Bool.false_eq_true, if_false] at h
    obtain ⟨hwf', hread, hreads⟩ := writeList_reads_of_ok hwf (writeListOn_of_ok fs h)
    refine ⟨hwf', htemp t', fun _ he => (by cases he), fun _ => ⟨hread, hreads, fun hback v => ?_⟩⟩
    simp [get, load_files_of_read ha hread hback]

end CredentialStore

/-- A file system on which every rename fails. -/
def FallibleFiles.renameFails : FallibleFiles :=
  { FallibleFiles.reliable with
    rename := fun _ _ _ => .error .notFound
    rename_ok := fun h => nomatch h }

namespace CredentialStore

/-- A save of `alice`'s private list to an empty tree over a file system whose renames fail. -/
def renameFailedSave : Except StoreError Unit × FileTree :=
  saveOn .renameFails "/var/lib/nearlink" .empty "alice" .private_ []

/-- The save whose rename fails leaves a temporary file behind, and the store reads as
`saveOn_keeps_reads` says. -/
theorem saveOn_keeps_reads_when_rename_fails :
    FileTree.empty.WellFormed ∧
    (renameFailedSave.2.WellFormed ∧
    (∀ c k'' n b k' u,
      (files "/var/lib/nearlink" (renameFailedSave.2.update (tempPath c k'') n)).get b k' u =
        (files "/var/lib/nearlink" renameFailedSave.2).get b k' u) ∧
    (∀ e, renameFailedSave.1 = .error e → ∀ b k' u,
      (files "/var/lib/nearlink" renameFailedSave.2).get b k' u =
        (files "/var/lib/nearlink" .empty).get b k' u) ∧
    (renameFailedSave.1 = .ok () →
      renameFailedSave.2.read (slotPath "alice" .private_) = .ok (listFileText []) ∧
      (∀ b k', ¬(b = "alice" ∧ k' = .private_) →
        renameFailedSave.2.read (slotPath b k') = FileTree.empty.read (slotPath b k')) ∧
      (ReadsBack .private_ [] → ∀ u,
        (files "/var/lib/nearlink" renameFailedSave.2).get "alice" .private_ u =
          .ok (selectType u [])))) :=
  ⟨wellFormed_empty, saveOn_keeps_reads .renameFails wellFormed_empty rfl⟩

end CredentialStore

end Proximity
