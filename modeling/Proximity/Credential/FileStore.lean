import Proximity.Credential.Store
import Proximity.Credential.Locks
import Proximity.Files.Path

/-!
# The file store with its account locks

The file store as it runs: the directory it is rooted at, the tree of files below it, and the
table of its account locks (`AccountLocks`). A call first builds the path of the list it works
on from the account's name, and a name that is not a valid account name is refused there,
before the locks or the files are touched. Otherwise the call takes the account's lock, holds
it while it writes or reads the list, lets it go and drops its handle.

Paths are texts joined as Unix joins them (`joinPath`): an account's directory is
`<root>/credentials/<account>` and its lists are the files `Slot.fileName` in it. A list is
first written to its file's path with `.tmp` added, its `.json` extension made `.json.tmp`.
The tree itself is addressed by the components below the root (`CredentialStore.slotPath`,
`CredentialStore.tempPath`).

Here a call runs alone: it never waits for the lock, and the lock table it leaves is the one
taking the lock made, less the call's own handle. How calls interleave on the locks is
`AccountLocks.step`. Without its locks the store is `CredentialStore.files`, and a call gives
the answer that store gives (`save_files`, `get_files`).
-/

namespace Proximity

/-- The file store: the directory it is rooted at, the tree of files below it, and the table
of its account locks. -/
structure FileStore where
  root : String
  tree : FileTree
  locks : AccountLocks := {}

namespace FileStore

/-- The directory of an account's lists; a name that is not a valid account name is refused. -/
def accountDir (root account : String) : Except StoreError String :=
  if !isValidAccountName account then .error (.invalidAccountName account)
  else .ok (joinPath (joinPath root "credentials") account)

/-- The file an account's list is kept in. -/
def listPath (root account : String) (slot : Slot) : Except StoreError String :=
  (accountDir root account).map fun dir => joinPath dir slot.fileName

/-- The lock table after a call on an account: the call took the account's lock and, once
done, dropped its handle, the newest one. -/
def afterCall (locks : AccountLocks) (account : String) : AccountLocks :=
  let taken := (locks.take account).1
  { taken with handles := taken.handles.eraseIdx locks.handles.length }

/-- Saves an account's list. -/
def save (s : FileStore) (account : String) (slot : Slot) (cs : List Credential) :
    Except StoreError Unit × FileStore :=
  match listPath s.root account slot with
  | .error e => (.error e, s)
  | .ok _ =>
    let (r, tree) := CredentialStore.writeList s.root s.tree account slot cs
    (r, { s with tree, locks := afterCall s.locks account })

/-- Reads the credentials of one identity type in an account's list. -/
def get (s : FileStore) (account : String) (slot : Slot) (t : IdentityType) :
    Except StoreError (List Credential) × FileStore :=
  match listPath s.root account slot with
  | .error e => (.error e, s)
  | .ok _ =>
    ((CredentialStore.files s.root s.tree).get account slot t,
      { s with locks := afterCall s.locks account })

variable {root a : String} {k : Slot}

theorem accountDir_eq_ok {d : String} :
    accountDir root a = .ok d ↔
      isValidAccountName a = true ∧ d = joinPath (joinPath root "credentials") a := by
  cases h : isValidAccountName a <;> simp [accountDir, h, eq_comm]

theorem listPath_eq_ok {p : String} :
    listPath root a k = .ok p ↔
      ∃ d, accountDir root a = .ok d ∧ p = joinPath d k.fileName := by
  cases h : accountDir root a <;> simp [listPath, h, Except.map, eq_comm]

theorem listPath_of_invalid (h : isValidAccountName a = false) :
    listPath root a k = .error (.invalidAccountName a) := by
  simp [listPath, accountDir, h, Except.map]

theorem listPath_of_valid (h : isValidAccountName a = true) :
    listPath root a k = .ok (joinPath (joinPath (joinPath root "credentials") a) k.fileName) := by
  simp [listPath, accountDir, h, Except.map]

/-- A save on a name that is not a valid account name is refused before the store takes a lock
or touches a file. -/
theorem save_of_invalid (s : FileStore) (h : isValidAccountName a = false)
    (cs : List Credential) :
    s.save a k cs = (.error (.invalidAccountName a), s) := by
  simp [save, listPath_of_invalid h]

/-- A read on a name that is not a valid account name is refused before the store takes a lock
or touches a file. -/
theorem get_of_invalid (s : FileStore) (h : isValidAccountName a = false) (t : IdentityType) :
    s.get a k t = (.error (.invalidAccountName a), s) := by
  simp [get, listPath_of_invalid h]

/-- A call leaves the running calls' handles as they were. -/
@[simp] theorem afterCall_handles (locks : AccountLocks) (a : String) :
    (afterCall locks a).handles = locks.handles := by
  unfold afterCall AccountLocks.take
  split <;> simp [List.eraseIdx_append_of_length_le]

/-- Without its locks, a save is the save of `CredentialStore.files`. -/
theorem save_files (s : FileStore) (a : String) (k : Slot) (cs : List Credential) :
    ((s.save a k cs).1, CredentialStore.files (s.save a k cs).2.root (s.save a k cs).2.tree) =
      (CredentialStore.files s.root s.tree).save a k cs := by
  cases h : isValidAccountName a
  · simp [save, listPath_of_invalid h, CredentialStore.save, h]
  · simp [save, listPath_of_valid h, CredentialStore.save, h]

/-- Without its locks, a read is the read of `CredentialStore.files`, and changes no file. -/
theorem get_files (s : FileStore) (a : String) (k : Slot) (t : IdentityType) :
    (s.get a k t).1 = (CredentialStore.files s.root s.tree).get a k t ∧
      (s.get a k t).2.tree = s.tree := by
  cases h : isValidAccountName a
  · simp [get, listPath_of_invalid h, CredentialStore.get, CredentialStore.load, h, Functor.map,
      Except.map]
  · simp [get, listPath_of_valid h]

end FileStore

end Proximity
