import Proximity.Credential.Store

/-!
# Saving over a file system that may fail

A real file system can refuse any call: the disk is full, a permission is missing, the
device goes away. `FallibleFiles` stands for such a file system: each of the three calls a
save makes (make the account's directories, write the temporary file, rename it over the
target) may fail at any time, with any error, and then changes nothing; a call that does not
fail does what the tree's own operation does. The tree's own operations, which fail only where
the tree itself forbids the call, are one such file system (`FallibleFiles.reliable`).

`saveOn` is the file store's save made through such a file system, and `saveWith` the save of
either store: the memory store has no file system and takes every save.
-/

namespace Proximity

/-- A file system whose calls may fail at any time; a call that fails changes nothing, and a
call that succeeds does what the tree's own operation does. -/
structure FallibleFiles where
  makeDirAll : FileTree → List String → Except FileError FileTree
  write : FileTree → List String → String → Except FileError FileTree
  rename : FileTree → List String → List String → Except FileError FileTree
  makeDirAll_ok : ∀ {t p t'}, makeDirAll t p = .ok t' → t.makeDirAll p = .ok t'
  write_ok : ∀ {t p text t'}, write t p text = .ok t' → t.write p text = .ok t'
  rename_ok : ∀ {t src dst t'}, rename t src dst = .ok t' → t.rename src dst = .ok t'

/-- The tree's own operations, which fail only where the tree forbids the call. -/
def FallibleFiles.reliable : FallibleFiles :=
  ⟨FileTree.makeDirAll, FileTree.write, FileTree.rename, id, id, id⟩

namespace CredentialStore

/-- Writes a list to its file through a file system that may fail: the calls of `writeList`. -/
def writeListOn (fs : FallibleFiles) (root : String) (tree : FileTree) (account : String)
    (slot : Slot) (cs : List Credential) : Except StoreError Unit × FileTree :=
  let dir := ["credentials", account]
  match fs.makeDirAll tree dir with
  | .error e => (.error (.writeError (showPath root dir) e.message), tree)
  | .ok t1 =>
    let tmp := tempPath account slot
    match fs.write t1 tmp (listFileText cs) with
    | .error e => (.error (.writeError (showPath root tmp) e.message), t1)
    | .ok t2 =>
      let target := slotPath account slot
      match fs.rename t2 tmp target with
      | .error e => (.error (.writeError (showPath root target) e.message), t2)
      | .ok t3 => (.ok (), t3)

/-- Saves a list of the file store through a file system that may fail. -/
def saveOn (fs : FallibleFiles) (root : String) (tree : FileTree) (account : String) (slot : Slot)
    (cs : List Credential) : Except StoreError Unit × FileTree :=
  if !isValidAccountName account then (.error (.invalidAccountName account), tree)
  else writeListOn fs root tree account slot cs

/-- Saves a list of either store, the file store writing through a file system that may fail. -/
def saveWith (fs : FallibleFiles) (s : CredentialStore) (account : String) (slot : Slot)
    (cs : List Credential) : Except StoreError Unit × CredentialStore :=
  match s with
  | .memory _ => s.save account slot cs
  | .files root tree =>
    let (r, tree') := saveOn fs root tree account slot cs
    (r, .files root tree')

theorem writeListOn_reliable : writeListOn .reliable = writeList := rfl

end CredentialStore

end Proximity
