import Mathlib
import Proximity.Credential.FileStore
import Proximity.Proofs.Credential.Files

/-!
# Account names are single path components

The file store turns an account's name into a directory name: the account's lists are kept
in `<root>/credentials/<account>`. It takes only names that are not empty, do not start with
`.`, and hold nothing but ASCII letters and digits and `@._-+` (`isValidAccountName_iff`).
Such a name has no slash and is neither `.` nor `..`, so it reads as one plain path component
(`isPlainName_of_valid`). Hence an account's directory lies directly inside
`<root>/credentials` (`accountDir_components`), two accounts never share a directory
(`accountDir_injective`), and the account's three lists and their temporary files are six
distinct files of that directory: read as paths, they are the paths the tree addresses them by
(`listPath_components`, `tempFile_components`), and those six differ (`listFiles_distinct`).

A name the store refuses is refused before anything else: the call answers
`invalidAccountName` and leaves the whole store, its files and its lock table, as it was
(`FileStore.save_of_invalid`, `FileStore.get_of_invalid`).

**Results.**
* `isValidAccountName_iff`: the names the store takes, character by character.
* `isPlainName_of_valid`: a name it takes is one plain path component.
* `accountDir_components`, `accountDir_injective`: where an account's directory lies.
* `listPath_components`, `tempFile_components`: the files of an account's lists.
* `account_names_are_plain_components`: all of it, with the refusal of the other names.
-/

namespace Proximity

/-- The characters an account name may hold: ASCII letters and digits, and `@._-+`. -/
def IsAccountChar (c : Char) : Prop :=
  ('a' ≤ c ∧ c ≤ 'z') ∨ ('A' ≤ c ∧ c ≤ 'Z') ∨ ('0' ≤ c ∧ c ≤ '9') ∨
    c ∈ ['@', '.', '_', '-', '+']

/-! ## The names the store takes -/

/-- An ASCII letter or digit, by its code point. -/
theorem asciiAlphanum_iff (c : Char) :
    (c.toNat < 128 && c.isAlphanum) = true ↔
      ('a' ≤ c ∧ c ≤ 'z') ∨ ('A' ≤ c ∧ c ≤ 'Z') ∨ ('0' ≤ c ∧ c ≤ '9') := by
  simp only [Char.isAlphanum, Char.isAlpha, Char.isUpper, Char.isLower, Char.isDigit,
    Bool.or_eq_true, Bool.and_eq_true, decide_eq_true_eq, Char.le_def, UInt32.le_iff_toNat_le]
  simp only [Char.toNat]
  -- the code points of the range ends
  have : 'a'.val.toNat = 97 := rfl
  have : 'z'.val.toNat = 122 := rfl
  have : 'A'.val.toNat = 65 := rfl
  have : 'Z'.val.toNat = 90 := rfl
  have : '0'.val.toNat = 48 := rfl
  have : '9'.val.toNat = 57 := rfl
  omega

theorem accountChar_iff (c : Char) :
    ((c.toNat < 128 && c.isAlphanum) || c ∈ ['@', '.', '_', '-', '+']) = true ↔
      IsAccountChar c := by
  rw [Bool.or_eq_true, asciiAlphanum_iff, decide_eq_true_eq]
  simp only [IsAccountChar, or_assoc]

theorem startsWith_dot_iff (a : String) :
    a.startsWith "." = true ↔ a.toList.head? = some '.' := by
  rw [String.startsWith_string_iff]
  cases a.toList with
  | nil => simp
  | cons x r => simp [eq_comm]

/-- The names the file store takes, said character by character. -/
theorem isValidAccountName_iff (a : String) :
    isValidAccountName a = true ↔
      a ≠ "" ∧ a.toList.head? ≠ some '.' ∧ ∀ c ∈ a.toList, IsAccountChar c := by
  have hempty : a.isEmpty = false ↔ a ≠ "" := by simp
  have hdot : a.startsWith "." = false ↔ a.toList.head? ≠ some '.' := by
    rw [Ne, ← startsWith_dot_iff, Bool.not_eq_true]
  simp only [isValidAccountName, Bool.and_eq_true, Bool.not_eq_true', hempty, hdot,
    String.all_bool_eq, List.all_eq_true, accountChar_iff, and_assoc]

/-- A name the store takes is one plain component of a path: no slash, and neither `.` nor
`..`, since it does not start with a dot. -/
theorem isPlainName_of_valid {a : String} (h : isValidAccountName a = true) : IsPlainName a := by
  obtain ⟨hne, hdot, hchars⟩ := (isValidAccountName_iff a).1 h
  have hslash : ¬IsAccountChar '/' := by
    unfold IsAccountChar
    decide
  refine ⟨hne, fun hs => hslash (hchars '/' hs), ?_, ?_⟩
  · rintro rfl
    exact hdot (by decide)
  · rintro rfl
    exact hdot (by decide)

/-! ## The store's paths -/

theorem credentials_plain : IsPlainName "credentials" := by
  unfold IsPlainName
  decide

theorem Slot.fileName_plain (k : Slot) : IsPlainName k.fileName := by
  cases k <;> (unfold IsPlainName; decide)

theorem Slot.tempName_plain (k : Slot) : IsPlainName (k.fileName ++ ".tmp") := by
  cases k <;> (unfold IsPlainName; decide)

theorem credentialsDir_components (root : String) :
    pathComponents (joinPath root "credentials") =
      pathComponents root ++ [.normal "credentials"] :=
  pathComponents_joinPath root credentials_plain

/-- An account's directory lies directly inside `<root>/credentials`. -/
theorem accountDir_components {root a d : String} (h : FileStore.accountDir root a = .ok d) :
    pathComponents d = pathComponents (joinPath root "credentials") ++ [.normal a] := by
  obtain ⟨ha, rfl⟩ := FileStore.accountDir_eq_ok.1 h
  exact pathComponents_joinPath _ (isPlainName_of_valid ha)

/-- Two accounts never share a directory. -/
theorem accountDir_injective {root a b d d' : String} (ha : FileStore.accountDir root a = .ok d)
    (hb : FileStore.accountDir root b = .ok d') (h : pathComponents d = pathComponents d') :
    a = b := by
  rw [accountDir_components ha, accountDir_components hb] at h
  simpa using h

/-- The file of a list, read as a path: the root, then the components the tree keeps the list
under. -/
theorem listPath_components {root a p : String} {k : Slot}
    (h : FileStore.listPath root a k = .ok p) :
    pathComponents p = pathComponents root ++ (CredentialStore.slotPath a k).map .normal := by
  obtain ⟨d, hd, rfl⟩ := FileStore.listPath_eq_ok.1 h
  rw [pathComponents_joinPath _ k.fileName_plain, accountDir_components hd,
    credentialsDir_components]
  simp [CredentialStore.slotPath]

/-- The temporary file of a list, read as a path: the root, then the components the tree keeps
the temporary file under. -/
theorem tempFile_components {root a p : String} {k : Slot}
    (h : FileStore.listPath root a k = .ok p) :
    pathComponents (p ++ ".tmp") =
      pathComponents root ++ (CredentialStore.tempPath a k).map .normal := by
  obtain ⟨d, hd, rfl⟩ := FileStore.listPath_eq_ok.1 h
  rw [joinPath_append _ k.fileName_plain.1, pathComponents_joinPath _ k.tempName_plain,
    accountDir_components hd, credentialsDir_components]
  simp [CredentialStore.tempPath]

/-- Two paths below one root are one path only when their names below the root are the same. -/
theorem below_eq_below_iff (r : List PathComponent) (l l' : List String) :
    r ++ l.map .normal = r ++ l'.map .normal ↔ l = l' := by
  rw [List.append_cancel_left_eq, List.map_inj_right fun _ _ h => PathComponent.normal.inj h]

/-- The three list files of an account and their temporary files are six distinct paths. -/
theorem listFiles_distinct {root a p p' : String} {k k' : Slot}
    (hp : FileStore.listPath root a k = .ok p) (hp' : FileStore.listPath root a k' = .ok p') :
    (pathComponents p = pathComponents p' ↔ k = k') ∧
      (pathComponents (p ++ ".tmp") = pathComponents (p' ++ ".tmp") ↔ k = k') ∧
      pathComponents p ≠ pathComponents (p' ++ ".tmp") := by
  rw [listPath_components hp, listPath_components hp', tempFile_components hp,
    tempFile_components hp', below_eq_below_iff, below_eq_below_iff, Ne, below_eq_below_iff,
    CredentialStore.slotPath_eq_iff, CredentialStore.tempPath_eq_iff]
  exact ⟨by simp, by simp, (CredentialStore.tempPath_ne_slotPath a k' a k).symm⟩

/-! ## All together -/

/-- The file store takes exactly the names that are not empty, do not start with `.`, and hold
only ASCII letters and digits and `@._-+`. Each such name is one plain path component, so an
account's directory is `<root>/credentials/<name>` read as a path, two names never share a
directory, and an account's three list files and their temporary files are six distinct paths
in it, the ones the tree keeps them under. A save or a read on any other name answers
`invalidAccountName` and leaves the store, its files and its lock table, as it was. -/
theorem account_names_are_plain_components :
    (∀ a, isValidAccountName a = true ↔
      a ≠ "" ∧ a.toList.head? ≠ some '.' ∧ ∀ c ∈ a.toList, IsAccountChar c) ∧
    (∀ a, isValidAccountName a = true →
      '/' ∉ a.toList ∧ a ≠ "." ∧ a ≠ ".." ∧ pathComponents a = [.normal a]) ∧
    (∀ root a, isValidAccountName a = true → ∃ d, FileStore.accountDir root a = .ok d ∧
      pathComponents d = pathComponents (joinPath root "credentials") ++ [.normal a] ∧
      pathComponents (joinPath root "credentials") =
        pathComponents root ++ [.normal "credentials"]) ∧
    (∀ root a b d d', FileStore.accountDir root a = .ok d →
      FileStore.accountDir root b = .ok d' → pathComponents d = pathComponents d' → a = b) ∧
    (∀ root a k, isValidAccountName a = true → ∃ p, FileStore.listPath root a k = .ok p ∧
      pathComponents p = pathComponents root ++ (CredentialStore.slotPath a k).map .normal ∧
      pathComponents (p ++ ".tmp") =
        pathComponents root ++ (CredentialStore.tempPath a k).map .normal) ∧
    (∀ root a k k' p p', FileStore.listPath root a k = .ok p →
      FileStore.listPath root a k' = .ok p' →
      (pathComponents p = pathComponents p' ↔ k = k') ∧
      (pathComponents (p ++ ".tmp") = pathComponents (p' ++ ".tmp") ↔ k = k') ∧
      pathComponents p ≠ pathComponents (p' ++ ".tmp")) ∧
    (∀ (s : FileStore) a k, isValidAccountName a = false →
      (∀ cs, s.save a k cs = (.error (.invalidAccountName a), s)) ∧
      (∀ t, s.get a k t = (.error (.invalidAccountName a), s))) := by
  refine ⟨isValidAccountName_iff, fun a ha => ?_, fun root a ha => ?_,
    fun _ _ _ _ _ => accountDir_injective, fun root a k ha => ?_,
    fun _ _ _ _ _ _ => listFiles_distinct,
    fun s a k ha => ⟨s.save_of_invalid ha, s.get_of_invalid ha⟩⟩
  · have hp := isPlainName_of_valid ha
    exact ⟨hp.2.1, hp.2.2.1, hp.2.2.2, pathComponents_plain hp⟩
  · have hd : FileStore.accountDir root a = .ok (joinPath (joinPath root "credentials") a) :=
      FileStore.accountDir_eq_ok.2 ⟨ha, rfl⟩
    exact ⟨_, hd, accountDir_components hd, credentialsDir_components root⟩
  · have hp : FileStore.listPath root a k =
        .ok (joinPath (joinPath (joinPath root "credentials") a) k.fileName) :=
      FileStore.listPath_of_valid ha
    exact ⟨_, hp, listPath_components hp, tempFile_components hp⟩

end Proximity
