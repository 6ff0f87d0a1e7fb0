import Proximity.Credential.Record
import Proximity.Files.Tree
import Proximity.Json.Pretty

/-!
# Credential stores

A store keeps, per account, three lists of credentials: the private ones, the local public
ones and the remote public ones. Each list is absent until it is first saved; a save
replaces the whole list. A read of a list gives the stored credentials of one identity
type, in stored order, and fails with `notFound` when the list was never saved.

Two stores are modelled:

* the memory store, a map from account to its three lists; an account is entered by its
  first save, with the other two lists still absent. It takes any account name;
* the file store, which keeps each list as indented JSON text in
  `<root>/credentials/<account>/{private,public-local,public-remote}.json`. Its account
  names must be non-empty, must not start with `.`, and may hold only ASCII letters and
  digits and `@._-+`, so that a name is always one plain path component.

The file store writes a list by making the account's directory, writing the text to a
`.json.tmp` file beside the target and renaming it over the target, so a reader never
sees half a list. Read, write and parse failures name the file and the system's message.
-/

namespace Proximity

/-- One of an account's three credential lists. -/
inductive Slot where
  | private_
  | localPublic
  | remotePublic
  deriving DecidableEq, Repr

namespace Slot

/-- The list a kind of public credentials is kept in. -/
def ofPublic : PublicKind → Slot
  | .local_ => localPublic
  | .remote => remotePublic

/-- The half of a credential a list holds. -/
def half : Slot → Half
  | private_ => .private_
  | _ => .public_

/-- The name of the file a list is kept in. -/
def fileName : Slot → String
  | private_ => "private.json"
  | localPublic => "public-local.json"
  | remotePublic => "public-remote.json"

end Slot

/-- Whether an account name may be used as a path component: non-empty, not starting with
`.`, and only ASCII letters, digits and `@._-+`. -/
def isValidAccountName (a : String) : Bool :=
  !a.isEmpty && !a.startsWith "." &&
    a.all fun c => (c.toNat < 128 && c.isAlphanum) || c ∈ ['@', '.', '_', '-', '+']

/-- The credentials of one identity type, in order. -/
def selectType (t : IdentityType) (cs : List Credential) : List Credential :=
  cs.filter fun c => c.identityType == t

/-- An account's three lists in the memory store; each is absent until it is first saved. -/
structure AccountLists where
  private_ : Option (List Credential) := none
  localPublic : Option (List Credential) := none
  remotePublic : Option (List Credential) := none
  deriving DecidableEq, Repr

namespace AccountLists

/-- The list kept in a slot. -/
def slot (l : AccountLists) : Slot → Option (List Credential)
  | .private_ => l.private_
  | .localPublic => l.localPublic
  | .remotePublic => l.remotePublic

/-- The lists with the list of one slot replaced. -/
def setSlot (l : AccountLists) : Slot → List Credential → AccountLists
  | .private_, cs => { l with private_ := some cs }
  | .localPublic, cs => { l with localPublic := some cs }
  | .remotePublic, cs => { l with remotePublic := some cs }

end AccountLists

/-- A credential store. -/
inductive CredentialStore where
  /-- lists kept in memory: the accounts saved to so far, each with its three lists -/
  | memory (accounts : String → Option AccountLists)
  /-- lists kept as files in a tree whose root is written `root` -/
  | files (root : String) (tree : FileTree)

namespace CredentialStore

/-- An empty memory store. -/
def emptyMemory : CredentialStore := .memory fun _ => none

/-- An empty file store over a root. -/
def emptyFiles (root : String) : CredentialStore := .files root .empty

/-- The path of an account's list in the file store. -/
def slotPath (account : String) (slot : Slot) : List String :=
  ["credentials", account, slot.fileName]

/-- The path of the file a list is written to before it is renamed into place. -/
def tempPath (account : String) (slot : Slot) : List String :=
  ["credentials", account, slot.fileName ++ ".tmp"]

/-- A path as messages show it. -/
def showPath (root : String) (p : List String) : String := root ++ "/" ++ "/".intercalate p

/-- The text a list is kept as. -/
def listFileText (cs : List Credential) : String := Json.pretty (.arr (cs.map Credential.toJson))

/-- Writes a list to its file: make the directory, write the temporary file, rename. The
steps done before a failing one stay done. -/
def writeList (root : String) (tree : FileTree) (account : String) (slot : Slot)
    (cs : List Credential) : Except StoreError Unit × FileTree :=
  let dir := ["credentials", account]
  match tree.makeDirAll dir with
  | .error e => (.error (.writeError (showPath root dir) e.message), tree)
  | .ok t1 =>
    let tmp := tempPath account slot
    match t1.write tmp (listFileText cs) with
    | .error e => (.error (.writeError (showPath root tmp) e.message), t1)
    | .ok t2 =>
      let target := slotPath account slot
      match t2.rename tmp target with
      | .error e => (.error (.writeError (showPath root target) e.message), t2)
      | .ok t3 => (.ok (), t3)

/-- Replaces an account's list. -/
def save (s : CredentialStore) (account : String) (slot : Slot) (cs : List Credential) :
    Except StoreError Unit × CredentialStore :=
  match s with
  | .memory accounts =>
    -- the account is entered, with no list, before its list is set
    let lists := (accounts account).getD {}
    (.ok (), .memory fun a => if a = account then some (lists.setSlot slot cs) else accounts a)
  | .files root tree =>
    if !isValidAccountName account then (.error (.invalidAccountName account), s)
    else
      let (r, tree') := writeList root tree account slot cs
      (r, .files root tree')

/-- An account's whole list. -/
def load (s : CredentialStore) (account : String) (slot : Slot) :
    Except StoreError (List Credential) :=
  match s with
  | .memory accounts =>
    match accounts account with
    | none => .error (.notFound account)
    | some lists =>
      match lists.slot slot with
      | some cs => .ok cs
      | none => .error (.notFound account)
  | .files root tree =>
    if !isValidAccountName account then .error (.invalidAccountName account)
    else
      let p := slotPath account slot
      match tree.read p with
      | .error .notFound => .error (.notFound account)
      | .error e => .error (.readError (showPath root p) e.message)
      | .ok text =>
        match Credential.listOfText slot.half text with
        | .ok cs => .ok cs
        | .error e => .error (.parseError (showPath root p) e.message)

/-- The credentials of one identity type in an account's list. -/
def get (s : CredentialStore) (account : String) (slot : Slot) (t : IdentityType) :
    Except StoreError (List Credential) :=
  selectType t <$> s.load account slot

end CredentialStore

end Proximity
