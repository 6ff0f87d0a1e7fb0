import Proximity.Text.Blank
import Proximity.Text.Ascii
import Proximity.Error

/-!
# Kinds of credentials

A credential is issued for an identity type, which says whom it identifies the device to:
only the owner's own devices (`private`), trusted contacts, anyone (`public`), or devices
provisioned by a manager app. Public credentials are either the local ones, this device's
own to share, or remote ones received from other devices.

Both are read from tokens that are trimmed and lower-cased (ASCII); a public kind is also
read from its long name (`local_public_credential`, `remote_public_credential`).

`StoreError` holds the failures of credential storage; an unknown token is a selector
error.
-/

namespace Proximity

/-- Failures of credential storage. -/
inductive StoreError where
  | notFound (account : String)
  | invalidAccountName (name : String)
  | invalidSelector (message : String)
  | readError (path message : String)
  | writeError (path message : String)
  | parseError (path message : String)
  | unavailable (message : String)
  deriving DecidableEq, Repr

namespace StoreError

/-- The error's own description. -/
def message : StoreError → String
  | notFound a => "No credentials stored for account '" ++ a ++ "'"
  | invalidAccountName n => "Invalid account name: '" ++ n ++ "'"
  | invalidSelector m => "Invalid credential selector: " ++ m
  | readError p m => "Failed to read " ++ p ++ ": " ++ m
  | writeError p m => "Failed to write " ++ p ++ ": " ++ m
  | parseError p m => "Failed to parse " ++ p ++ ": " ++ m
  | unavailable m => "Credential store unavailable: " ++ m

/-- The error it stands for. -/
def toError : StoreError → Error
  | notFound a => .credentialsNotFound a
  | invalidAccountName n => .invalidAccountName n
  | invalidSelector m => .invalidCredentialSelector m
  | unavailable m => .credentialStoreUnavailable m
  | e => .persistence e.message

/-- The failure it stands for. -/
def failure (e : StoreError) : Failure := ⟨e.message, e.toError⟩

end StoreError

/-- Whom a credential identifies the device to. -/
inductive IdentityType where
  | private_
  | trusted
  | public_
  | provisioned
  deriving DecidableEq, Repr, Inhabited

namespace IdentityType

/-- Every identity type, in order. -/
def all : List IdentityType := [private_, trusted, public_, provisioned]

/-- The token of an identity type. -/
def name : IdentityType → String
  | private_ => "private"
  | trusted => "trusted"
  | public_ => "public"
  | provisioned => "provisioned"

/-- The identity type a token names exactly. -/
def ofName? : String → Option IdentityType
  | "private" => some private_
  | "trusted" => some trusted
  | "public" => some public_
  | "provisioned" => some provisioned
  | _ => none

/-- Reads an identity type from a token, trimmed and lower-cased. -/
def parse (s : String) : Except StoreError IdentityType :=
  match ofName? (Text.lowerAscii (Text.trim s)) with
  | some t => .ok t
  | none => .error (.invalidSelector ("unknown identity type '" ++ s ++ "'"))

theorem ofName?_name (t : IdentityType) : ofName? t.name = some t := by
  cases t <;> rfl

end IdentityType

/-- Which public credentials: this device's own, or those received from others. -/
inductive PublicKind where
  | local_
  | remote
  deriving DecidableEq, Repr, Inhabited

namespace PublicKind

/-- The short token of a kind. -/
def name : PublicKind → String
  | local_ => "local"
  | remote => "remote"

/-- The long name of a kind. -/
def longName : PublicKind → String
  | local_ => "local_public_credential"
  | remote => "remote_public_credential"

/-- Reads a kind from a token, trimmed and lower-cased: its short or long name. -/
def parse (s : String) : Except StoreError PublicKind :=
  match Text.lowerAscii (Text.trim s) with
  | "local" | "local_public_credential" => .ok local_
  | "remote" | "remote_public_credential" => .ok remote
  | _ => .error (.invalidSelector ("unknown public credential type '" ++ s ++ "'"))

end PublicKind

end Proximity
