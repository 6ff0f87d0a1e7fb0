import Proximity.Api.State
import Proximity.Sync.Pull

/-!
# Credentials over the API

Private credentials are read and replaced per account; public credentials per account and
kind (`local` or `remote`, read from the path as a token); and remote public credentials
are synced on request. A read selects one identity type, given in the query and
`private` when left out. A save answers with the account and the number saved, a sync with
the account, the identity type and the number downloaded.

Store and sync failures answer with the API error of the failure. A sync without a
configured sync service answers 424.
-/

namespace Proximity

/-- The query of a read or a sync: the identity type, if given. -/
structure CredentialQuery where
  identityType : Option IdentityType := none
  deriving DecidableEq, Repr

namespace CredentialQuery

open Json

/-- The shape of a query: the identity type is its exact name, and may be left out or
`null`. -/
def shape : Shape :=
  .record "CredentialQuery" [
    { name := "identity_type", shape := .option (.variants (IdentityType.all.map IdentityType.name)),
      fallback := some .null }]

/-- Reads a query from a parsed JSON value. -/
def ofJson (j : Json) : Except String CredentialQuery := do
  let c ← shape.decode j
  pure { identityType := match c.getD "identity_type" with
    | .str s => IdentityType.ofName? s
    | _ => none }

/-- The identity type asked for; `private` when left out. -/
def selected (q : CredentialQuery) : IdentityType := q.identityType.getD .private_

end CredentialQuery

/-- The answer of a save. -/
structure SaveResponse where
  accountName : String
  saved : Nat
  deriving DecidableEq, Repr

/-- The JSON form of a save's answer. -/
def SaveResponse.toJson (r : SaveResponse) : Json :=
  .obj [("account_name", .str r.accountName), ("saved", .nat r.saved)]

/-- The answer of a sync. -/
structure SyncResponse where
  accountName : String
  identityType : IdentityType
  synced : Nat
  deriving DecidableEq, Repr

/-- The JSON form of a sync's answer. -/
def SyncResponse.toJson (r : SyncResponse) : Json :=
  .obj [("account_name", .str r.accountName), ("identity_type", .str r.identityType.name),
    ("synced", .nat r.synced)]

/-- The API error of a store failure. -/
def StoreError.toApi (e : StoreError) : ApiError := ApiError.ofError e.toError

/-- The error when no sync service is configured. -/
def syncNotConfigured : ApiError :=
  ⟨.failedDependency, "sync_not_configured", "Credential sync is not configured. Set sync.base_url."⟩

namespace AppState

/-- Reads an account's private credentials of the queried identity type. -/
def getPrivate (st : AppState) (account : String) (q : CredentialQuery) :
    Except ApiError (List Credential) :=
  (st.store.get account .private_ q.selected).mapError StoreError.toApi

/-- Replaces an account's private credentials. -/
def putPrivate (st : AppState) (account : String) (cs : List Credential) :
    Except ApiError SaveResponse × AppState :=
  let (r, store) := st.store.save account .private_ cs
  (r.mapError StoreError.toApi |>.map fun _ => ⟨account, cs.length⟩, { st with store })

/-- Reads an account's public credentials of a kind, given as a token, and of the queried
identity type. -/
def getPublic (st : AppState) (account kind : String) (q : CredentialQuery) :
    Except ApiError (List Credential) := do
  let k ← (PublicKind.parse kind).mapError StoreError.toApi
  (st.store.get account (.ofPublic k) q.selected).mapError StoreError.toApi

/-- Replaces an account's public credentials of a kind, given as a token. -/
def putPublic (st : AppState) (account kind : String) (cs : List Credential) :
    Except ApiError SaveResponse × AppState :=
  match PublicKind.parse kind with
  | .error e => (.error e.toApi, st)
  | .ok k =>
    let (r, store) := st.store.save account (.ofPublic k) cs
    (r.mapError StoreError.toApi |>.map fun _ => ⟨account, cs.length⟩, { st with store })

/-- Syncs an account's remote public credentials of the queried identity type; also gives
the requests sent. -/
def syncCredentials (st : AppState) (exchange : Exchange) (account : String)
    (q : CredentialQuery) : Except ApiError SyncResponse × AppState × List Http.Request :=
  match st.syncBase with
  | none => (.error syncNotConfigured, st, [])
  | some base =>
    let t := q.selected
    let o := pullRemote base exchange st.store account t
    (o.result.mapError (fun e => ApiError.ofError e.toError) |>.map fun n => ⟨account, t, n⟩,
      { st with store := o.store }, o.sent)

end AppState

end Proximity
