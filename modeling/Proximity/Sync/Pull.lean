import Proximity.Sync.Endpoint
import Proximity.Credential.Fallible

/-!
# Pulling remote credentials

A sync downloads the remote public credentials of one account and identity type and
stores them. It sends one `GET` to the sync endpoint, asking for JSON. A status other than
2xx is refused; the body must be a JSON list of public credentials. The stored remote
list then becomes the stored remote credentials of the other identity types, in the order
private, trusted, public, provisioned, followed by every downloaded credential. The answer
is the number downloaded.

Reading back the other identity types stops at the first one whose list is absent; since
all of them come from the same list, that happens at the first type or not at all.

Nothing is saved unless every step before the save succeeded. The file store saves through
a file system whose calls may fail (`pullRemoteOn`); a failing save may leave its temporary
file behind. The sync as it runs saves through the tree's own operations (`pullRemote`).
-/

namespace Proximity

/-- One HTTP exchange: the response to a request, or why there is none. -/
abbrev Exchange := Http.Request → Except Http.TransportError Http.Response

/-- The request a sync sends to an endpoint. -/
def syncRequest (u : Url) : Http.Request :=
  (Http.Request.get u.toString).withHeader "Accept" "application/json"

/-- The stored remote credentials of every identity type but one, stopping at the first
type whose list is absent. -/
def storedRemoteExcept (s : CredentialStore) (account : String) (skip : IdentityType) :
    List IdentityType → Except StoreError (List Credential)
  | [] => .ok []
  | t :: ts =>
    if t = skip then storedRemoteExcept s account skip ts
    else match s.get account .remotePublic t with
      | .ok cs => (cs ++ ·) <$> storedRemoteExcept s account skip ts
      | .error (.notFound _) => .ok []
      | .error e => .error e

/-- The outcome of a sync: the number downloaded or the failure, the store afterwards,
and the requests sent. -/
structure SyncOutcome where
  result : Except SyncError Nat
  store : CredentialStore
  sent : List Http.Request

/-- Downloads and stores the remote public credentials of an account and identity type, the
file store saving through a file system that may fail. -/
def pullRemoteOn (fs : FallibleFiles) (base : Url) (exchange : Exchange) (s : CredentialStore)
    (account : String) (t : IdentityType) : SyncOutcome :=
  match syncEndpoint base account t with
  | .error e => ⟨.error e, s, []⟩
  | .ok url =>
    let request := syncRequest url
    let failed (e : SyncError) : SyncOutcome := ⟨.error e, s, [request]⟩
    match exchange request with
    | .error e => failed (.transport e)
    | .ok response =>
      if !response.isSuccess then failed (.status response.statusCode response.statusText)
      else match Credential.listOfText .public_ response.body with
        | .error e => failed (.decode e)
        | .ok downloaded =>
          match storedRemoteExcept s account t IdentityType.all with
          | .error e => failed (.store e)
          | .ok kept =>
            let (r, s') := s.saveWith fs account .remotePublic (kept ++ downloaded)
            match r with
            | .ok () => ⟨.ok downloaded.length, s', [request]⟩
            | .error e => ⟨.error (.store e), s', [request]⟩

/-- Downloads and stores the remote public credentials of an account and identity type. -/
def pullRemote (base : Url) (exchange : Exchange) (s : CredentialStore) (account : String)
    (t : IdentityType) : SyncOutcome :=
  pullRemoteOn .reliable base exchange s account t

end Proximity
