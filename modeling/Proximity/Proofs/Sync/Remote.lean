import Proximity.Proofs.Credential.Faults
import Proximity.Sync.Pull

/-!
# What a sync leaves in the store

A sync of account `a` and identity type `t` downloads a list `L` of public credentials and
saves, as the account's remote list, the stored remote credentials of the other identity types
followed by the whole of `L`. The other types are read back one by one, in the order of
`IdentityType.all`, so they come grouped by type (`othersByType`); the reading stops at the
first absent list, and since all four reads come from the one remote list, it is absent for
all of them or for none.

The identity types inside `L` are not looked at. A credential of another type `u` in the
download therefore joins `u`'s remote credentials, and the credentials of type `t` that end up
stored are those of `L`, not `L` itself. When the service answers as asked, with credentials of
type `t` only, the sync replaces exactly the remote credentials of type `t`, and running it
again changes nothing.

A sync that fails saves nothing that any read can see: every stage before the save leaves the
store as it was, the memory store takes every save, and a failing save of the file store, at
whichever call of a file system that may fail, leaves only directories and a temporary file
that no read looks at. These results are stated for a sync over any such file system
(`pullRemoteOn`); the sync as it runs is the one over the tree's own operations.

**Results.**
* `storedRemoteExcept_eq_ok`: what a sync keeps of the stored remote list.
* `pullRemoteOn_cases`: everything a sync can do, stage by stage.
* `pullRemote_merges_download`: the lists after a sync that succeeds.
* `pullRemote_stores_download_under_its_own_type`: a `trusted` credential downloaded by a
  sync of type `private` is stored as `trusted`, and the `private` list stays empty.
* `pullRemote_failure_leaves_reads`: a sync that fails leaves every read as it was, and it
  sends its one request exactly when the endpoint can be built.
-/

namespace Proximity

/-! ## Credentials grouped by identity type -/

@[simp] theorem selectType_append (u : IdentityType) (xs ys : List Credential) :
    selectType u (xs ++ ys) = selectType u xs ++ selectType u ys := by
  simp [selectType]

theorem selectType_selectType (u v : IdentityType) (cs : List Credential) :
    selectType u (selectType v cs) = if u = v then selectType u cs else [] := by
  by_cases h : u = v
  · subst h
    simp [selectType, List.filter_filter]
  · simp only [selectType, List.filter_filter, h, if_false, List.filter_eq_nil_iff]
    intro c _ hc
    simp only [Bool.and_eq_true, beq_iff_eq] at hc
    exact h (hc.1.symm.trans hc.2)

theorem selectType_eq_nil {u : IdentityType} {L : List Credential}
    (h : ∀ c ∈ L, c.identityType ≠ u) : selectType u L = [] :=
  List.filter_eq_nil_iff.2 fun c hc => by simpa using h c hc

/-- The credentials of a list other than those of one identity type, grouped by type in the
order of `IdentityType.all`. -/
def othersByType (skip : IdentityType) (cs : List Credential) : List Credential :=
  (IdentityType.all.filter (· != skip)).flatMap fun u => selectType u cs

theorem selectType_othersByType (u skip : IdentityType) (cs : List Credential) :
    selectType u (othersByType skip cs) = if u = skip then [] else selectType u cs := by
  cases u <;> cases skip <;> simp [othersByType, IdentityType.all, selectType_selectType]

/-- Two lists group alike when they agree on every type but the skipped one. -/
theorem othersByType_congr {skip : IdentityType} {xs ys : List Credential}
    (h : ∀ u, u ≠ skip → selectType u xs = selectType u ys) :
    othersByType skip xs = othersByType skip ys := by
  rw [othersByType, othersByType, List.flatMap_def, List.flatMap_def,
    List.map_congr_left fun u hu => h u (by simpa using (List.mem_filter.1 hu).2)]

/-- Grouping a group again, with credentials of the skipped type after it, gives it back. -/
theorem othersByType_othersByType_append {skip : IdentityType} (cs : List Credential)
    {L : List Credential} (hL : ∀ c ∈ L, c.identityType = skip) :
    othersByType skip (othersByType skip cs ++ L) = othersByType skip cs := by
  refine othersByType_congr fun u hu => ?_
  rw [selectType_append, selectType_othersByType, if_neg hu,
    selectType_eq_nil fun c hc he => hu (he.symm.trans (hL c hc)), List.append_nil]

@[simp] theorem othersByType_nil (skip : IdentityType) : othersByType skip [] = [] := by
  cases skip <;> rfl

theorem othersByType_of_forall_type {skip : IdentityType} {L : List Credential}
    (hL : ∀ c ∈ L, c.identityType = skip) : othersByType skip L = [] := by
  simpa using othersByType_othersByType_append [] hL

/-! ## Reading back the other identity types -/

namespace CredentialStore

theorem get_of_load_ok {s : CredentialStore} {b : String} {k : Slot} {cs : List Credential}
    (h : s.load b k = .ok cs) (u : IdentityType) : s.get b k u = .ok (selectType u cs) := by
  simp [get, h, Functor.map, Except.map]

theorem get_of_load_error {s : CredentialStore} {b : String} {k : Slot} {e : StoreError}
    (h : s.load b k = .error e) (u : IdentityType) : s.get b k u = .error e := by
  simp [get, h, Functor.map, Except.map]

theorem notFound_account {s : CredentialStore} {a n : String} {k : Slot}
    (h : s.load a k = .error (.notFound n)) : n = a := by
  cases s with
  | memory accounts =>
    rw [load_memory] at h
    cases hh : heldLists accounts a k with
    | none =>
      simp only [hh, Except.error.injEq, StoreError.notFound.injEq] at h
      exact h.symm
    | some cs => simp [hh] at h
  | files root t =>
    by_cases ha : isValidAccountName a = true
    · simp only [load, ha, Bool.not_true, Bool.false_eq_true, if_false] at h
      split at h
      · cases h
        rfl
      · cases h
      · split at h <;> cases h
    · simp [load, ha] at h

end CredentialStore

variable {s : CredentialStore} {a : String} {skip : IdentityType}

theorem storedRemoteExcept_of_load_ok {cs : List Credential}
    (h : s.load a .remotePublic = .ok cs) (ts : List IdentityType) :
    storedRemoteExcept s a skip ts =
      .ok ((ts.filter (· != skip)).flatMap fun u => selectType u cs) := by
  induction ts with
  | nil => rfl
  | cons u ts ih =>
    by_cases hu : u = skip
    · simp [storedRemoteExcept, hu, ih]
    · simp [storedRemoteExcept, hu, ih, CredentialStore.get_of_load_ok h]

theorem storedRemoteExcept_of_load_notFound {n : String}
    (h : s.load a .remotePublic = .error (.notFound n)) (ts : List IdentityType) :
    storedRemoteExcept s a skip ts = .ok [] := by
  induction ts with
  | nil => rfl
  | cons u ts ih =>
    by_cases hu : u = skip
    · simp [storedRemoteExcept, hu, ih]
    · simp [storedRemoteExcept, hu, CredentialStore.get_of_load_error h]

theorem storedRemoteExcept_of_load_error {e : StoreError}
    (h : s.load a .remotePublic = .error e) (he : ∀ n, e ≠ .notFound n) (ts : List IdentityType) :
    storedRemoteExcept s a skip ts = if ts.all (· == skip) then .ok [] else .error e := by
  induction ts with
  | nil => rfl
  | cons u ts ih =>
    by_cases hu : u = skip
    · simp [storedRemoteExcept, hu, ih]
    · cases e <;> simp_all [storedRemoteExcept, CredentialStore.get_of_load_error h]

/-- What a sync keeps of the stored remote list: the credentials of the other types, grouped,
or nothing when the list is absent. -/
theorem storedRemoteExcept_eq_ok {kept : List Credential}
    (h : storedRemoteExcept s a skip IdentityType.all = .ok kept) :
    (∃ cs, s.load a .remotePublic = .ok cs ∧ kept = othersByType skip cs) ∨
      (s.load a .remotePublic = .error (.notFound a) ∧ kept = []) := by
  cases hl : s.load a .remotePublic with
  | ok cs =>
    rw [storedRemoteExcept_of_load_ok hl, Except.ok.injEq] at h
    exact .inl ⟨cs, rfl, h.symm⟩
  | error e =>
    by_cases hn : ∃ n, e = .notFound n
    · obtain ⟨n, rfl⟩ := hn
      rw [storedRemoteExcept_of_load_notFound hl, Except.ok.injEq] at h
      exact .inr ⟨by rw [CredentialStore.notFound_account hl], h.symm⟩
    · rw [storedRemoteExcept_of_load_error hl (fun n he => hn ⟨n, he⟩)] at h
      cases skip <;> simp [IdentityType.all] at h

/-! ## The stages of a sync -/

/-- **Everything a sync can do.** Without an endpoint it fails and sends nothing. Otherwise it
sends one request, and fails with the store as it was on a transport failure, on a status
other than 2xx, on a body that is no list of credentials, or when the other types cannot be
read back. Otherwise it saves the merged list: it answers the number downloaded when the save
succeeds, and otherwise fails with the store the save left. -/
theorem pullRemoteOn_cases (fs : FallibleFiles) (base : Url) (exchange : Exchange)
    (s : CredentialStore) (a : String) (t : IdentityType) :
    (∃ e, syncEndpoint base a t = .error e ∧
      pullRemoteOn fs base exchange s a t = ⟨.error e, s, []⟩) ∨
    ∃ url, syncEndpoint base a t = .ok url ∧
      ((∃ e, exchange (syncRequest url) = .error e ∧
          pullRemoteOn fs base exchange s a t = ⟨.error (.transport e), s, [syncRequest url]⟩) ∨
        ∃ resp, exchange (syncRequest url) = .ok resp ∧
          ((resp.isSuccess = false ∧ pullRemoteOn fs base exchange s a t =
              ⟨.error (.status resp.statusCode resp.statusText), s, [syncRequest url]⟩) ∨
            (resp.isSuccess = true ∧ ∃ e, Credential.listOfText .public_ resp.body = .error e ∧
              pullRemoteOn fs base exchange s a t = ⟨.error (.decode e), s, [syncRequest url]⟩) ∨
            (resp.isSuccess = true ∧ ∃ L, Credential.listOfText .public_ resp.body = .ok L ∧
              ((∃ e, storedRemoteExcept s a t IdentityType.all = .error e ∧
                  pullRemoteOn fs base exchange s a t =
                    ⟨.error (.store e), s, [syncRequest url]⟩) ∨
                ∃ kept, storedRemoteExcept s a t IdentityType.all = .ok kept ∧
                  ((∃ s', s.saveWith fs a .remotePublic (kept ++ L) = (.ok (), s') ∧
                      pullRemoteOn fs base exchange s a t =
                        ⟨.ok L.length, s', [syncRequest url]⟩) ∨
                    (∃ e s', s.saveWith fs a .remotePublic (kept ++ L) = (.error e, s') ∧
                      pullRemoteOn fs base exchange s a t =
                        ⟨.error (.store e), s', [syncRequest url]⟩)))))) := by
  cases hurl : syncEndpoint base a t with
  | error e => exact .inl ⟨e, rfl, by simp [pullRemoteOn, hurl]⟩
  | ok url =>
    refine .inr ⟨url, rfl, ?_⟩
    cases hex : exchange (syncRequest url) with
    | error e => exact .inl ⟨e, rfl, by simp [pullRemoteOn, hurl, hex]⟩
    | ok resp =>
      refine .inr ⟨resp, rfl, ?_⟩
      cases hsucc : resp.isSuccess with
      | false => exact .inl ⟨rfl, by simp [pullRemoteOn, hurl, hex, hsucc]⟩
      | true =>
        cases hdec : Credential.listOfText .public_ resp.body with
        | error e =>
          exact .inr (.inl ⟨rfl, e, rfl, by simp [pullRemoteOn, hurl, hex, hsucc, hdec]⟩)
        | ok L =>
          refine .inr (.inr ⟨rfl, L, rfl, ?_⟩)
          cases hkept : storedRemoteExcept s a t IdentityType.all with
          | error e => exact .inl ⟨e, rfl, by simp [pullRemoteOn, hurl, hex, hsucc, hdec, hkept]⟩
          | ok kept =>
            refine .inr ⟨kept, rfl, ?_⟩
            rcases hsave : s.saveWith fs a .remotePublic (kept ++ L) with ⟨r, s'⟩
            cases r with
            | ok u =>
              exact .inl ⟨s', rfl, by simp [pullRemoteOn, hurl, hex, hsucc, hdec, hkept, hsave]⟩
            | error e =>
              exact .inr ⟨e, s', rfl, by simp [pullRemoteOn, hurl, hex, hsucc, hdec, hkept, hsave]⟩

/-- The only endpoint that cannot be built is refused as an invalid URL. -/
theorem syncEndpoint_eq_error {base : Url} {a : String} {t : IdentityType} {e : SyncError}
    (h : syncEndpoint base a t = .error e) : e = .invalidUrl base.toString := by
  simp only [syncEndpoint] at h
  cases hw : base.withSegments ["v1", "accounts", a, "public-credentials"] <;> rw [hw] at h
  · exact (Except.error.inj h).symm
  · cases h

/-- Every sync sends the request for its endpoint when the endpoint can be built, and nothing
otherwise. -/
theorem pullRemoteOn_sent (fs : FallibleFiles) (base : Url) (exchange : Exchange)
    (s : CredentialStore) (a : String) (t : IdentityType) :
    (pullRemoteOn fs base exchange s a t).sent =
      match syncEndpoint base a t with
      | .ok url => [syncRequest url]
      | .error _ => [] := by
  rcases pullRemoteOn_cases fs base exchange s a t with ⟨e, hurl, h⟩ | ⟨url, hurl, hrest⟩
  · rw [h, hurl]
  · rw [hurl]
    rcases hrest with ⟨e, -, h⟩ | ⟨resp, -, ⟨-, h⟩ | ⟨-, e, -, h⟩ | ⟨-, L, -, ⟨e, -, h⟩ | ⟨kept, -,
      ⟨s', -, h⟩ | ⟨e, s', -, h⟩⟩⟩⟩ <;> rw [h]

/-- A sync that fails leaves the store as it was, or as a failing save of a list left it. -/
theorem pullRemoteOn_store_of_error {fs : FallibleFiles} {base : Url} {exchange : Exchange}
    {s : CredentialStore} {a : String} {t : IdentityType} {e : SyncError}
    (h : (pullRemoteOn fs base exchange s a t).result = .error e) :
    (pullRemoteOn fs base exchange s a t).store = s ∨
      ∃ cs e', s.saveWith fs a .remotePublic cs =
        (.error e', (pullRemoteOn fs base exchange s a t).store) := by
  rcases pullRemoteOn_cases fs base exchange s a t with ⟨e, -, hp⟩ | ⟨url, -, ⟨e, -, hp⟩ | ⟨resp, -,
    ⟨-, hp⟩ | ⟨-, e, -, hp⟩ | ⟨-, L, -, ⟨e, -, hp⟩ | ⟨kept, -, ⟨s', -, hp⟩ |
    ⟨e, s', hsave, hp⟩⟩⟩⟩⟩ <;> rw [hp] at h ⊢
  · exact .inl rfl
  · exact .inl rfl
  · exact .inl rfl
  · exact .inl rfl
  · exact .inl rfl
  · cases h
  · exact .inr ⟨_, e, hsave⟩

/-- **A sync that fails saves nothing.** On the memory store, or on a file store over a
well-formed tree whose file system may fail at any call, a sync that fails, at whatever stage,
leaves every read of every list as it was. A failure on the status arises only from an answer
outside 2xx, and carries its code and text. Every sync sends exactly the request for its
endpoint when the endpoint can be built, and nothing otherwise. -/
theorem pullRemote_failure_leaves_reads (fs : FallibleFiles) (base : Url) (exchange : Exchange)
    (s : CredentialStore) (a : String) (t : IdentityType) (hs : s.WellFormed) {e : SyncError}
    (h : (pullRemoteOn fs base exchange s a t).result = .error e) :
    (∀ b k u, (pullRemoteOn fs base exchange s a t).store.get b k u = s.get b k u) ∧
    (∀ code text, e = .status code text → ∃ url resp, syncEndpoint base a t = .ok url ∧
      exchange (syncRequest url) = .ok resp ∧ resp.isSuccess = false ∧
      code = resp.statusCode ∧ text = resp.statusText) ∧
    (pullRemoteOn fs base exchange s a t).sent =
      match syncEndpoint base a t with
      | .ok url => [syncRequest url]
      | .error _ => [] := by
  refine ⟨fun b k u => ?_, fun code text he => ?_, pullRemoteOn_sent fs base exchange s a t⟩
  · rcases pullRemoteOn_store_of_error h with hp | ⟨cs, e', hsave⟩
    · rw [hp]
    · exact CredentialStore.get_eq_of_load_eq
        ((CredentialStore.saveWith_of_error fs hs hsave).2 b k) u
  · -- every other stage fails with an error of its own kind
    subst he
    rcases pullRemoteOn_cases fs base exchange s a t with ⟨e, hurl, hp⟩ | ⟨url, hurl, ⟨e, -, hp⟩ | ⟨resp,
      hex, ⟨hsucc, hp⟩ | ⟨-, e, -, hp⟩ | ⟨-, L, -, ⟨e, -, hp⟩ | ⟨kept, -, ⟨s', -, hp⟩ |
      ⟨e, s', -, hp⟩⟩⟩⟩⟩ <;> rw [hp] at h <;> simp at h
    · cases syncEndpoint_eq_error hurl
      cases h
    · obtain ⟨rfl, rfl⟩ := h
      exact ⟨url, resp, hurl, hex, hsucc, rfl, rfl⟩

/-- A service that answers `500` to a sync of the empty memory store: the sync fails with that
status, and every read is as it was. -/
theorem pullRemote_server_error_leaves_reads :
    (pullRemote
      { scheme := "https", authority := some { host := .domain "s.example" },
        path := .segments [""] }
      (fun _ => .ok { statusCode := 500, statusText := "Internal Server Error" })
      CredentialStore.emptyMemory "alice" .private_).result =
      .error (.status 500 "Internal Server Error") ∧
    ∀ b k u, (pullRemote
      { scheme := "https", authority := some { host := .domain "s.example" },
        path := .segments [""] }
      (fun _ => .ok { statusCode := 500, statusText := "Internal Server Error" })
      CredentialStore.emptyMemory "alice" .private_).store.get b k u =
      CredentialStore.emptyMemory.get b k u := by
  obtain ⟨url, hurl⟩ : ∃ url, syncEndpoint
      { scheme := "https", authority := some { host := .domain "s.example" },
        path := .segments [""] }
      "alice" .private_ = .ok url := ⟨_, rfl⟩
  have h : (pullRemote
      { scheme := "https", authority := some { host := .domain "s.example" },
        path := .segments [""] }
      (fun _ => .ok { statusCode := 500, statusText := "Internal Server Error" })
      CredentialStore.emptyMemory "alice" .private_).result =
      .error (.status 500 "Internal Server Error") := by
    simp [pullRemote, pullRemoteOn, hurl, Http.Response.isSuccess]
  exact ⟨h, (pullRemote_failure_leaves_reads .reliable _ _ _ _ _ (by exact trivial) h).1⟩

/-! ## A sync that succeeds -/

section Success

variable {t : IdentityType} {base : Url} {exchange : Exchange} {url : Url}
  {resp : Http.Response} {L : List Credential}

/-- A sync whose every stage succeeds answers the number downloaded, with the store its save
left. -/
theorem pullRemote_of_save_ok (hurl : syncEndpoint base a t = .ok url)
    (hex : exchange (syncRequest url) = .ok resp) (hsucc : resp.isSuccess = true)
    (hdec : Credential.listOfText .public_ resp.body = .ok L) {kept : List Credential}
    (hkept : storedRemoteExcept s a t IdentityType.all = .ok kept) {s' : CredentialStore}
    (hsave : s.save a .remotePublic (kept ++ L) = (.ok (), s')) :
    pullRemote base exchange s a t = ⟨.ok L.length, s', [syncRequest url]⟩ := by
  simp [pullRemote, pullRemoteOn, hurl, hex, hsucc, hdec, hkept, hsave]

/-- A sync that succeeds went through every stage: the answer was 2xx, the other types were
read back, and the merged list was saved. -/
theorem pullRemote_of_ok (hurl : syncEndpoint base a t = .ok url)
    (hex : exchange (syncRequest url) = .ok resp)
    (hdec : Credential.listOfText .public_ resp.body = .ok L) {n : Nat}
    (hok : (pullRemote base exchange s a t).result = .ok n) :
    resp.isSuccess = true ∧ ∃ kept s', storedRemoteExcept s a t IdentityType.all = .ok kept ∧
      s.save a .remotePublic (kept ++ L) = (.ok (), s') ∧
      pullRemote base exchange s a t = ⟨.ok L.length, s', [syncRequest url]⟩ := by
  -- the sync as it runs saves through the tree's own operations
  unfold pullRemote at hok ⊢
  rcases pullRemoteOn_cases .reliable base exchange s a t with ⟨e, hurl', -⟩ | ⟨url', hurl', hrest⟩
  · rw [hurl] at hurl'
    cases hurl'
  · rw [hurl, Except.ok.injEq] at hurl'
    subst hurl'
    rcases hrest with ⟨e, hex', -⟩ | ⟨resp', hex', hrest⟩
    · rw [hex] at hex'
      cases hex'
    · rw [hex, Except.ok.injEq] at hex'
      subst hex'
      rcases hrest with ⟨-, hp⟩ | ⟨-, e, -, hp⟩ | ⟨hsucc, L', hdec', hrest⟩
      · rw [hp] at hok
        cases hok
      · rw [hp] at hok
        cases hok
      · rw [hdec, Except.ok.injEq] at hdec'
        subst hdec'
        rcases hrest with ⟨e, -, hp⟩ | ⟨kept, hkept, ⟨s', hsave, hp⟩ | ⟨e, s', -, hp⟩⟩
        · rw [hp] at hok
          cases hok
        · rw [CredentialStore.saveWith_reliable] at hsave
          exact ⟨hsucc, kept, s', hkept, hsave, hp⟩
        · rw [hp] at hok
          cases hok

/-- The remote list a sync saves holds no credential of the synced type but the downloaded
ones. -/
theorem selectType_kept {kept : List Credential}
    (h : storedRemoteExcept s a t IdentityType.all = .ok kept) : selectType t kept = [] := by
  rcases storedRemoteExcept_eq_ok h with ⟨cs, -, rfl⟩ | ⟨-, rfl⟩
  · simp [selectType_othersByType]
  · rfl

/-- **What a sync that succeeds leaves in the store.** Take the memory store, or a file store
over a well-formed tree that keeps the merged list. If the sync answers `n`, then `n` is the
number of credentials downloaded; the remote credentials of the synced type are those of the
download; those of every other type are the ones stored before (none where the list was
absent) followed by those of the download; every other list, of this account or another, is
as it was. When the service answers with credentials of the synced type only, running the
same sync again gives the same outcome. -/
theorem pullRemote_merges_download (hurl : syncEndpoint base a t = .ok url)
    (hex : exchange (syncRequest url) = .ok resp)
    (hdec : Credential.listOfText .public_ resp.body = .ok L) (hs : s.WellFormed)
    (hkeep : ∀ kept, storedRemoteExcept s a t IdentityType.all = .ok kept →
      s.Keeps .remotePublic (kept ++ L))
    {n : Nat} (hok : (pullRemote base exchange s a t).result = .ok n) :
    n = L.length ∧
    (pullRemote base exchange s a t).store.get a .remotePublic t = .ok (selectType t L) ∧
    (∀ u, u ≠ t → ∃ before, (s.get a .remotePublic u = .ok before ∨
        s.get a .remotePublic u = .error (.notFound a) ∧ before = []) ∧
      (pullRemote base exchange s a t).store.get a .remotePublic u =
        .ok (before ++ selectType u L)) ∧
    (∀ b k u, ¬(b = a ∧ k = .remotePublic) →
      (pullRemote base exchange s a t).store.get b k u = s.get b k u) ∧
    ((∀ c ∈ L, c.identityType = t) →
      pullRemote base exchange (pullRemote base exchange s a t).store a t =
        pullRemote base exchange s a t) := by
  obtain ⟨hsucc, kept, s', hkept, hsave, hp⟩ := pullRemote_of_ok hurl hex hdec hok
  rw [hp] at hok ⊢
  obtain ⟨-, hload, hother, hagain⟩ := CredentialStore.save_of_ok hs (hkeep kept hkept) hsave
  refine ⟨(Except.ok.inj hok).symm, ?_, fun u hu => ?_, fun b k u hne => ?_, fun hL => ?_⟩
  · rw [CredentialStore.get_of_load_ok hload, selectType_append, selectType_kept hkept,
      List.nil_append]
  · -- the types kept were read from the stored list, or the list was absent
    rcases storedRemoteExcept_eq_ok hkept with ⟨cs, hl, rfl⟩ | ⟨hl, rfl⟩
    · refine ⟨selectType u cs, .inl (CredentialStore.get_of_load_ok hl u), ?_⟩
      rw [CredentialStore.get_of_load_ok hload, selectType_append, selectType_othersByType,
        if_neg hu]
    · refine ⟨[], .inr ⟨CredentialStore.get_of_load_error hl u, rfl⟩, ?_⟩
      rw [CredentialStore.get_of_load_ok hload, List.nil_append, List.nil_append]
  · exact CredentialStore.get_eq_of_load_eq (hother b k hne) u
  · -- reading back the other types of the saved list gives what was kept the first time
    have hkept' : storedRemoteExcept s' a t IdentityType.all = .ok kept := by
      rw [storedRemoteExcept_of_load_ok hload]
      show Except.ok (othersByType t (kept ++ L)) = _
      rcases storedRemoteExcept_eq_ok hkept with ⟨cs, -, rfl⟩ | ⟨-, rfl⟩
      · rw [othersByType_othersByType_append cs hL]
      · rw [List.nil_append, othersByType_of_forall_type hL]
    exact pullRemote_of_save_ok hurl hex hsucc hdec hkept' hagain

/-- A sync of type `private` that downloads one `private` credential into the empty memory
store: the credential becomes the account's remote `private` list, and syncing again gives the
same outcome. -/
theorem pullRemote_stores_private_download :
    (pullRemote
      { scheme := "https", authority := some { host := .domain "s.example" },
        path := .segments [""] }
      (fun _ => .ok { statusCode := 200, body := (Credential.listText
        [{ identityType := .private_, secretId := [1], version := 1,
           startTime := ⟨1767225600, 0⟩, endTime := ⟨1767312000, 0⟩, material := [2] }]) })
      CredentialStore.emptyMemory "alice" .private_).store.get "alice" .remotePublic .private_ =
      .ok [{ identityType := .private_, secretId := [1], version := 1,
             startTime := ⟨1767225600, 0⟩, endTime := ⟨1767312000, 0⟩, material := [2] }] ∧
    pullRemote
      { scheme := "https", authority := some { host := .domain "s.example" },
        path := .segments [""] }
      (fun _ => .ok { statusCode := 200, body := (Credential.listText
        [{ identityType := .private_, secretId := [1], version := 1,
           startTime := ⟨1767225600, 0⟩, endTime := ⟨1767312000, 0⟩, material := [2] }]) })
      (pullRemote
        { scheme := "https", authority := some { host := .domain "s.example" },
          path := .segments [""] }
        (fun _ => .ok { statusCode := 200, body := (Credential.listText
        [{ identityType := .private_, secretId := [1], version := 1,
           startTime := ⟨1767225600, 0⟩, endTime := ⟨1767312000, 0⟩, material := [2] }]) })
        CredentialStore.emptyMemory "alice" .private_).store "alice" .private_ =
    pullRemote
      { scheme := "https", authority := some { host := .domain "s.example" },
        path := .segments [""] }
      (fun _ => .ok { statusCode := 200, body := (Credential.listText
        [{ identityType := .private_, secretId := [1], version := 1,
           startTime := ⟨1767225600, 0⟩, endTime := ⟨1767312000, 0⟩, material := [2] }]) })
      CredentialStore.emptyMemory "alice" .private_ := by
  obtain ⟨url, hurl⟩ : ∃ url, syncEndpoint
      { scheme := "https", authority := some { host := .domain "s.example" },
        path := .segments [""] }
      "alice" .private_ = .ok url := ⟨_, rfl⟩
  have hdec := eq_ok_of_toOption (e := Credential.listOfText .public_ (Credential.listText
        [{ identityType := .private_, secretId := [1], version := 1,
           startTime := ⟨1767225600, 0⟩, endTime := ⟨1767312000, 0⟩, material := [2] }]))
    (x := [{ identityType := .private_, secretId := [1], version := 1,
             startTime := ⟨1767225600, 0⟩, endTime := ⟨1767312000, 0⟩, material := [2] }])
    (by decide +kernel)
  have hkept : storedRemoteExcept CredentialStore.emptyMemory "alice" .private_
      IdentityType.all = .ok [] :=
    storedRemoteExcept_of_load_notFound (n := "alice")
      (by simp [CredentialStore.emptyMemory, CredentialStore.load]) _
  have hok : (pullRemote
      { scheme := "https", authority := some { host := .domain "s.example" },
        path := .segments [""] }
      (fun _ => .ok { statusCode := 200, body := (Credential.listText
        [{ identityType := .private_, secretId := [1], version := 1,
           startTime := ⟨1767225600, 0⟩, endTime := ⟨1767312000, 0⟩, material := [2] }]) })
      CredentialStore.emptyMemory "alice" .private_).result = .ok 1 := by
    simp only [pullRemote, pullRemoteOn, hurl, hdec, hkept, Http.Response.isSuccess, List.nil_append]
    rfl
  obtain ⟨-, hget, -, -, hagain⟩ := pullRemote_merges_download hurl (by exact rfl)
    (by exact hdec) (by exact trivial) (by exact fun _ _ => trivial) hok
  exact ⟨hget, hagain (by simp)⟩

/-- A sync of type `private` whose service answers with a `trusted` credential stores it as a
remote `trusted` credential: the remote `private` list stays empty. -/
theorem pullRemote_stores_download_under_its_own_type :
    (pullRemote
      { scheme := "https", authority := some { host := .domain "s.example" },
        path := .segments [""] }
      (fun _ => .ok { statusCode := 200, body := (Credential.listText
        [{ identityType := .trusted, secretId := [1], version := 1,
           startTime := ⟨1767225600, 0⟩, endTime := ⟨1767312000, 0⟩, material := [2] }]) })
      CredentialStore.emptyMemory "alice" .private_).result = .ok 1 ∧
    (pullRemote
      { scheme := "https", authority := some { host := .domain "s.example" },
        path := .segments [""] }
      (fun _ => .ok { statusCode := 200, body := (Credential.listText
        [{ identityType := .trusted, secretId := [1], version := 1,
           startTime := ⟨1767225600, 0⟩, endTime := ⟨1767312000, 0⟩, material := [2] }]) })
      CredentialStore.emptyMemory "alice" .private_).store.get "alice" .remotePublic .private_ =
      .ok [] ∧
    (pullRemote
      { scheme := "https", authority := some { host := .domain "s.example" },
        path := .segments [""] }
      (fun _ => .ok { statusCode := 200, body := (Credential.listText
        [{ identityType := .trusted, secretId := [1], version := 1,
           startTime := ⟨1767225600, 0⟩, endTime := ⟨1767312000, 0⟩, material := [2] }]) })
      CredentialStore.emptyMemory "alice" .private_).store.get "alice" .remotePublic .trusted =
      .ok [{ identityType := .trusted, secretId := [1], version := 1,
             startTime := ⟨1767225600, 0⟩, endTime := ⟨1767312000, 0⟩, material := [2] }] := by
  obtain ⟨url, hurl⟩ : ∃ url, syncEndpoint
      { scheme := "https", authority := some { host := .domain "s.example" },
        path := .segments [""] }
      "alice" .private_ = .ok url := ⟨_, rfl⟩
  have hdec := eq_ok_of_toOption (e := Credential.listOfText .public_ (Credential.listText
        [{ identityType := .trusted, secretId := [1], version := 1,
           startTime := ⟨1767225600, 0⟩, endTime := ⟨1767312000, 0⟩, material := [2] }]))
    (x := [{ identityType := .trusted, secretId := [1], version := 1,
             startTime := ⟨1767225600, 0⟩, endTime := ⟨1767312000, 0⟩, material := [2] }])
    (by decide +kernel)
  have hkept : storedRemoteExcept CredentialStore.emptyMemory "alice" .private_
      IdentityType.all = .ok [] :=
    storedRemoteExcept_of_load_notFound (n := "alice")
      (by simp [CredentialStore.emptyMemory, CredentialStore.load]) _
  simp only [pullRemote, pullRemoteOn, hurl, hdec, hkept, Http.Response.isSuccess, List.nil_append]
  exact ⟨rfl, rfl, rfl⟩

end Success

end Proximity
